import RouteSync.Decimal.Shortest

/-!
# JSON numbers

A number is an exact integer of 64 bits, signed or unsigned, or a double. Which of the two a written
number denotes is decided by its spelling: a fraction, an exponent, a minus before zero or a size
beyond 64 bits makes it a double. An integer and a double are never the same number.

`Number.Literal` is a number as written, `Literal.value?` what it denotes and `Number.chars` its
printed form.
-/

namespace RouteSync.Json

/-- The integers that some 64-bit word, signed or unsigned, can hold: from `-2 ^ 63` on and below
`2 ^ 64`. -/
def FitsWord (n : Int) : Prop := -9223372036854775808 ≤ n ∧ n < 18446744073709551616

instance (n : Int) : Decidable (FitsWord n) := inferInstanceAs (Decidable (_ ∧ _))

/-- A number. -/
inductive Number where
  | integer (n : Int) (fits : FitsWord n)
  | double (d : Double)
  deriving DecidableEq

namespace Number

/-- The integer value of a 64-bit word. -/
def ofWord (n : UInt64) : Number := .integer n.toNat (by
  have := n.toNat_lt
  constructor <;> omega)

/-- Equality of the numbers: doubles are compared as numbers, and only with doubles. -/
def same : Number → Number → Bool
  | .integer a _, .integer b _ => a == b
  | .double a, .double b => a.same b
  | _, _ => false

/-- A number as written: a sign, digits, and perhaps a fraction and a signed exponent. -/
structure Literal where
  negative : Bool
  whole : List Nat
  fraction : Option (List Nat)
  exponent : Option (Bool × List Nat)
  deriving DecidableEq

namespace Literal

/-- The natural number with these digits. -/
def natural (digits : List Nat) : Nat := digits.foldl (fun n d => 10 * n + d) 0

/-- Appends digits to a significand while it stays within 64 bits; the second component counts the
digits that were taken. -/
def absorb : Nat → List Nat → Nat × Nat
  | n, [] => (n, 0)
  | n, d :: ds =>
    if 10 * n + d < UInt64.size then
      let (m, taken) := absorb (10 * n + d) ds
      (m, taken + 1)
    else (n, 0)

/-- The exponent after the letter `e`, zero where there is none. -/
def givenExponent (l : Literal) : Int :=
  match l.exponent with
  | none => 0
  | some (negative, digits) => if negative then -(natural digits : Int) else natural digits

/-- The double that the digits denote: as many digits as fit in a 64-bit significand count, the
others of the whole part only move the point. -/
def double? (l : Literal) : Option Double :=
  let (front, frontTaken) := absorb 0 l.whole
  let (significand, fractionTaken) := absorb front (l.fraction.getD [])
  Double.ofDecimal? l.negative significand
    ((l.whole.length : Int) - frontTaken - fractionTaken + l.givenExponent)

/-- The integer that the literal spells, if it is one of 64 bits; `-0` spells none. -/
def integer? (l : Literal) : Option Int :=
  if l.fraction.isSome || l.exponent.isSome then none else
    let n := natural l.whole
    if l.negative then if 0 < n ∧ n ≤ 9223372036854775808 then some (-(n : Int)) else none
    else if n < UInt64.size then some n else none

/-- The unsigned 64-bit word that the literal spells, if it is one. -/
def word? (l : Literal) : Option UInt64 :=
  match l.integer? with
  | some (.ofNat n) => some (UInt64.ofNat n)
  | _ => none

/-- The number that the literal denotes; none if it is too large for a double. -/
def value? (l : Literal) : Option Number :=
  match l.integer? with
  | some n => if h : FitsWord n then some (.integer n h) else none
  | none => l.double?.map .double

end Literal

/-- How printed doubles look: the exponents of the leading digit that are written positionally. A
positional form always has a fraction; any other form has one digit before the point and a signed
exponent without padding. -/
structure Layout where
  leastPositional : Int
  mostPositional : Int

/-- Leading digits from the fifth decimal place to the sixteenth whole place are positional. -/
def layout : Layout := ⟨-5, 15⟩

/-- The digits of a natural number without the zeros at the end. -/
def significantChars (digits : Nat) : List Char :=
  ((Nat.toDigits 10 digits).reverse.dropWhile (· == '0')).reverse

/-- Prints a positive decimal by the layout. -/
def decimalChars (c : Decimal) : List Char :=
  let leading : Int := c.exponent + (Decimal.digitCount c.digits : Int) - 1
  let digits := significantChars c.digits
  if layout.leastPositional ≤ leading ∧ leading ≤ layout.mostPositional then
    if leading < 0 then
      ['0', '.'] ++ List.replicate (-leading - 1).toNat '0' ++ digits
    else
      let places := leading.toNat + 1
      let whole := digits.take places
      let fraction := digits.drop places
      whole ++ List.replicate (places - whole.length) '0' ++ ['.'] ++
        (if fraction.isEmpty then ['0'] else fraction)
  else
    digits.take 1 ++ (if digits.length ≤ 1 then [] else '.' :: digits.drop 1) ++ ['e'] ++
      (if leading < 0 then ['-'] else ['+']) ++ Nat.toDigits 10 leading.natAbs

/-- Prints a double by the fewest digits that read back. -/
def doubleChars (d : Double) : List Char :=
  (if d.negative then ['-'] else []) ++
    (if d.isZero then ['0', '.', '0'] else decimalChars d.shortest)

/-- Prints an integer in decimal. -/
def integerChars (n : Int) : List Char :=
  (if n < 0 then ['-'] else []) ++ Nat.toDigits 10 n.natAbs

/-- The printed form of a number. -/
def chars : Number → List Char
  | .integer n _ => integerChars n
  | .double d => doubleChars d

end Number

end RouteSync.Json
