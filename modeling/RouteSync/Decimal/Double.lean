/-!
# Finite binary64 numbers

A `Double` is a sign, a significand below `2 ^ 53` and a binary exponent, in the one form that the
64-bit format gives the number: the significand fills its 53 bits unless the exponent is the least
one. Rounding is to nearest, a tie going to the even significand, and is computed exactly on natural
numbers. A number too large for the format has no double.
-/

namespace RouteSync

/-- The significands and exponents of the 64-bit format. -/
def Double.Canonical (significand : Nat) (exponent : Int) : Prop :=
  significand < Nat.pow 2 53 ∧ -1074 ≤ exponent ∧ exponent ≤ 971 ∧
    (Nat.pow 2 52 ≤ significand ∨ exponent = -1074)

instance (significand : Nat) (exponent : Int) :
    Decidable (Double.Canonical significand exponent) :=
  inferInstanceAs (Decidable (_ ∧ _))

/-- The number `± significand * 2 ^ exponent`. -/
structure Double where
  negative : Bool
  significand : Nat
  exponent : Int
  canonical : Double.Canonical significand exponent
  deriving DecidableEq

namespace Double

/-- Zero, with a sign. -/
def zero (negative : Bool) : Double := ⟨negative, 0, -1074, by decide⟩

/-- Whether the number is zero, of either sign. -/
def isZero (d : Double) : Bool := d.significand == 0

/-- The double with these parts, if the parts are those of one. -/
def ofParts? (negative : Bool) (significand : Nat) (exponent : Int) : Option Double :=
  if h : Canonical significand exponent then some ⟨negative, significand, exponent, h⟩ else none

/-- The quotient rounded to the nearest natural number, a tie to the even one. -/
def roundQuotient (num den : Nat) : Nat :=
  let floor := num / den
  let rest := 2 * (num % den)
  if rest < den || (rest == den && floor % 2 == 0) then floor else floor + 1

/-- The exponent of the leading binary digit of `num / den`, for positive `num` and `den`. -/
def binaryExponent (num den : Nat) : Int :=
  let estimate : Int := (num.log2 : Int) - den.log2
  if den * Nat.pow 2 estimate.toNat ≤ num * Nat.pow 2 (-estimate).toNat then estimate
  else estimate - 1

/-- The double nearest to `± num / den`, for a positive `den`. -/
def ofRatio? (negative : Bool) (num den : Nat) : Option Double :=
  if num = 0 then some (zero negative) else
    let exponent := max (binaryExponent num den - 52) (-1074)
    let significand :=
      roundQuotient (num * Nat.pow 2 (-exponent).toNat) (den * Nat.pow 2 exponent.toNat)
    if significand = Nat.pow 2 53 then ofParts? negative (Nat.pow 2 52) (exponent + 1)
    else ofParts? negative significand exponent

/-- The absolute value as a quotient of two natural numbers. -/
def ratio (d : Double) : Nat × Nat :=
  (d.significand * Nat.pow 2 d.exponent.toNat, Nat.pow 2 (-d.exponent).toNat)

/-- The double nearest to a power of ten. -/
def tenTo? (n : Nat) : Option Double := ofRatio? false (Nat.pow 10 n) 1

/-- The rounded product of a number with the double nearest to `10 ^ n`. -/
def scaleUp? (d : Double) (n : Nat) : Option Double := do
  let power ← tenTo? n
  ofRatio? d.negative (d.ratio.1 * power.ratio.1) (d.ratio.2 * power.ratio.2)

/-- The rounded quotient of a number by the double nearest to `10 ^ n`. -/
def scaleDown? (d : Double) (n : Nat) : Option Double := do
  let power ← tenTo? n
  ofRatio? d.negative (d.ratio.1 * power.ratio.2) (d.ratio.2 * power.ratio.1)

/-- Reads `± significand * 10 ^ exponent`: the significand is rounded to a double first and then
scaled by powers of ten up to `10 ^ 308`, with a rounding at each step. The last step but one of a
very small number leaves zero. There is no result when the number is too large. -/
def ofDecimal? (negative : Bool) (significand : Nat) (exponent : Int) : Option Double := do
  let whole ← ofRatio? negative significand 1
  if whole.isZero then some whole
  else if 308 < exponent then none
  else if 0 ≤ exponent then whole.scaleUp? exponent.toNat
  else if -308 ≤ exponent then whole.scaleDown? (-exponent).toNat
  else if -616 ≤ exponent then do
    let small ← whole.scaleDown? 308
    small.scaleDown? (-exponent - 308).toNat
  else some (zero negative)

/-- Equality of the numbers: the two zeros are equal. -/
def same (a b : Double) : Bool := a == b || (a.isZero && b.isZero)

end Double

end RouteSync
