import RouteSync.Decimal.Double

/-!
# Shortest decimals

The decimal of fewest digits that rounds to a given double, and of those the one nearest to it. The
reals that round to a double form an interval; for one digit, two digits and so on, the two
neighbours of the number on that decimal grid are tested against the interval, all in exact
arithmetic. Seventeen digits always suffice.
-/

namespace RouteSync

/-- The number `digits * 10 ^ exponent`. -/
structure Decimal where
  digits : Nat
  exponent : Int
  deriving DecidableEq

namespace Decimal

/-- The number of decimal digits of a natural number. -/
def digitCount (n : Nat) : Nat := (Nat.toDigits 10 n).length

/-- The exponent of the leading decimal digit of `num / den`, for positive `num` and `den`. -/
def leadingExponent (num den : Nat) : Int :=
  let estimate : Int := (digitCount num : Int) - digitCount den
  if den * Nat.pow 10 estimate.toNat ≤ num * Nat.pow 10 (-estimate).toNat then estimate
  else estimate - 1

end Decimal

/-- The reals that round to a positive double: numerators of its lower end, of itself and of its
upper end over one denominator, and whether the ends belong to it. -/
structure Double.Neighbourhood where
  low : Nat
  mid : Nat
  high : Nat
  den : Nat
  closed : Bool

namespace Double

/-- Half a unit of the last place to either side; below a power of two the unit is half as large. -/
def neighbourhood (d : Double) : Neighbourhood :=
  let unit := Nat.pow 2 (d.exponent - 2).toNat
  let below := if d.significand = Nat.pow 2 52 ∧ -1074 < d.exponent then 1 else 2
  { low := (4 * d.significand - below) * unit
    mid := 4 * d.significand * unit
    high := (4 * d.significand + 2) * unit
    den := Nat.pow 2 (2 - d.exponent).toNat
    closed := d.significand % 2 == 0 }

namespace Neighbourhood

/-- Whether the decimal lies in the interval. -/
def contains (n : Neighbourhood) (c : Decimal) : Bool :=
  let value := c.digits * Nat.pow 10 c.exponent.toNat * n.den
  let scale := Nat.pow 10 (-c.exponent).toNat
  if n.closed then n.low * scale ≤ value && value ≤ n.high * scale
  else n.low * scale < value && value < n.high * scale

/-- The point of the grid with the given exponent that is in the interval and nearest to its
number; a tie goes to even digits. -/
def onGrid? (n : Neighbourhood) (exponent : Int) : Option Decimal :=
  let num := n.mid * Nat.pow 10 (-exponent).toNat
  let den := n.den * Nat.pow 10 exponent.toNat
  let lower : Decimal := ⟨num / den, exponent⟩
  let upper : Decimal := ⟨num / den + 1, exponent⟩
  match n.contains lower, n.contains upper with
  | true, true => some ⟨roundQuotient num den, exponent⟩
  | true, false => some lower
  | false, true => some upper
  | false, false => none

end Neighbourhood

/-- The shortest decimal that reads back as the absolute value of a double that is not zero. -/
def shortest (d : Double) : Decimal :=
  let n := d.neighbourhood
  let leading := Decimal.leadingExponent n.mid n.den
  ((List.range 17).findSome? fun (k : Nat) => n.onGrid? (leading - k)).getD
    ⟨n.mid, 0⟩

end Double

end RouteSync
