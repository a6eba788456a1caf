import LoanGateway.Decimal.Binary

/-!
# Shortest decimals

The decimal with the fewest digits among those that read back as a given binary fraction.

- `Decimal`: a coefficient and a power of ten.
- `onGrid`: of the two decimals of a given number of digits next to a fraction, the one nearer to
  it that reads back, if any does; of two equally near the even one.
- `shortest`: the first grid, counted in digits, that has such a decimal.
-/

namespace LoanGateway

/-- The number `coefficient * 10 ^ exponent`. -/
structure Decimal where
  coefficient : Nat
  exponent : Int
  deriving DecidableEq

namespace Decimal

/-- Numerator and denominator of `n * 10 ^ exponent`. -/
def tenths (n : Nat) (exponent : Int) : Nat × Nat :=
  (n * Nat.pow 10 exponent.toNat, Nat.pow 10 (-exponent).toNat)

/-- Compares two fractions by cross multiplication. -/
def fractionLE (a b : Nat × Nat) : Bool := decide (a.1 * b.2 ≤ b.1 * a.2)

/-- Whether `coefficient * 10 ^ exponent` rounds to the binary fraction. -/
def readsBack (b : Binary) (coefficient : Nat) (exponent : Int) : Bool :=
  let d := tenths coefficient exponent
  let lower := b.quarters b.lower
  let upper := b.quarters b.upper
  if b.endsIncluded then fractionLE lower d && fractionLE d upper
  else !fractionLE d lower && !fractionLE upper d

/-- How many digits stand before the point: the value is below `10 ^ magnitude` and not below a
tenth of that. No magnitude is below `10 ^ (-350)`, so the scaled value is not zero. -/
def magnitude (b : Binary) : Int :=
  let v := b.quarters b.middle
  ((Nat.toDigits 10 (v.1 * Nat.pow 10 350 / v.2)).length : Int) - 350

/-- The multiple of `10 ^ exponent` at or below the value. -/
def floorOnGrid (b : Binary) (exponent : Int) : Nat :=
  let v := b.quarters b.middle
  v.1 * Nat.pow 10 (-exponent).toNat / (v.2 * Nat.pow 10 exponent.toNat)

/-- Whether the upper neighbour on the grid is nearer than the lower one, an exact half being
decided for the even coefficient. -/
def upperIsNearer (b : Binary) (coefficient : Nat) (exponent : Int) : Bool :=
  let v := b.quarters b.middle
  let half := tenths (2 * coefficient + 1) exponent
  let twice := (2 * v.1, v.2)
  if fractionLE twice half && fractionLE half twice then coefficient % 2 == 1
  else fractionLE half twice

/-- The neighbour of the value on the grid of `10 ^ exponent` that reads back and is the nearer
one. -/
def onGrid (b : Binary) (exponent : Int) : Option Decimal :=
  let low := floorOnGrid b exponent
  match readsBack b low exponent, readsBack b (low + 1) exponent with
  | true, true => some ⟨if upperIsNearer b low exponent then low + 1 else low, exponent⟩
  | true, false => some ⟨low, exponent⟩
  | false, true => some ⟨low + 1, exponent⟩
  | false, false => none

/-- The decimal of fewest digits that reads back. Seventeen digits always suffice. -/
def shortest (b : Binary) : Decimal :=
  let top := magnitude b
  match (List.range 17).findSome? fun (i : Nat) => onGrid b (top - (i + 1)) with
  | some d => d
  | none => ⟨floorOnGrid b (top - 17), top - 17⟩

end Decimal

end LoanGateway
