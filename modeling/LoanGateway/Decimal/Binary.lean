/-!
# Binary fractions

A finite floating-point number taken apart: a sign and a magnitude `mantissa * 2 ^ exponent`.

- `Binary`: a positive magnitude together with the width of its neighbourhood.
- `Binary.ofFloat`: the magnitude of a finite number, read off its bits.
- `Binary.lower`, `Binary.upper`: the ends of the interval of reals that round to it.
-/

namespace LoanGateway.Decimal

/-- The magnitude `mantissa * 2 ^ exponent`. The neighbour below is half as far away as the one
above when `narrowBelow` holds. -/
structure Binary where
  mantissa : Nat
  exponent : Int
  narrowBelow : Bool
  deriving DecidableEq

/-- Whether the sign bit is set; negative zero has it too. -/
def isNegative (x : Float) : Bool := decide (Nat.pow 2 63 ≤ x.toBits.toNat)

namespace Binary

/-- The magnitude of a finite number. A biased exponent of zero stands for the subnormal numbers,
which have no leading one. -/
def ofFloat (x : Float) : Binary :=
  let bits : Nat := x.toBits.toNat
  let biased : Nat := bits / Nat.pow 2 52 % 2048
  let fraction : Nat := bits % Nat.pow 2 52
  if biased = 0 then ⟨fraction, -1074, false⟩
  else ⟨Nat.pow 2 52 + fraction, (biased : Int) - 1075, fraction = 0 && 1 < biased⟩

/-- Numerator and denominator of `n * 2 ^ (exponent - 2)`, a quarter of the last place. -/
def quarters (b : Binary) (n : Nat) : Nat × Nat :=
  (n * Nat.pow 2 (b.exponent - 2).toNat, Nat.pow 2 (2 - b.exponent).toNat)

/-- The magnitude in quarters of its last place. -/
def middle (b : Binary) : Nat := 4 * b.mantissa

/-- The lower end of the rounding interval, in quarters of the last place. -/
def lower (b : Binary) : Nat := b.middle - (if b.narrowBelow then 1 else 2)

/-- The upper end of the rounding interval, in quarters of the last place. -/
def upper (b : Binary) : Nat := b.middle + 2

/-- The ends of the interval round to the magnitude exactly if its mantissa is even. -/
def endsIncluded (b : Binary) : Bool := b.mantissa % 2 == 0

end Binary

end LoanGateway.Decimal
