import LoanGateway.Decimal.Shortest

/-!
# Written numbers

How a number is laid out from its shortest decimal.

- `Layout`: the decisions of a layout, in one record.
- `Layout.render`: a decimal under a layout.
- `Layout.text`: a finite number under a layout.
-/

namespace LoanGateway.Decimal

/-- Which numbers are written without an exponent: those whose leading digit stands for a power of
ten between the two bounds. -/
structure Layout where
  leastPositional : Int
  greatestPositional : Int

/-- Digits with the point after the first `before` of them; there is at least one digit on both
sides of it. -/
def positional (digits : List Char) (before : Int) : List Char :=
  if before ≤ 0 then
    '0' :: '.' :: (List.replicate (-before).toNat '0' ++ digits)
  else
    let whole := digits.take before.toNat
    let fraction := digits.drop before.toNat
    whole ++ List.replicate (before.toNat - whole.length) '0' ++
      '.' :: (if fraction.isEmpty then ['0'] else fraction)

/-- One digit before the point, which is left out when no digit follows it, and the power of ten
with its sign. -/
def scientific (digits : List Char) (power : Int) : List Char :=
  let fraction := digits.drop 1
  digits.take 1 ++ (if fraction.isEmpty then [] else '.' :: fraction) ++
    'e' :: (if power < 0 then '-' else '+') :: Nat.toDigits 10 power.natAbs

/-- A decimal under a layout. The zeros at the end of its coefficient only move the point. -/
def Layout.render (layout : Layout) (d : Decimal) : List Char :=
  let written := Nat.toDigits 10 d.coefficient
  let digits := (written.reverse.dropWhile (· == '0')).reverse
  let power := written.length + d.exponent - 1
  if layout.leastPositional ≤ power && power ≤ layout.greatestPositional then
    positional digits (power + 1)
  else scientific digits power

/-- A finite number under a layout, with the sign also before a negative zero. -/
def Layout.text (layout : Layout) (x : Float) : List Char :=
  let b := Binary.ofFloat x
  (if isNegative x then ['-'] else []) ++
    (if b.mantissa = 0 then ['0', '.', '0'] else layout.render (shortest b))

end LoanGateway.Decimal
