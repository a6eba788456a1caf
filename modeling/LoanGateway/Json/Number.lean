import LoanGateway.Decimal.Notation

/-!
# JSON numbers

A number of a JSON text is a whole number where its literal says so and the range allows it, and a
binary fraction otherwise.

- `Number`: the three kinds of numbers.
- `Number.toFloat`: the value of a number read as a binary fraction.
- `Number.text`: the written form.
- `Number.agrees`: equality of numbers of one kind; fractions are compared as fractions.
-/

namespace LoanGateway

/-- A number. `natural n` is `n` and stays below 2^64, `negative n` is `-n` with `n` positive and at
most 2^63, `real x` is finite. -/
inductive Number
  | natural (n : Nat)
  | negative (n : Nat)
  | real (x : Float)

namespace Number

/-- The layout of fractions: an exponent is written from 10^16 on and below 10^(-5). -/
def layout : Decimal.Layout := ⟨-5, 15⟩

/-- The value as a binary fraction, rounded to the nearest one. -/
def toFloat : Number → Float
  | natural n => Float.ofNat n
  | negative n => -Float.ofNat n
  | real x => x

/-- The written form. Only fractions have a point or an exponent. -/
def text : Number → List Char
  | natural n => Nat.toDigits 10 n
  | negative n => '-' :: Nat.toDigits 10 n
  | real x => layout.text x

/-- Whether two numbers are equal. Numbers of different kinds are not, even where their values
are. -/
def agrees : Number → Number → Bool
  | natural m, natural n => m == n
  | negative m, negative n => m == n
  | real x, real y => x == y
  | _, _ => false

end Number

end LoanGateway
