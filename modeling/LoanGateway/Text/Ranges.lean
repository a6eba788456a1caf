/-!
# Character ranges

Properties of characters given as data: ranges of code points in ascending order.

- `Ranges.has`: whether a character lies in one of the ranges.
- `RangeMap.find?`: the value of the range that a character lies in.
- `ShiftRun.image`: the code point that one of a run is mapped to.
-/

namespace LoanGateway.Text

/-- First and last code points of disjoint ranges, in ascending order. -/
abbrev Ranges := List (Nat × Nat)

/-- Whether the code point lies in one of the ranges; later ranges are not looked at once one
starts above it. -/
def Ranges.hasCode : Ranges → Nat → Bool
  | [], _ => false
  | (first, last) :: rest, n =>
    if n < first then false else if n ≤ last then true else Ranges.hasCode rest n

/-- Whether the character lies in one of the ranges. -/
def Ranges.has (ranges : Ranges) (c : Char) : Bool := ranges.hasCode c.toNat

/-- First and last code points of disjoint ranges, in ascending order, with a value for each. -/
abbrev RangeMap (α : Type) := List (Nat × Nat × α)

/-- The value of the range that the code point lies in. -/
def RangeMap.findCode? {α : Type} : RangeMap α → Nat → Option α
  | [], _ => none
  | (first, last, value) :: rest, n =>
    if n < first then none else if n ≤ last then some value else RangeMap.findCode? rest n

/-- The value of the range that the character lies in. -/
def RangeMap.find? {α : Type} (ranges : RangeMap α) (c : Char) : Option α :=
  ranges.findCode? c.toNat

/-- Code points from `first` to `last`, each `stride`-th of which maps to the one `shift` away. -/
structure ShiftRun where
  first : Nat
  last : Nat
  stride : Nat
  shift : Int

/-- Whether the run maps the code point. -/
def ShiftRun.covers (run : ShiftRun) (n : Nat) : Bool :=
  run.first ≤ n && n ≤ run.last && (n - run.first) % run.stride == 0

/-- The code point that the run maps another one to. -/
def ShiftRun.image (run : ShiftRun) (n : Nat) : Nat := (n + run.shift).toNat

end LoanGateway.Text
