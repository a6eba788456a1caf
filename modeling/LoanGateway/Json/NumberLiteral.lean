import LoanGateway.Json.Number

/-!
# Number literals

How a number is written in a JSON text, and which number that is.

- `NumberLiteral`: sign, digits and exponent as written.
- `NumberLiteral.scan`: the literal at the start of a text.
- `NumberLiteral.value?`: its number, if that is finite. Fractions are not rounded correctly: the
  digits that fit into 64 bits are scaled by a power of ten in one binary operation.
-/

namespace LoanGateway

/-- A literal as written. The fraction is empty exactly if there is no point. -/
structure NumberLiteral where
  negative : Bool
  whole : List Char
  fraction : List Char
  exponent : Option (Bool × List Char)

namespace NumberLiteral

/-- The digits at the start of a text and what follows them; at least one is required. -/
def scanDigits (s : List Char) : Option (List Char × List Char) :=
  let digits := s.takeWhile Char.isDigit
  if digits.isEmpty then none else some (digits, s.dropWhile Char.isDigit)

/-- A point and digits, or nothing. -/
def scanFraction : List Char → Option (List Char × List Char)
  | '.' :: s => scanDigits s
  | s => some ([], s)

/-- Digits after an exponent mark, with an optional sign. -/
def scanPower : List Char → Option ((Bool × List Char) × List Char)
  | '-' :: s => (scanDigits s).map fun (ds, rest) => ((true, ds), rest)
  | '+' :: s => (scanDigits s).map fun (ds, rest) => ((false, ds), rest)
  | s => (scanDigits s).map fun (ds, rest) => ((false, ds), rest)

/-- An exponent, or nothing. -/
def scanExponent : List Char → Option (Option (Bool × List Char) × List Char)
  | 'e' :: s => (scanPower s).map fun (p, rest) => (some p, rest)
  | 'E' :: s => (scanPower s).map fun (p, rest) => (some p, rest)
  | s => some (none, s)

/-- A literal without its sign. A zero before the point stands alone. -/
def scanUnsigned (negative : Bool) (s : List Char) : Option (NumberLiteral × List Char) := do
  let (whole, s) ← scanDigits s
  if whole.head? = some '0' && 1 < whole.length then none
  let (fraction, s) ← scanFraction s
  let (exponent, s) ← scanExponent s
  return (⟨negative, whole, fraction, exponent⟩, s)

/-- The literal at the start of a text and what follows it. -/
def scan : List Char → Option (NumberLiteral × List Char)
  | '-' :: s => scanUnsigned true s
  | s => scanUnsigned false s

/-- Appends digits to a number as long as it stays below `bound`. The digits from the first one
that does not fit are given back. -/
def absorb (bound : Nat) : Nat → List Char → Nat × List Char
  | n, [] => (n, [])
  | n, c :: rest =>
    let next := n * 10 + (c.toNat - '0'.toNat)
    if next < bound then absorb bound next rest else (n, c :: rest)

/-- A power of ten, rounded to the nearest fraction. -/
def powerOfTen (k : Nat) : Float := Float.ofScientific 1 false k

/-- Divides by 10^308 the given number of times, or until nothing is left. -/
def shrink : Nat → Float → Float
  | 0, x => x
  | k + 1, x => if x == 0 then x else shrink k (x / powerOfTen 308)

/-- The fraction `x * 10 ^ exponent`, if it is finite. The powers of ten that a fraction can hold
end at 308, so a smaller exponent takes several divisions. -/
def scale (x : Float) (exponent : Int) : Option Float :=
  if exponent < 0 then
    let steps := (exponent.natAbs - 1) / 308
    some (shrink steps x / powerOfTen (exponent.natAbs - 308 * steps))
  else if exponent ≤ 308 then
    let scaled := x * powerOfTen exponent.toNat
    if scaled.isFinite then some scaled else none
  else if x == 0 then some x
  else none

/-- The largest exponent that is counted; a larger one is beyond all numbers but zero. -/
def exponentBound : Nat := 2147483648

/-- The magnitude of a literal that is not a small whole number, if it is finite. Digits that do
not fit into 64 bits raise the exponent before the point and are dropped after it. -/
def magnitude? (l : NumberLiteral) : Option Float :=
  let (significand, long) := absorb (Nat.pow 2 64) 0 l.whole
  let (significand, dropped) := absorb (Nat.pow 2 64) significand l.fraction
  let shift : Int := long.length - (l.fraction.length - dropped.length)
  match l.exponent with
  | none => scale (Float.ofNat significand) shift
  | some (below, digits) =>
    match absorb exponentBound 0 digits with
    | (power, []) =>
      scale (Float.ofNat significand) (if below then shift - power else shift + power)
    | _ => if significand ≠ 0 && !below then none else some 0

/-- The number of a literal. Negative zero is a fraction, and so is a whole number out of range. -/
def value? (l : NumberLiteral) : Option Number :=
  let signed (x : Float) : Number := .real (if l.negative then -x else x)
  match l.fraction, l.exponent, absorb (Nat.pow 2 64) 0 l.whole with
  | [], none, (n, []) =>
    if !l.negative then some (.natural n)
    else if n = 0 || Nat.pow 2 63 < n then some (signed (Float.ofNat n))
    else some (.negative n)
  | _, _, _ => l.magnitude?.map signed

end NumberLiteral

end LoanGateway
