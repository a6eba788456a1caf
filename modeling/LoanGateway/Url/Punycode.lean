/-!
# Punycode

Labels of domains outside ASCII are written in letters, digits and hyphens: first the ASCII
characters of the label, then the others in ascending order, each by the distance from the one
before in a count of variable length.

- `Punycode.encode`: the written form of a label.
- `Punycode.decode?`: the label of a written form.
-/

namespace LoanGateway.Url.Punycode

/-- The digit of a value below 36: the letters, then the figures. -/
def digit (n : Nat) : Char :=
  if n < 26 then Char.ofNat ('a'.toNat + n) else Char.ofNat ('0'.toNat + (n - 26))

/-- The value of a digit. -/
def value? (c : Char) : Option Nat :=
  if c.isLower then some (c.toNat - 'a'.toNat)
  else if c.isUpper then some (c.toNat - 'A'.toNat)
  else if c.isDigit then some (c.toNat - '0'.toNat + 26)
  else none

/-- From which value on the digit at the place `36 * i` is followed by another. -/
def threshold (bias place : Nat) : Nat :=
  if place ≤ bias + 1 then 1 else if bias + 26 ≤ place then 26 else place - bias

/-- Halvings of a distance until it is small, and how often it was divided. -/
def settle : Nat → Nat → Nat × Nat
  | 0, delta => (delta, 0)
  | fuel + 1, delta =>
    if delta ≤ 455 then (delta, 0)
    else
      let (small, steps) := settle fuel (delta / 35)
      (small, steps + 1)

/-- The bias after a distance, when `count` characters are placed. -/
def adapt (delta count : Nat) (first : Bool) : Nat :=
  let scaled := delta / (if first then 700 else 2)
  let (small, steps) := settle delta (scaled + scaled / count)
  36 * steps + 36 * small / (small + 38)

/-- The digits of a distance. -/
def distance (bias : Nat) : Nat → Nat → Nat → List Char
  | 0, _, q => [digit q]
  | fuel + 1, place, q =>
    let t := threshold bias place
    if q < t then [digit q]
    else
      digit (t + (q - t) % (36 - t)) :: distance bias fuel (place + 36) ((q - t) / (36 - t))

/-- What has been written: the last code point, the distance from it, the bias, the number of
characters placed, and the digits. -/
structure Progress where
  code : Nat
  delta : Nat
  bias : Nat
  placed : Nat
  out : List Char

/-- Goes through the label once for the code point `code`: smaller characters are passed, equal
ones written. -/
def place (basic code : Nat) (p : Progress) (c : Char) : Progress :=
  if c.toNat < code then { p with delta := p.delta + 1 }
  else if c.toNat = code then
    { p with
      out := p.out ++ distance p.bias p.delta 36 p.delta
      bias := adapt p.delta (p.placed + 1) (p.placed == basic)
      delta := 0
      placed := p.placed + 1 }
  else p

/-- Writes all characters of one code point. -/
def placeAll (label : List Char) (basic : Nat) (p : Progress) (code : Nat) : Progress :=
  let start := { p with delta := p.delta + (code - p.code) * (p.placed + 1) }
  let p := label.foldl (place basic code) start
  { p with code := code + 1, delta := p.delta + 1 }

/-- The written form of a label. -/
def encode (label : List Char) : List Char :=
  let ascii := label.filter (·.toNat < 0x80)
  let codes := ((label.filter (0x80 ≤ ·.toNat)).map Char.toNat).mergeSort.eraseDups
  let start : Progress := ⟨0x80, 0, 72, ascii.length, []⟩
  ascii ++ (if ascii.isEmpty then [] else ['-']) ++
    (codes.foldl (placeAll label ascii.length) start).out

/-- Reads a distance: its value on top of `total`, and what follows it. -/
def readDistance? (bias : Nat) : Nat → Nat → Nat → List Char → Option (Nat × List Char)
  | _, _, _, [] => none
  | place, weight, total, c :: rest => do
    let n ← value? c
    let t := threshold bias place
    let total := total + n * weight
    if n < t then return (total, rest)
    readDistance? bias (place + 36) (weight * (36 - t)) total rest

/-- Reads distances and inserts their characters. Each distance counts from the place behind the
character before it, and every round through the label moves on to the next code point. -/
def insertAll? : Nat → Nat → Nat → Nat → List Char → List Char → Option (List Char)
  | _, _, _, _, out, [] => some out
  | 0, _, _, _, _, _ :: _ => none
  | fuel + 1, code, start, bias, out, c :: rest => do
    let (total, rest) ← readDistance? bias 36 1 start (c :: rest)
    let count := out.length + 1
    let code := code + total / count
    let index := total % count
    if !code.isValidChar then none
    insertAll? fuel code (index + 1) (adapt (total - start) count (start == 0))
      (out.insertIdx index (Char.ofNat code)) rest

/-- The label of a written form. -/
def decode? (s : List Char) : Option (List Char) :=
  let tail := (s.reverse.takeWhile (· ≠ '-')).reverse
  let head := s.take (s.length - tail.length - 1)
  insertAll? s.length 0x80 0 72 head tail

end LoanGateway.Url.Punycode
