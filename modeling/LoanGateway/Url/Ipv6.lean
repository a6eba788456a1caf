import LoanGateway.Url.Percent

/-!
# Addresses of 128 bits

- `Ipv6.parse?`: the eight pieces of an address.
- `Ipv6.text`: the written form, in which the longest run of zero pieces is left out.
-/

namespace LoanGateway.Url.Ipv6

/-- The piece of one to four hexadecimal digits. -/
def piece? (s : List Char) : Option Nat :=
  if s.isEmpty || 4 < s.length then none
  else s.foldl (fun n? c => do return (← n?) * 16 + (← digitValue? c)) (some 0)

/-- A decimal byte without a leading zero. -/
def byte? (s : List Char) : Option Nat :=
  if s.isEmpty || 3 < s.length || (1 < s.length && s.head? = some '0') || !s.all Char.isDigit then
    none
  else
    let n := Nat.ofDigitChars 10 s 0
    if n ≤ 255 then some n else none

/-- The two pieces of an address of four bytes. -/
def dotted? (s : List Char) : Option (List Nat) := do
  match ← (s.splitOn '.').mapM byte? with
  | [a, b, c, d] => return [a * 256 + b, c * 256 + d]
  | _ => none

/-- The pieces between colons; the last one may be an address of four bytes. -/
def pieces? : List (List Char) → Option (List Nat)
  | [] => some []
  | [last] => if '.' ∈ last then dotted? last else (piece? last).map fun n => [n]
  | first :: rest => do return (← piece? first) :: (← pieces? rest)

/-- The pieces of a text without a double colon. -/
def run? (s : List Char) : Option (List Nat) :=
  if s.isEmpty then some [] else pieces? (s.splitOn ':')

/-- What stands before and after the first double colon. -/
def splitDouble : List Char → List Char × Option (List Char)
  | [] => ([], none)
  | ':' :: ':' :: rest => ([], some rest)
  | c :: rest =>
    let (before, after) := splitDouble rest
    (c :: before, after)

/-- The pieces of an address. A double colon stands for at least one zero piece, and no address of
four bytes stands before it. -/
def parse? (s : List Char) : Option (List Nat) :=
  match splitDouble s with
  | (all, none) => do
    let pieces ← run? all
    if pieces.length = 8 then some pieces else none
  | (before, some after) => do
    if '.' ∈ before then none
    let first ← run? before
    let last ← run? after
    if first.length + last.length ≤ 7 then
      some (first ++ List.replicate (8 - first.length - last.length) 0 ++ last)
    else none

/-- How many zero pieces stand at the front. -/
def leadingZeros (pieces : List Nat) : Nat := (pieces.takeWhile (· == 0)).length

/-- Start and length of the longest run of zero pieces, the first one of several. -/
def longestRun (pieces : List Nat) : Nat × Nat :=
  (List.range pieces.length).foldl
    (fun best i =>
      let n := leadingZeros (pieces.drop i)
      if best.2 < n then (i, n) else best)
    (0, 0)

/-- Pieces in lowercase digits, separated by colons. -/
def join (pieces : List Nat) : List Char := List.intercalate [':'] (pieces.map (Nat.toDigits 16))

/-- The written form. A single zero piece is not left out. -/
def text (pieces : List Nat) : List Char :=
  let (start, length) := longestRun pieces
  if length < 2 then join pieces
  else join (pieces.take start) ++ [':', ':'] ++ join (pieces.drop (start + length))

end LoanGateway.Url.Ipv6
