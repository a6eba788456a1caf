import LoanGateway.Calendar.Date
import LoanGateway.Text.Blank

/-!
# Written dates

The backend writes every date as midnight of its day.

- `Date.text`: the written form of a date.
- `DateError`: why a text is not a date.
- `Date.parse`: the date of a text, of which only the first ten bytes count.
-/

namespace LoanGateway

/-- Why a text is not a date. -/
inductive DateError
  | premature
  | unreadable
  | outOfRange
  | trailing
  deriving DecidableEq

/-- The description of a fault. -/
def DateError.message : DateError → String
  | premature => "premature end of input"
  | unreadable => "input contains invalid characters"
  | outOfRange => "input is out of range"
  | trailing => "trailing input"

namespace Date

/-- The digits of a number, with zeros in front up to the given width. -/
def padded (width n : Nat) : List Char :=
  let digits := Nat.toDigits 10 n
  List.replicate (width - digits.length) '0' ++ digits

/-- A year has at least four digits. One that is negative or has more than four is signed. -/
def yearText (year : Int) : List Char :=
  if 0 ≤ year && year ≤ 9999 then padded 4 year.toNat
  else (if year < 0 then '-' else '+') :: padded 4 year.natAbs

/-- The day as the backend writes it, and midnight. -/
def chars (d : Date) : List Char :=
  yearText d.year ++ '-' :: padded 2 d.month ++ '-' :: padded 2 d.day ++
    "T00:00:00Z".toList

/-- `chars` as a string. -/
def text (d : Date) : String := String.ofList d.chars

/-- The largest number that is counted while digits are read. -/
def counterBound : Nat := Nat.pow 2 63

/-- Reads the digits at the front, at most `width` of them, onto the number read so far. -/
def readDigits : Nat → Nat → List Char → Except DateError (Nat × List Char)
  | 0, n, s => .ok (n, s)
  | _ + 1, n, [] => .ok (n, [])
  | width + 1, n, c :: rest =>
    if c.isDigit then
      let next := n * 10 + (c.toNat - '0'.toNat)
      if next < counterBound then readDigits width next rest else .error .outOfRange
    else .ok (n, c :: rest)

/-- Reads a number of one to `width` digits. -/
def readNumber (width : Nat) : List Char → Except DateError (Nat × List Char)
  | [] => .error .premature
  | c :: rest => if c.isDigit then readDigits width 0 (c :: rest) else .error .unreadable

/-- Reads a year: four digits at most, or any number of them after a sign. Blanks may precede it.
It has to fit into 32 bits. -/
def readYear (s : List Char) : Except DateError (Int × List Char) := do
  let (year, rest) ← match Text.trimStart s with
    | '-' :: s => (readNumber s.length s).map fun (n, rest) => (-(n : Int), rest)
    | '+' :: s => (readNumber s.length s).map fun (n, rest) => ((n : Int), rest)
    | s => (readNumber 4 s).map fun (n, rest) => ((n : Int), rest)
  if -2147483648 ≤ year && year < 2147483648 then return (year, rest) else throw .outOfRange

/-- Reads a number of one or two digits, from one to `bound`. Blanks may precede it. -/
def readPart (bound : Nat) (s : List Char) : Except DateError (Nat × List Char) := do
  let (n, rest) ← readNumber 2 (Text.trimStart s)
  if 1 ≤ n && n ≤ bound then return (n, rest) else throw .outOfRange

/-- Reads the hyphen between two parts. -/
def readHyphen : List Char → Except DateError (List Char)
  | [] => .error .premature
  | c :: rest => if c = '-' then .ok rest else .error .unreadable

/-- The date of a whole text: year, month and day. -/
def parseChars (s : List Char) : Except DateError Date := do
  let (year, s) ← readYear s
  let s ← readHyphen s
  let (month, s) ← readPart 12 s
  let s ← readHyphen s
  let (day, s) ← readPart 31 s
  if !s.isEmpty then throw .trailing
  match ofParts? year month day with
  | some d => return d
  | none => throw .outOfRange

/-- The characters that take exactly the given number of bytes, if there are such. -/
def firstBytes? : List Char → Nat → Option (List Char)
  | _, 0 => some []
  | [], _ + 1 => none
  | c :: rest, n + 1 =>
    if c.utf8Size ≤ n + 1 then (firstBytes? rest (n + 1 - c.utf8Size)).map (c :: ·) else none

/-- The part of a timestamp that is read as its date: ten bytes, or everything if the text cannot
be cut there. -/
def datePart (s : List Char) : List Char := (firstBytes? s 10).getD s

/-- The date of a timestamp. -/
def parse (value : String) : Except DateError Date := parseChars (datePart value.toList)

example : parse "2024-03-01T00:00:00Z" = .ok ⟨2024, 3, 1, by decide⟩ := rfl
example : (⟨2024, 3, 1, by decide⟩ : Date).text = "2024-03-01T00:00:00Z" := by decide
example : parse "03/01/2024" = .error .unreadable := rfl
example : parse "2023-02-29" = .error .outOfRange := rfl

end Date

end LoanGateway
