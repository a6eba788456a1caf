import LoanGateway.Text.Composition
import LoanGateway.Text.Direction
import LoanGateway.Text.Joining
import LoanGateway.Url.Domain.Replacement
import LoanGateway.Url.Punycode

/-!
# Labels of a domain

A label is held in the form in which it is read; outside ASCII its written form is in Punycode.

- `folded?`: a text with each character replaced by what it stands for, composed.
- `Label.ofText?`: the label of a written form.
- `Label.text`: the written form of a label.
- `Label.isWellFormed`: marks and joiners stand where they belong.
- `Label.isOrdered`: letters of both directions are kept apart.
-/

namespace LoanGateway.Url.Domain

/-- A text with each character replaced by what it stands for, composed. -/
def folded? (s : List Char) : Option (List Char) :=
  (s.mapM replacement?).map fun parts => Text.composed parts.flatten

/-- Whether all characters are in ASCII. -/
def isAscii (s : List Char) : Bool := s.all (·.toNat < 0x80)

namespace Label

/-- The marker of a written form in Punycode. -/
def marker : List Char := ['x', 'n', '-', '-']

/-- No form in Punycode is longer, without the marker: the time to read one grows with the square of
its length. -/
def maxWritten : Nat := 2000

/-- No label outside ASCII is longer, since the time to write one grows in the same way. -/
def maxLength : Nat := 1000

/-- The label of a form in Punycode without the marker. The label is outside ASCII, has its
characters replaced already, and is written in this way. -/
def ofPunycode? (written : List Char) : Option (List Char) := do
  if maxWritten < written.length then none
  let label ← Punycode.decode? written
  if !isAscii label && folded? label = some label && Punycode.encode label = written then
    return label
  else none

/-- The label of a written form, in which all characters are replaced by what they stand for. -/
def ofText? (s : List Char) : Option (List Char) :=
  if marker.isPrefixOf s then ofPunycode? (s.drop 4) else some s

/-- The written form of a label. -/
def text (label : List Char) : List Char :=
  if isAscii label then label else marker ++ Punycode.encode label

/-- Whether a letter follows that has the property, past what may stand between joined letters. -/
def meets (joins : Char → Bool) (s : List Char) : Bool :=
  (s.find? (!Text.isJoinedThrough ·)).any joins

/-- Whether a joiner may stand between two texts, the first of which is given backwards: behind
a mark that joins a consonant to the next, and one that separates also between joined letters. -/
def joinerFits (before : List Char) (joiner : Char) (after : List Char) : Bool :=
  match before with
  | [] => false
  | c :: _ =>
    Text.isVirama c ||
      (joiner.toNat == 0x200C && meets Text.joinsNext before && meets Text.joinsPrevious after)

/-- Whether all joiners of a text may stand where they do, behind a text that is given backwards. -/
def joinersFit (before : List Char) : List Char → Bool
  | [] => true
  | c :: rest => (!isJoiner c || joinerFits before c rest) && joinersFit (c :: before) rest

/-- Whether marks and joiners stand where they belong. -/
def isWellFormed (label : List Char) : Bool :=
  isAscii label ||
    (!label.head?.any Text.isMark && joinersFit [] label && label.length ≤ maxLength)

/-- Whether the label holds something that is written from right to left. -/
def isReversed (label : List Char) : Bool :=
  label.any fun c => Text.Direction.of c ∈ [.rightToLeft, .arabicNumber]

/-- Whether a label with these directions keeps letters of both directions apart. It starts with
a letter and ends, but for marks, with a letter of this direction or a number; and numbers of both
kinds do not meet behind a letter that is written from right to left. -/
def areOrdered (directions : List Text.Direction) : Bool :=
  let last? := (directions.reverse.dropWhile (· == .mark)).head?
  match directions.head? with
  | none => true
  | some .leftToRight =>
    directions.all (· ∉ [.rightToLeft, .arabicNumber]) &&
      last? ∈ [some .leftToRight, some .europeanNumber]
  | some .rightToLeft =>
    directions.all (· ≠ .leftToRight) &&
      !(.arabicNumber ∈ directions && .europeanNumber ∈ directions) &&
      last? ∈ [some .rightToLeft, some .arabicNumber, some .europeanNumber]
  | some _ => false

/-- Whether the label keeps letters of both directions apart. -/
def isOrdered (label : List Char) : Bool := areOrdered (label.map Text.Direction.of)

end Label

end LoanGateway.Url.Domain
