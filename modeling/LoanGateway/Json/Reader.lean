import LoanGateway.Calendar.DateText
import LoanGateway.Json.Draft

/-!
# Typed readers

A typed reader takes values of a given shape from a JSON text. It goes through the text in order and
reports the first thing that it cannot accept.

- `DecodeError`: what a reader cannot accept.
- `Draft.readText` and its companions: readers of single values.
- `checkMembers`: the first fault of an object's members, in the order of the text.
- `readDocument`: a reader applied to a whole text.
-/

namespace LoanGateway

/-- What a reader cannot accept. `malformed` is a text that is not JSON or holds a literal without
a value; the others are JSON of another shape. -/
inductive DecodeError
  | malformed
  | invalidType
  | invalidValue
  | invalidLength
  | missingField (name : String)
  | duplicateField (name : String)
  | unknownVariant (name : String) (known : List String)
  | date (error : DateError)
  deriving DecidableEq

namespace DecodeError

/-- A name between backquotes. -/
def quoted (name : String) : String := "`" ++ name ++ "`"

/-- The description of an error, without its place in the text. -/
def message : DecodeError → String
  | malformed => ""
  | invalidType => "invalid type"
  | invalidValue => "invalid value"
  | invalidLength => "invalid length"
  | missingField name => "missing field " ++ quoted name
  | duplicateField name => "duplicate field " ++ quoted name
  | unknownVariant name known =>
    "unknown variant " ++ quoted name ++ ", expected one of " ++
      String.intercalate ", " (known.map quoted)
  | date error => error.message

end DecodeError

namespace Json

/-- The result of a typed reader. -/
abbrev Decoded (α : Type) := Except DecodeError α

namespace Draft

/-- Why a value is not one of the expected type: it may not be a value at all. What stands inside
an array or object is not looked at. -/
def mismatch : Draft → DecodeError
  | broken | number none | string none => .malformed
  | _ => .invalidType

def readText : Draft → Decoded String
  | string (some s) => .ok s
  | d => .error d.mismatch

def readBool : Draft → Decoded Bool
  | bool b => .ok b
  | d => .error d.mismatch

/-- Reads a whole number below a bound. -/
def readNatural (bound : Nat) : Draft → Decoded Nat
  | number (some (.natural n)) => if n < bound then .ok n else .error .invalidValue
  | number (some (.negative _)) => .error .invalidValue
  | d => .error d.mismatch

/-- Reads `null` as nothing. -/
def readOptional {α : Type} (read : Draft → Decoded α) : Draft → Decoded (Option α)
  | null => .ok none
  | d => (read d).map some

/-- Skips a value, which has to be complete. -/
def skip (d : Draft) : Decoded Unit := if d.isWellFormed then .ok () else .error .malformed

/-- Reads any value, nested at most `room` deep. -/
def readJson (room : Nat) (d : Draft) : Decoded Json :=
  match d.json? room with
  | some v => .ok v
  | none => .error .malformed

/-- The members of an object as a reader meets them. A name that stands for no text is a fault, as
if the text stopped behind it. -/
def namedMembers (members : List (Option String × Draft)) : List (String × Draft) :=
  members.map fun
    | (some name, d) => (name, d)
    | (none, _) => ("", broken)

/-- Reads the next item of an array. -/
def readItem {α : Type} (closed : Bool) (read : Draft → Decoded α) :
    List Draft → Decoded (α × List Draft)
  | [] => .error (if closed then .invalidLength else .malformed)
  | d :: rest => (read d).map fun a => (a, rest)

/-- Nothing may follow the items that were read. -/
def readEnd (closed : Bool) (rest : List Draft) : Decoded Unit :=
  if rest.isEmpty && closed then .ok () else .error .malformed

end Draft

/-- Checks that a reader accepts a value. -/
def accepts {α β : Type} (read : α → Decoded β) (a : α) : Decoded Unit := (read a).map fun _ => ()

/-- The first fault of the members, in their order: a field that repeats or that its check refuses,
or another member that `other` refuses. The names met so far are `seen`. -/
def checkMembers {α : Type} (check? : String → Option (α → Decoded Unit))
    (other : α → Decoded Unit) : List String → List (String × α) → Decoded Unit
  | _, [] => .ok ()
  | seen, (name, a) :: rest =>
    match check? name with
    | some check =>
      if name ∈ seen then .error (.duplicateField name)
      else do
        check a
        checkMembers check? other (name :: seen) rest
    | none => do
      other a
      checkMembers check? other seen rest

/-- Reads a field that has to be there. -/
def readField {α β : Type} (members : List (String × α)) (name : String)
    (read : α → Decoded β) : Decoded β :=
  match members.lookup name with
  | some a => read a
  | none => .error (.missingField name)

/-- Applies a reader to a whole text; nothing may follow the value. -/
def readDocument {α : Type} (read : Draft → Decoded α) (text : String) : Decoded α := do
  let document := Document.ofText text
  let a ← read document.root
  if document.ended then return a else throw .malformed

end Json

end LoanGateway
