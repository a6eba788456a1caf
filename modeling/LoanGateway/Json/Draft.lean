import LoanGateway.Json.Token
import LoanGateway.Json.Value

/-!
# JSON drafts

A draft is what a reader sees of a JSON text up to the first place where it stops being one. A
typed reader goes through it in the order of the text, so it notices a value of the wrong type
before a fault that comes later.

- `Draft`: a value as far as it can be read.
- `Document`: a whole text.
- `Draft.json?`: the value of a draft without faults, nested no deeper than allowed.
- `Draft.isWellFormed`: whether a draft is a text of the grammar; a reader asks no more of a part
  that it skips.
- `Json.parse?`: the value of a text.
-/

namespace LoanGateway.Json

/-- A value as far as it can be read. Arrays and objects say whether they were closed; a literal
without a value is well formed but stands for none; `broken` is where the text stops. -/
inductive Draft
  | null
  | bool (b : Bool)
  | number (value : Option Number)
  | string (value : Option String)
  | array (items : List Draft) (closed : Bool)
  | object (members : List (Option String × Draft)) (closed : Bool)
  | broken

mutual

/-- Reads a value from the front of the tokens. The rest is missing if the value is not complete.
Every call takes one of the `fuel`, and two of them at most take the same token. -/
def readValue : Nat → List Token → Draft × Option (List Token)
  | 0, _ => (.broken, none)
  | fuel + 1, tokens =>
    match tokens with
    | .null :: rest => (.null, some rest)
    | .bool b :: rest => (.bool b, some rest)
    | .number value :: rest => (.number value, some rest)
    | .string value :: rest => (.string value, some rest)
    | .openArray :: .closeArray :: rest => (.array [] true, some rest)
    | .openArray :: rest =>
      let (items, rest) := readItems fuel rest
      (.array items rest.isSome, rest)
    | .openObject :: .closeObject :: rest => (.object [] true, some rest)
    | .openObject :: rest =>
      let (members, rest) := readMembers fuel rest
      (.object members rest.isSome, rest)
    | _ => (.broken, none)

/-- Reads items up to the end of their array; at least one is required. -/
def readItems : Nat → List Token → List Draft × Option (List Token)
  | 0, _ => ([], none)
  | fuel + 1, tokens =>
    match readValue fuel tokens with
    | (item, some (.comma :: rest)) =>
      let (items, rest) := readItems fuel rest
      (item :: items, rest)
    | (item, some (.closeArray :: rest)) => ([item], some rest)
    | (item, _) => ([item], none)

/-- Reads members up to the end of their object; at least one is required. A name without a value
is a member too, because the name alone may already be at fault. -/
def readMembers : Nat → List Token → List (Option String × Draft) × Option (List Token)
  | 0, _ => ([], none)
  | fuel + 1, tokens =>
    match tokens with
    | .string name :: .colon :: rest =>
      match readValue fuel rest with
      | (value, some (.comma :: rest)) =>
        let (members, rest) := readMembers fuel rest
        ((name, value) :: members, rest)
      | (value, some (.closeObject :: rest)) => ([(name, value)], some rest)
      | (value, _) => ([(name, value)], none)
    | .string name :: _ => ([(name, .broken)], none)
    | _ => ([], none)

end

/-- A whole text: what it starts with, and whether nothing follows that. -/
structure Document where
  root : Draft
  ended : Bool

/-- Reads a text. -/
def Document.ofText (text : String) : Document :=
  let all := tokens text.toList
  match readValue (2 * all.length + 2) all with
  | (root, some []) => ⟨root, true⟩
  | (root, _) => ⟨root, false⟩

namespace Draft

mutual

/-- The value of a draft that is complete, whose literals all have values and which nests at most
`room` arrays and objects. -/
def json? (room : Nat) : Draft → Option Json
  | .null => some .null
  | .bool b => some (.bool b)
  | .number value => value.map .number
  | .string value => value.map .string
  | .array items closed =>
    match room with
    | 0 => none
    | room + 1 => if closed then (items? room items).map .array else none
  | .object members closed =>
    match room with
    | 0 => none
    | room + 1 => if closed then (members? room members).map .object else none
  | .broken => none

def items? (room : Nat) : List Draft → Option (List Json)
  | [] => some []
  | d :: rest => do return (← json? room d) :: (← items? room rest)

def members? (room : Nat) : List (Option String × Draft) → Option (List (String × Json))
  | [] => some []
  | (name, d) :: rest => do return ((← name), (← json? room d)) :: (← members? room rest)

end

mutual

/-- Whether the draft is complete, whatever its literals stand for. -/
def isWellFormed : Draft → Bool
  | .array items closed => closed && itemsWellFormed items
  | .object members closed => closed && membersWellFormed members
  | .broken => false
  | _ => true

def itemsWellFormed : List Draft → Bool
  | [] => true
  | d :: rest => isWellFormed d && itemsWellFormed rest

def membersWellFormed : List (Option String × Draft) → Bool
  | [] => true
  | (_, d) :: rest => isWellFormed d && membersWellFormed rest

end

mutual

/-- The draft of a value. -/
def ofJson : Json → Draft
  | .null => .null
  | .bool b => .bool b
  | .number n => .number (some n)
  | .string s => .string (some s)
  | .array items => .array (ofItems items) true
  | .object members => .object (ofMembers members) true

def ofItems : List Json → List Draft
  | [] => []
  | v :: rest => ofJson v :: ofItems rest

def ofMembers : List (String × Json) → List (Option String × Draft)
  | [] => []
  | (name, v) :: rest => (some name, ofJson v) :: ofMembers rest

end

end Draft

/-- How many arrays and objects may stand inside one another. -/
def nestingLimit : Nat := 127

/-- The value of a text: nothing follows it, its literals have values and it nests no deeper than
the limit. -/
def parse? (text : String) : Option Json :=
  let document := Document.ofText text
  if document.ended then document.root.json? nestingLimit else none

end LoanGateway.Json
