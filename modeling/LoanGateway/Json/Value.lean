import LoanGateway.Json.Number

/-!
# JSON values

- `Json`: a value. The members of an object keep the order of the text, and a name may repeat.
- `Json.canonical`: the value that counts: members in the order of their names, of repeated names
  the last.
- `Json.agrees`: equality of values.
-/

namespace LoanGateway

/-- A JSON value. -/
inductive Json
  | null
  | bool (b : Bool)
  | number (n : Number)
  | string (s : String)
  | array (items : List Json)
  | object (members : List (String × Json))

namespace Json

/-- The value of a fraction; one that is not finite has no number and is written as `null`. -/
def ofFloat (x : Float) : Json := if x.isFinite then .number (.real x) else .null

/-- Puts a member into a list that is ordered by name, in place of one with the same name. -/
def insertMember {α : Type} (name : String) (value : α) : List (String × α) → List (String × α)
  | [] => [(name, value)]
  | (key, old) :: rest =>
    if name < key then (name, value) :: (key, old) :: rest
    else if name = key then (name, value) :: rest
    else (key, old) :: insertMember name value rest

/-- The members in the order of their names, the last one of a repeated name. -/
def sortMembers {α : Type} (members : List (String × α)) : List (String × α) :=
  members.foldl (fun sorted (name, value) => insertMember name value sorted) []

mutual

/-- Orders the members of all objects by name and keeps the last of repeated ones. -/
def canonical : Json → Json
  | .array items => .array (canonicalItems items)
  | .object members => .object (sortMembers (canonicalMembers members))
  | v => v

def canonicalItems : List Json → List Json
  | [] => []
  | v :: rest => canonical v :: canonicalItems rest

def canonicalMembers : List (String × Json) → List (String × Json)
  | [] => []
  | (name, v) :: rest => (name, canonical v) :: canonicalMembers rest

end

mutual

/-- Whether two values are equal, members in order. -/
def agrees : Json → Json → Bool
  | .null, .null => true
  | .bool a, .bool b => a == b
  | .number a, .number b => a.agrees b
  | .string a, .string b => a == b
  | .array xs, .array ys => agreeItems xs ys
  | .object ms, .object ns => agreeMembers ms ns
  | _, _ => false

def agreeItems : List Json → List Json → Bool
  | [], [] => true
  | x :: xs, y :: ys => agrees x y && agreeItems xs ys
  | _, _ => false

def agreeMembers : List (String × Json) → List (String × Json) → Bool
  | [], [] => true
  | (k, x) :: ms, (l, y) :: ns => k == l && agrees x y && agreeMembers ms ns
  | _, _ => false

end

end Json

end LoanGateway
