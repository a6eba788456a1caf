import LoanGateway.Json.StringLiteral
import LoanGateway.Json.Value

/-!
# Compact JSON texts

- `Json.print`: the text of a value, without blanks between its parts.
- `Json.text`: the same as a string.
-/

namespace LoanGateway.Json

/-- The parts, separated by commas. -/
def commaSeparated : List (List Char) → List Char
  | [] => []
  | [part] => part
  | part :: rest => part ++ ',' :: commaSeparated rest

mutual

/-- The compact text of a value. -/
def print : Json → List Char
  | .null => ['n', 'u', 'l', 'l']
  | .bool true => ['t', 'r', 'u', 'e']
  | .bool false => ['f', 'a', 'l', 's', 'e']
  | .number n => n.text
  | .string s => encodeString s.toList
  | .array items => '[' :: commaSeparated (printItems items) ++ [']']
  | .object members => '\x7b' :: commaSeparated (printMembers members) ++ ['\x7d']

def printItems : List Json → List (List Char)
  | [] => []
  | v :: rest => print v :: printItems rest

def printMembers : List (String × Json) → List (List Char)
  | [] => []
  | (name, v) :: rest => (encodeString name.toList ++ ':' :: print v) :: printMembers rest

end

/-- The compact text of a value, as a string. -/
def text (v : Json) : String := String.ofList v.print

end LoanGateway.Json
