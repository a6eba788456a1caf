import LoanGateway.Json.Draft

/-!
# Bodies of backend answers

- `Body`: what a body says: nothing, a text, or some other JSON value.
- `Body.read`: the meaning of a raw body. The backend sends texts both plainly and as JSON strings,
  and the two mean the same.
-/

namespace LoanGateway

/-- The meaning of a body. -/
inductive Body
  | null
  | text (s : String)
  | structured (value : Json)

namespace Body

/-- The meaning of a JSON value: `null` and strings are told apart from the rest. -/
def ofJson : Json → Body
  | .null => null
  | .string s => text s
  | value => structured value

/-- The meaning of a raw body. One that is not a JSON text is a plain text. -/
def read (raw : String) : Body :=
  match Json.parse? raw with
  | some value => ofJson value.canonical
  | none => text raw

end Body

end LoanGateway
