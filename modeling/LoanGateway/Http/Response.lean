import LoanGateway.Text.Lowercase

/-!
# Responses

- `Response`: what came back. Headers keep their order, and a name may repeat.
- `Response.withHeader`: adds a header under the lowercase form of its name.
- `Response.headerValues`: the values under a name, whatever the case of its ASCII letters.
-/

namespace LoanGateway

/-- An answer with any status. -/
structure Response where
  status : Nat
  headers : List (String × String)
  body : String
  deriving DecidableEq

namespace Response

def new (status : Nat) (body : String) : Response := ⟨status, [], body⟩

/-- Adds a header behind the others. -/
def withHeader (r : Response) (name value : String) : Response :=
  { r with headers := r.headers ++ [(Text.lowercaseString name, value)] }

/-- The statuses of success. -/
def isSuccess (r : Response) : Bool := 200 ≤ r.status && r.status < 300

/-- Equality of header names, whatever the case of their ASCII letters. -/
def sameName (a b : String) : Bool :=
  a.toList.map Char.toLower == b.toList.map Char.toLower

/-- All values of a header, in the order of arrival. -/
def headerValues (r : Response) (name : String) : List String :=
  (r.headers.filter fun (key, _) => sameName key name).map (·.2)

/-- The first value of a header. -/
def header? (r : Response) (name : String) : Option String := (r.headerValues name).head?

end Response

end LoanGateway
