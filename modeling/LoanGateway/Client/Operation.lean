import LoanGateway.Client.Basic

/-!
# Operations of the client

- `Operation`: what can be asked of a client.
- `Outcome`: what an operation that succeeds gives.
- `Client.perform`: carries out an operation.
- `Client.performAll`: carries out one operation after another.
-/

namespace LoanGateway

/-- What can be asked of a client. Reading gives an `α`. -/
inductive Operation (α : Type)
  | token
  | get (path : String) (resource : Resource) (decode : Json → Option α)
  | post (path : String) (body : Payload) (resource : Resource)
  | put (path : String) (body : Payload) (resource : Resource)
  | submit (bundle : Bundle)
  | submitFor (bundle : Bundle) (resource : Resource)

/-- What an operation that succeeds gives. -/
inductive Outcome (α : Type)
  | token (token : String)
  | value (a : α)
  | created (identifier : Option String)
  | replaced
  | submitted (receipt : Receipt)

namespace Client

variable {σ α : Type} [TokenSource σ]

/-- Carries out an operation. -/
def perform (c : Client σ) : Operation α → Except GatewayError (Outcome α) × Client σ
  | .token =>
    let (result, c) := c.token
    (result.map .token, c)
  | .get path resource decode =>
    let (result, c) := c.get path resource decode
    (result.map .value, c)
  | .post path body resource =>
    let (result, c) := c.post path body resource
    (result.map .created, c)
  | .put path body resource =>
    let (result, c) := c.put path body resource
    (result.map fun _ => .replaced, c)
  | .submit bundle =>
    let (result, c) := c.submit bundle
    (result.map .submitted, c)
  | .submitFor bundle resource =>
    let (result, c) := c.submitFor bundle resource
    (result.map .submitted, c)

/-- Carries out operations one after another. -/
def performAll (c : Client σ) :
    List (Operation α) → List (Except GatewayError (Outcome α)) × Client σ
  | [] => ([], c)
  | operation :: rest =>
    let (result, c) := c.perform operation
    let (results, c) := c.performAll rest
    (result :: results, c)

theorem performAll_cons (c : Client σ) (operation : Operation α) (rest : List (Operation α)) :
    c.performAll (operation :: rest) =
      ((c.perform operation).1 :: ((c.perform operation).2.performAll rest).1,
        ((c.perform operation).2.performAll rest).2) := rfl

end Client

end LoanGateway
