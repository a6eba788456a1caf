import LoanGateway.Client.Operation
import LoanGateway.Session.Calls

/-!
# Simultaneous operations

Any number of operations of a client may be under way at the same time. Each one makes a call for a
token, sends its request with the token of that call, waits for the answer, and then drops the
token that is cached if the answer says that the backend does not accept the one it was sent. Other
calls for a token go on in between.

- `Errand`: what an operation asks of the backend, and what it makes of the answer.
- `Operation.errand?`: the errand of an operation that sends one request of its own.
- `Progress`: how far an operation has come.
- `Errands`: the operations and the calls for a token, with a log of the exchanges.
- `Move`, `Errands.step?`: everything that can happen.
- `Errands.run?`: one thing after another.
-/

namespace LoanGateway

/-- What an operation asks of the backend, and what it makes of the answer. -/
structure Errand (α : Type) where
  request : Request
  finish : Reply → Except GatewayError (Outcome α)

namespace Errand

variable {α : Type}

/-- Reads a resource. -/
def reading (settings : BackendSettings) (path : String) (resource : Resource)
    (decode : Json → Option α) : Errand α :=
  let phrases := resource.absencePhrases
  { request := .new .get (settings.urlFor path).text
    finish reply :=
      ((Client.accept phrases reply).bind (Client.readAnswer decode phrases)).map .value }

/-- Sends a body to a resource, if it can be written. -/
def sending (settings : BackendSettings) (method : Method) (path : String) (body : Payload)
    (resource : Resource) (outcome : Response → Outcome α) : Except GatewayError (Errand α) :=
  match (Request.new method (settings.urlFor path).text).json body with
  | .error fault => .error (.internal fault.message)
  | .ok request =>
    .ok ⟨request, fun reply => (Client.accept resource.absencePhrases reply).map outcome⟩

end Errand

/-- The errand of a reading, a creation or a replacement, or why there is nothing to send. -/
def Operation.errand? {α : Type} (settings : BackendSettings) :
    Operation α → Option (Except GatewayError (Errand α))
  | .get path resource decode => some (.ok (.reading settings path resource decode))
  | .post path body resource =>
    some <| Errand.sending settings .post path body resource fun response =>
      .created ((response.header? "location").bind
        (Backend.locationIdentifier? settings.baseUrl))
  | .put path body resource =>
    some <| Errand.sending settings .put path body resource fun _ => .replaced
  | .token | .submit _ | .submitFor _ _ => none

/-- How far an operation has come. -/
inductive Progress (α : Type)
  /-- There is no such operation yet. -/
  | absent
  /-- The operation has begun a call for a token. -/
  | asking (errand : Errand α)
  /-- The request is under way with a token. -/
  | sent (errand : Errand α) (token : String)
  /-- The request was answered. -/
  | answered (errand : Errand α) (token : String) (reply : Reply)
  /-- The operation is over. -/
  | ended (result : Except GatewayError (Outcome α))
  /-- The operation was given up. -/
  | dropped

/-- Whether an operation has not begun. -/
def Progress.isAbsent {α : Type} : Progress α → Bool
  | absent => true
  | _ => false

/-- Operations of a client, and calls for a token. An operation has the number of its call; calls of
other numbers are those of others. -/
structure Errands (α : Type) where
  calls : Calls
  progress : Nat → Progress α
  log : List Event

/-- What can happen. -/
inductive Move (α : Type)
  /-- An operation begins. -/
  | start (number : Nat) (operation : Operation α)
  /-- Something happens to the calls for a token. -/
  | session (action : Action)
  /-- An operation goes on with the outcome of its call. -/
  | send (number : Nat)
  /-- The backend answers. -/
  | answer (number : Nat) (reply : Reply)
  /-- An operation heeds its answer. -/
  | conclude (number : Nat)
  /-- An operation is given up where it waits. -/
  | drop (number : Nat)

namespace Errands

variable {α : Type}

/-- No operation yet. -/
def initial (identity : IdentitySettings) : Errands α where
  calls := .initial identity
  progress _ := .absent
  log := []

/-- An operation moves on. -/
def place (s : Errands α) (number : Nat) (progress : Progress α) : Errands α :=
  { s with progress := fun n => if n = number then progress else s.progress n }

/-- Writes an event into the log. -/
def record (s : Errands α) (event : Event) : Errands α := { s with log := s.log ++ [event] }

/-- An operation begins with its call, unless it has nothing to send. -/
def start? (backend : BackendSettings) (s : Errands α) (number : Nat) (operation : Operation α) :
    Option (Errands α) :=
  match s.progress number, operation.errand? backend with
  | .absent, some (.ok errand) =>
    (s.calls.begin? number).map fun calls => { s with calls }.place number (.asking errand)
  | .absent, some (.error e) => some (s.place number (.ended (.error e)))
  | _, _ => none

/-- Something happens to the calls. The call of an operation is not given up on its own. -/
def session? (identity : IdentitySettings) (s : Errands α) (action : Action) :
    Option (Errands α) :=
  match action with
  | .drop call =>
    if (s.progress call).isAbsent then (s.calls.drop? call).map fun calls => { s with calls }
    else none
  | action => (s.calls.step? identity action).map fun calls => { s with calls }

/-- An operation whose call is over sends its request, or is over too. -/
def send? (s : Errands α) (number : Nat) : Option (Errands α) :=
  match s.progress number, s.calls.outcome? number with
  | .asking errand, some (.ok token) =>
    some ((s.record (.sent number (errand.request.withBearer token))).place number
      (.sent errand token))
  | .asking _, some (.error e) => some (s.place number (.ended (.error (.authentication e))))
  | _, _ => none

/-- The backend answers an operation. -/
def answer? (s : Errands α) (number : Nat) (reply : Reply) : Option (Errands α) :=
  match s.progress number with
  | .sent errand token =>
    some ((s.record (.answered number reply)).place number (.answered errand token reply))
  | _ => none

/-- Drops the cached token if the answer says that a token is not accepted. -/
def heed (s : Errands α) (reply : Reply) : Errands α :=
  if reply.refusesToken then
    { s with calls := { s.calls with memory := s.calls.memory.invalidate } }
  else s

/-- An operation heeds its answer and is over. -/
def conclude? (s : Errands α) (number : Nat) : Option (Errands α) :=
  match s.progress number with
  | .answered errand _ reply => some ((s.heed reply).place number (.ended (errand.finish reply)))
  | _ => none

/-- An operation is given up while it waits for its call or for the backend. -/
def drop? (s : Errands α) (number : Nat) : Option (Errands α) :=
  match s.progress number with
  | .asking _ =>
    (s.calls.drop? number).map fun calls => { s with calls }.place number .dropped
  | .sent _ _ => some (s.place number .dropped)
  | _ => none

/-- What comes of a move, if it is possible. -/
def step? (backend : BackendSettings) (identity : IdentitySettings) (s : Errands α) :
    Move α → Option (Errands α)
  | .start number operation => s.start? backend number operation
  | .session action => s.session? identity action
  | .send number => s.send? number
  | .answer number reply => s.answer? number reply
  | .conclude number => s.conclude? number
  | .drop number => s.drop? number

/-- What comes of some moves, if they are all possible. -/
def run? (backend : BackendSettings) (identity : IdentitySettings) (s : Errands α) :
    List (Move α) → Option (Errands α)
  | [] => some s
  | move :: rest => (s.step? backend identity move).bind (run? backend identity · rest)

/-- The result of an operation that is over. -/
def result? (s : Errands α) (number : Nat) : Option (Except GatewayError (Outcome α)) :=
  match s.progress number with
  | .ended result => some result
  | _ => none

/-! ## What a step leaves alone -/

@[simp] theorem progress_place_self (s : Errands α) (number : Nat) (progress : Progress α) :
    (s.place number progress).progress number = progress := by
  simp [place]

@[simp] theorem progress_place_of_ne (s : Errands α) (number other : Nat) (progress : Progress α)
    (h : other ≠ number) : (s.place number progress).progress other = s.progress other := by
  simp [place, h]

@[simp] theorem calls_place (s : Errands α) (number : Nat) (progress : Progress α) :
    (s.place number progress).calls = s.calls := rfl

@[simp] theorem log_place (s : Errands α) (number : Nat) (progress : Progress α) :
    (s.place number progress).log = s.log := rfl

@[simp] theorem progress_record (s : Errands α) (event : Event) :
    (s.record event).progress = s.progress := rfl

@[simp] theorem progress_heed (s : Errands α) (reply : Reply) :
    (s.heed reply).progress = s.progress := by
  unfold heed
  split <;> rfl

@[simp] theorem log_heed (s : Errands α) (reply : Reply) : (s.heed reply).log = s.log := by
  unfold heed
  split <;> rfl

end Errands

end LoanGateway
