import LoanGateway.Session.Handshake
import LoanGateway.Session.Memory

/-!
# Simultaneous calls

Any number of calls for a token may be under way at the same time. A gate lets one handshake happen
at a time, and who waits at it is admitted in the order of arrival. A call looks into the memory
before it goes to the gate and again when it is admitted, so that it profits from the handshake it
waited for. A call may be dropped wherever it waits.

- `Stage`: how far a call has come.
- `Calls`: the calls, the gate and the memory, with a log of the exchanges.
- `Calls.proceed?`, `Calls.answer?`, `Calls.drop?`: the steps of a call.
- `Action`, `Calls.step?`: everything that can happen.
- `Calls.run?`: one thing after another.
-/

namespace LoanGateway

/-- How far a call has come. -/
inductive Stage
  /-- There is no such call yet. -/
  | absent
  /-- The call has begun. -/
  | arrived
  /-- There was no fresh token. -/
  | missed
  /-- The call has counted the handshakes that were over. -/
  | counted (seen : Nat)
  /-- The call is at the gate. It is admitted when it is the first there. -/
  | waiting (seen : Nat)
  /-- The call holds the gate. -/
  | admitted (seen : Nat)
  /-- There was nothing to tell the call, so it has to do a handshake. -/
  | resolved
  /-- The call has asked for a session. -/
  | opening
  /-- The call has got a session. -/
  | opened (session : String)
  /-- The call has asked for a token. -/
  | exchanging
  /-- The handshake of the call is over, and nobody knows yet. -/
  | settled (outcome : Except SignInError String)
  /-- The call has its outcome and still holds the gate. -/
  | leaving (outcome : Except SignInError String)
  /-- The call is over. -/
  | finished (outcome : Except SignInError String)
  /-- The call was given up. -/
  | dropped

namespace Stage

/-- Whether a call waits for something outside, so that it can be dropped: to be begun in earnest,
to be admitted, to get a request off, or to get an answer. -/
def isPending : Stage → Bool
  | arrived | waiting _ | resolved | opening | opened _ | exchanging => true
  | _ => false

/-- Whether a call waits for an answer of the identity provider. -/
def isInFlight : Stage → Bool
  | opening | exchanging => true
  | _ => false

/-- Whether a call is past the gate and has not left it. -/
def holdsGate : Stage → Bool
  | admitted _ | resolved | opening | opened _ | exchanging | settled _ | leaving _ => true
  | _ => false

/-- Whether a call is at the gate, admitted or not. -/
def isAtGate : Stage → Bool
  | waiting _ => true
  | stage => stage.holdsGate

end Stage

/-- One half of an exchange with the identity provider. -/
inductive Event
  | sent (call : Nat) (request : Request)
  | answered (call : Nat) (reply : Reply)

/-- The request of an event that is one. -/
def Event.request? : Event → Option Request
  | sent _ request => some request
  | answered _ _ => none

/-- Calls for a token. Each has a number of its own. -/
structure Calls where
  memory : Memory
  now : Instant
  gate : List Nat
  stage : Nat → Stage
  log : List Event

namespace Calls

/-- No call yet. -/
def initial (settings : IdentitySettings) : Calls where
  memory := .empty settings.tokenTtl
  now := ⟨0⟩
  gate := []
  stage _ := .absent
  log := []

/-- Moves a call to a stage. -/
def place (s : Calls) (call : Nat) (stage : Stage) : Calls :=
  { s with stage := fun c => if c = call then stage else s.stage c }

/-- Takes a call away from the gate; the next one there is admitted. -/
def leave (s : Calls) (call : Nat) : Calls := { s with gate := s.gate.filter (· ≠ call) }

/-- Writes an event into the log. -/
def record (s : Calls) (event : Event) : Calls := { s with log := s.log ++ [event] }

/-- A call begins. -/
def begin? (s : Calls) (call : Nat) : Option Calls :=
  match s.stage call with
  | .absent => some (s.place call .arrived)
  | _ => none

/-- The next step of a call, if it has one to do on its own. -/
def proceed? (settings : IdentitySettings) (s : Calls) (call : Nat) : Option Calls :=
  match s.stage call with
  -- the look into the memory that does not wait for the gate
  | .arrived =>
    match s.memory.cache.valid? s.now with
    | some token => some (s.place call (.finished (.ok token)))
    | none => some (s.place call .missed)
  | .missed => some (s.place call (.counted s.memory.completed))
  | .counted seen => some ({ s with gate := s.gate ++ [call] }.place call (.waiting seen))
  | .waiting seen => if s.gate.head? = some call then some (s.place call (.admitted seen)) else none
  -- the second look: what the calls before this one have left behind
  | .admitted seen =>
    match s.memory.known? s.now seen with
    | some outcome => some (s.place call (.leaving outcome))
    | none => some (s.place call .resolved)
  | .resolved =>
    some ((s.record (.sent call (Handshake.sessionRequest settings))).place call .opening)
  | .opened session =>
    some ((s.record (.sent call (Handshake.tokenRequest settings session))).place call .exchanging)
  | .settled outcome =>
    some ({ s with memory := s.memory.commit s.now outcome }.place call (.leaving outcome))
  | .leaving outcome => some ((s.leave call).place call (.finished outcome))
  -- the others wait for an answer or are over
  | .absent | .opening | .exchanging | .finished _ | .dropped => none

/-- The identity provider answers a call. -/
def answer? (s : Calls) (call : Nat) (reply : Reply) : Option Calls :=
  let answered := s.record (.answered call reply)
  match s.stage call with
  | .opening =>
    match Handshake.sessionOf reply with
    | .ok session => some (answered.place call (.opened session))
    | .error e => some (answered.place call (.settled (.error e)))
  | .exchanging => some (answered.place call (.settled (Handshake.tokenOf reply)))
  | _ => none

/-- A call is given up where it waits. -/
def drop? (s : Calls) (call : Nat) : Option Calls :=
  if (s.stage call).isPending then some ((s.leave call).place call .dropped) else none

end Calls

/-- What can happen. -/
inductive Action
  | begin (call : Nat)
  | proceed (call : Nat)
  | answer (call : Nat) (reply : Reply)
  | drop (call : Nat)
  | invalidate
  | pass (time : Duration)

namespace Calls

/-- What comes of an action, if it is possible. -/
def step? (settings : IdentitySettings) (s : Calls) : Action → Option Calls
  | .begin call => s.begin? call
  | .proceed call => s.proceed? settings call
  | .answer call reply => s.answer? call reply
  | .drop call => s.drop? call
  | .invalidate => some { s with memory := s.memory.invalidate }
  | .pass time => some { s with now := s.now.after time }

/-- What comes of some actions, if they are all possible. -/
def run? (settings : IdentitySettings) (s : Calls) : List Action → Option Calls
  | [] => some s
  | action :: rest => (s.step? settings action).bind (run? settings · rest)

/-- The outcome of a call that is over. -/
def outcome? (s : Calls) (call : Nat) : Option (Except SignInError String) :=
  match s.stage call with
  | .finished outcome => some outcome
  | _ => none

/-- The requests sent so far. -/
def requests (s : Calls) : List Request := s.log.filterMap Event.request?

/-! ## What a step leaves alone -/

@[simp] theorem stage_place_self (s : Calls) (call : Nat) (stage : Stage) :
    (s.place call stage).stage call = stage := by
  simp [place]

@[simp] theorem stage_place_of_ne (s : Calls) (call other : Nat) (stage : Stage)
    (h : other ≠ call) : (s.place call stage).stage other = s.stage other := by
  simp [place, h]

/-- What holds of the call that moves on and of the others as before, holds of every call. -/
theorem place_cases {P : Nat → Stage → Prop} {s : Calls} {call : Nat} {stage : Stage}
    (self : P call stage) (others : ∀ other, other ≠ call → P other (s.stage other))
    (other : Nat) : P other ((s.place call stage).stage other) := by
  by_cases same : other = call
  · rw [same, stage_place_self]
    exact self
  · rw [stage_place_of_ne _ _ _ _ same]
    exact others other same

/-- Actions in two parts. -/
theorem run?_append (settings : IdentitySettings) (s : Calls) (as bs : List Action) :
    s.run? settings (as ++ bs) = (s.run? settings as).bind (run? settings · bs) := by
  induction as generalizing s with
  | nil => rfl
  | cons a as ih =>
    simp only [List.cons_append, run?]
    cases s.step? settings a with
    | none => rfl
    | some t => exact ih t

end Calls

end LoanGateway
