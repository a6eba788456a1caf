import LoanGateway.Session.Calls

/-!
# Schedules

How calls that begin together get on with the answers of the identity provider. Without latency a
call never has to wait, so it is over before the next one begins. With latency all calls begin
before the first answer arrives, and they end in the order in which they came to the gate.

- `Schedule`: calls, the answers to come, and whether they take time.
- `Schedule.together`: begins some calls together and waits for their ends.
-/

namespace LoanGateway

/-- Calls and the answers to come. Calls from `next` on have not begun. -/
structure Schedule where
  settings : IdentitySettings
  calls : Calls
  replies : List Reply
  latent : Bool
  next : Nat

namespace Schedule

/-- Answers that take no time, and no call yet. -/
def new (settings : IdentitySettings) (replies : List Reply) : Schedule :=
  ⟨settings, .initial settings, replies, false, 0⟩

/-- Adds answers behind those to come. -/
def queue (s : Schedule) (replies : List Reply) : Schedule :=
  { s with replies := s.replies ++ replies }

/-- Puts a token into the memory. -/
def store (s : Schedule) (token : String) : Schedule :=
  let memory := s.calls.memory
  { s with calls := { s.calls with memory := { memory with
    cache := memory.cache.store token s.calls.now } } }

/-- What comes of an action that needs no answer; one that is not possible is left out. -/
def act (s : Schedule) (action : Action) : Schedule :=
  { s with calls := (s.calls.step? s.settings action).getD s.calls }

/-- The next step of a call: it takes the next answer if it waits for one. -/
def turn (s : Schedule) (call : Nat) : Schedule :=
  if (s.calls.stage call).isInFlight then
    { s.act (.answer call (s.replies.head?.getD Wire.exhausted)) with replies := s.replies.tail }
  else s.act (.proceed call)

/-- Repeats a change. -/
def repeated (change : Schedule → Schedule) : Nat → Schedule → Schedule
  | 0, s => s
  | n + 1, s => repeated change n (change s)

/-- The most steps that a call takes from its beginning to its end. -/
def longest : Nat := 11

/-- A call gets on until it waits for an answer or for others. -/
def start (s : Schedule) (call : Nat) : Schedule :=
  repeated (·.act (.proceed call)) longest (s.act (.begin call))

/-- A call gets on until its end. -/
def finish (s : Schedule) (call : Nat) : Schedule := repeated (·.turn call) longest s

/-- Some calls that begin together, each of which takes its turn. -/
def together (s : Schedule) (count : Nat) : Schedule :=
  let numbers := List.range' s.next count
  let s := { s with next := s.next + count }
  if s.latent then numbers.foldl finish (numbers.foldl start s)
  else numbers.foldl (fun s call => (s.act (.begin call)).finish call) s

/-- The outcomes of the calls from a number on. -/
def outcomes (s : Schedule) (first : Nat) : List (Option (Except SignInError String)) :=
  (List.range' first (s.next - first)).map s.calls.outcome?

end Schedule

end LoanGateway
