import LoanGateway.Retry.Execution
import LoanGateway.Retry.Policy

/-!
# Repeated attempts, turn by turn

The attempts at an operation are the turns of a loop, which counts in words of 32 bits. A count that has
reached the last word cannot go on.

- `Retry.Counter`, `Retry.increment`: one more, unless the counter overflows.
- `Retry.Tally`: the counts over a series of loops.
- `Retry.Loop`: a loop between two turns.
- `Retry.turn`: one attempt, and what follows from it.
-/

namespace LoanGateway.Retry

/-- What is counted: the number of the attempt in its loop, and the counts over a series of loops. -/
inductive Counter
  | attempt
  | attempts
  | recovered
  | failed
  deriving DecidableEq

/-- One more, unless the counter overflows. -/
def increment (counter : Counter) (n : UInt32) : Except Counter UInt32 :=
  if n.toNat + 1 < UInt32.size then .ok (n + 1) else .error counter

/-- Counts over a series of loops, in words: see `Stats`. -/
structure Tally where
  attempts : UInt32
  recovered : UInt32
  failed : UInt32

namespace Tally

def zero : Tally := ⟨0, 0, 0⟩

/-- The counts of a tally. -/
def stats (t : Tally) : Stats := ⟨t.attempts.toNat, t.recovered.toNat, t.failed.toNat⟩

end Tally

/-- A loop between two turns: the number of the next attempt, what the attempts have left behind, the
times waited after them, and the tally. -/
structure Loop (σ : Type) where
  attempt : UInt32
  state : σ
  waits : List Duration
  tally : Tally

variable {σ α : Type}

/-- A loop before its first turn. -/
def Loop.start (s : σ) (tally : Tally) : Loop σ := ⟨0, s, [], tally⟩

/-- What comes of a turn. -/
inductive Turned (σ α : Type)
  | again (l : Loop σ)
  | ended (outcome : Except SignInError α) (l : Loop σ)

/-- A loop ends with a failure. -/
def Loop.fail (l : Loop σ) (e : SignInError) : Except Counter (Turned σ α) := do
  let failed ← increment .failed l.tally.failed
  return .ended (.error e) { l with tally := { l.tally with failed } }

/-- Makes an attempt. A loop of at most `most` turns goes on after a transient failure. -/
def turn (most : UInt32) (wait : Nat → Duration) (operation : σ → Except SignInError α × σ)
    (l : Loop σ) : Except Counter (Turned σ α) := do
  let attempts ← increment .attempts l.tally.attempts
  let (outcome, state) := operation l.state
  let l := { l with state, tally := { l.tally with attempts } }
  match outcome with
  | .ok a =>
    if 0 < l.attempt then
      let recovered ← increment .recovered l.tally.recovered
      return .ended (.ok a) { l with tally := { l.tally with recovered } }
    else return .ended (.ok a) l
  | .error e =>
    if e.isTransient then
      let next ← increment .attempt l.attempt
      if most ≤ next then l.fail e
      else return .again { l with attempt := next, waits := l.waits ++ [wait l.attempt.toNat] }
    else l.fail e

/-- The most turns that a policy allows, as a word. -/
def Policy.most (p : Policy) : UInt32 := .ofNat p.attempts

end LoanGateway.Retry
