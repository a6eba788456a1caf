import LoanGateway.Proofs.Client.Moves
import LoanGateway.Proofs.Session.Twins

/-!
# Simultaneous operations with different credentials

What any number of simultaneous operations and calls for a token come to does not depend on the
credentials either, however they are interleaved. The same moves lead to the same progress and to the
same exchanges with the backend, and the exchanges with the identity provider differ in the secrets.

- `Event.SameButSecrets`: halves of exchanges that differ in the secrets at most.
- `Calls.Twins`, `Errands.Twins`: states that differ in what was sent of the secrets.
- `Calls.twins_step`, `Errands.twins_step`: what one can do the other can do too, and they stay twins.
- `Errands.twins_run`: so do runs.
-/

namespace LoanGateway

/-- The same half of an exchange. If it is a request, then up to its secrets. -/
inductive Event.SameButSecrets (s : IdentitySettings) : Event → Event → Prop
  | sent (call : Nat) {r q : Request} (same : r.SameButSecrets s q) :
      SameButSecrets s (.sent call r) (.sent call q)
  | answered (call : Nat) (reply : Reply) :
      SameButSecrets s (.answered call reply) (.answered call reply)

variable {s t : IdentitySettings}

/-! ## Calls -/

namespace Calls

/-- Calls in the same state whose requests differ in the secrets at most. -/
structure Twins (s : IdentitySettings) (x y : Calls) : Prop where
  memory : x.memory = y.memory
  now : x.now = y.now
  gate : x.gate = y.gate
  stage : x.stage = y.stage
  log : List.Forall₂ (Event.SameButSecrets s) x.log y.log

theorem twins_initial (same : s.SameButCredentials t) : Twins s (initial s) (initial t) where
  memory := congrArg Memory.empty same.tokenTtl
  now := rfl
  gate := rfl
  stage := rfl
  log := .nil

variable {x y u : Calls}

/-- The outcomes are the same. -/
theorem Twins.outcome? (twins : Twins s x y) (call : Nat) : x.outcome? call = y.outcome? call := by
  unfold Calls.outcome?
  rw [twins.stage]

theorem Twins.invalidate (twins : Twins s x y) :
    Twins s { x with memory := x.memory.invalidate } { y with memory := y.memory.invalidate } :=
  ⟨congrArg Memory.invalidate twins.memory, twins.now, twins.gate, twins.stage, twins.log⟩

/-- What happens to calls with some credentials can happen to them with others. -/
theorem twins_step (same : s.SameButCredentials t) (twins : Twins s x y) {action : Action}
    (step : Step s x action u) : ∃ v, Step t y action v ∧ Twins s u v := by
  obtain ⟨memory, now, gate, stage, log⟩ := y
  obtain ⟨rfl, rfl, rfl, rfl, logs⟩ := twins
  -- only what is written into the log tells one state from the other
  have noted {event other : Event} (alike : event.SameButSecrets s other) :
      List.Forall₂ (Event.SameButSecrets s) (x.log ++ [event]) (log ++ [other]) :=
    List.rel_append logs (.cons alike .nil)
  cases step with
  | begin stage => exact ⟨_, .begin stage, rfl, rfl, rfl, rfl, logs⟩
  | serve stage fresh => exact ⟨_, .serve stage fresh, rfl, rfl, rfl, rfl, logs⟩
  | miss stage none_fresh => exact ⟨_, .miss stage none_fresh, rfl, rfl, rfl, rfl, logs⟩
  | count stage => exact ⟨_, .count stage, rfl, rfl, rfl, rfl, logs⟩
  | queue stage => exact ⟨_, .queue stage, rfl, rfl, rfl, rfl, logs⟩
  | enter stage first => exact ⟨_, .enter stage first, rfl, rfl, rfl, rfl, logs⟩
  | tell stage known => exact ⟨_, .tell stage known, rfl, rfl, rfl, rfl, logs⟩
  | resolve stage unknown => exact ⟨_, .resolve stage unknown, rfl, rfl, rfl, rfl, logs⟩
  | ask stage =>
    have requests := Handshake.sameButSecrets_sessionRequest same
    exact ⟨_, .ask stage, rfl, rfl, rfl, rfl, noted (.sent _ requests)⟩
  | grant stage granted =>
    exact ⟨_, .grant stage granted, rfl, rfl, rfl, rfl, noted (.answered ..)⟩
  | refuse stage refused =>
    exact ⟨_, .refuse stage refused, rfl, rfl, rfl, rfl, noted (.answered ..)⟩
  | exchange stage =>
    have requests := Handshake.sameButSecrets_tokenRequest same
    exact ⟨_, .exchange stage, rfl, rfl, rfl, rfl, noted (.sent _ (requests _))⟩
  | settle stage => exact ⟨_, .settle stage, rfl, rfl, rfl, rfl, noted (.answered ..)⟩
  | commit stage => exact ⟨_, .commit stage, rfl, rfl, rfl, rfl, logs⟩
  | leave stage => exact ⟨_, .leave stage, rfl, rfl, rfl, rfl, logs⟩
  | drop pending => exact ⟨_, .drop pending, rfl, rfl, rfl, rfl, logs⟩
  | invalidate => exact ⟨_, .invalidate, rfl, rfl, rfl, rfl, logs⟩
  | pass time => exact ⟨_, .pass time, rfl, rfl, rfl, rfl, logs⟩

end Calls

/-! ## Operations -/

namespace Errands

variable {α : Type} {backend : BackendSettings}

/-- Operations that have come equally far and have exchanged the same with the backend, and whose
calls are twins. -/
structure Twins (s : IdentitySettings) (x y : Errands α) : Prop where
  calls : Calls.Twins s x.calls y.calls
  progress : x.progress = y.progress
  log : x.log = y.log

theorem twins_initial (same : s.SameButCredentials t) :
    Twins s (initial s : Errands α) (initial t) := ⟨Calls.twins_initial same, rfl, rfl⟩

variable {x y u : Errands α}

theorem Twins.heed (twins : Twins s x y) (reply : Reply) :
    Twins s (x.heed reply) (y.heed reply) := by
  unfold Errands.heed
  split
  · exact ⟨twins.calls.invalidate, twins.progress, twins.log⟩
  · exact twins

/-- Moves to the same place keep twins so. -/
theorem Twins.place (twins : Twins s x y) (number : Nat) (progress : Progress α) :
    Twins s (x.place number progress) (y.place number progress) := by
  refine ⟨twins.calls, ?_, twins.log⟩
  show (fun n => if n = number then progress else x.progress n) = _
  rw [twins.progress]
  rfl

theorem Twins.record (twins : Twins s x y) (event : Event) :
    Twins s (x.record event) (y.record event) :=
  ⟨twins.calls, twins.progress, congrArg (· ++ [event]) twins.log⟩

/-- What operations do with some credentials they can do with others. -/
theorem twins_step (same : s.SameButCredentials t) (twins : Twins s x y) {move : Move α}
    (step : Step backend s x move u) : ∃ v, Step backend t y move v ∧ Twins s u v := by
  have at_once {number : Nat} {progress : Progress α} (there : x.progress number = progress) :
      y.progress number = progress := by
    rw [← twins.progress]
    exact there
  have told {number : Nat} {outcome : Except SignInError String}
      (ends : x.calls.outcome? number = some outcome) :
      y.calls.outcome? number = some outcome := by
    rw [← twins.calls.outcome?]
    exact ends
  cases step with
  | start absent errands begins =>
    obtain ⟨calls, begins, alike⟩ := Calls.twins_step same twins.calls begins
    have moved : Twins s { x with calls := _ } { y with calls } := ⟨alike, twins.progress, twins.log⟩
    exact ⟨_, .start (at_once absent) errands begins, moved.place ..⟩
  | skip absent unwritable =>
    exact ⟨_, .skip (at_once absent) unwritable, twins.place ..⟩
  | session step others =>
    obtain ⟨calls, step, alike⟩ := Calls.twins_step same twins.calls step
    refine ⟨_, .session step fun call drops => ?_, alike, twins.progress, twins.log⟩
    rw [← twins.progress]
    exact others call drops
  | send asking ends =>
    exact ⟨_, .send (at_once asking) (told ends), (twins.record _).place ..⟩
  | fail asking ends => exact ⟨_, .fail (at_once asking) (told ends), twins.place ..⟩
  | answer sent => exact ⟨_, .answer (at_once sent), (twins.record _).place ..⟩
  | conclude answered => exact ⟨_, .conclude (at_once answered), (twins.heed _).place ..⟩
  | dropCall asking drops =>
    obtain ⟨calls, drops, alike⟩ := Calls.twins_step same twins.calls drops
    have moved : Twins s { x with calls := _ } { y with calls } := ⟨alike, twins.progress, twins.log⟩
    exact ⟨_, .dropCall (at_once asking) drops, moved.place ..⟩
  | dropRequest sent => exact ⟨_, .dropRequest (at_once sent), twins.place ..⟩

/-- A run with some credentials is one with others. -/
theorem twins_run (same : s.SameButCredentials t) (twins : Twins s x y) {moves : List (Move α)}
    (run : x.run? backend s moves = some u) :
    ∃ v, y.run? backend t moves = some v ∧ Twins s u v := by
  induction moves generalizing x y with
  | nil =>
    cases run
    exact ⟨y, rfl, twins⟩
  | cons move rest ih =>
    obtain ⟨z, step, run⟩ := run?_cons_eq_some_iff.mp run
    obtain ⟨w, step, twins⟩ := twins_step same twins step
    obtain ⟨v, run, twins⟩ := ih twins run
    exact ⟨v, run?_cons_eq_some_iff.mpr ⟨w, step, run⟩, twins⟩

end Errands

end LoanGateway
