import LoanGateway.Proofs.Session.Steps
import Mathlib.Data.List.Induction
import Mathlib.Tactic.ByContra

/-!
# Looking back at a run

What a state tells about the actions that led to it. An outcome that a call has is one that it got at
a moment of the run, and there are three ways to get one.

- `Calls.stage_of_step`, `Calls.memory_of_step`: whom and what a step leaves alone.
- `Calls.history_induction`: what every further action preserves holds of all runs from the start.
- `Calls.exists_moment`: what holds at the end of a run began to hold with one of its actions.
- `Calls.Completes`: a handshake of a run that was completed in a state.
- `Calls.Origin`, `Calls.exists_origin`: how a call came by its outcome.
-/

namespace LoanGateway

/-- The call that an action is about, if it is about one. -/
def Action.call? : Action → Option Nat
  | .begin call | .proceed call | .answer call _ | .drop call => some call
  | .invalidate | .pass _ => none

namespace Stage

/-- The outcome of a call that has one. -/
def outcome? : Stage → Option (Except SignInError String)
  | leaving outcome | finished outcome => some outcome
  | _ => none

/-- Whether a call has begun and is neither over nor given up. -/
def isGoing : Stage → Bool
  | absent => false
  | stage => !stage.isOver

/-- A call that is over waits for nothing. -/
theorem isPending_of_isOver {stage : Stage} (h : stage.isOver = true) :
    stage.isPending = false := by
  cases stage <;> first | rfl | cases h

end Stage

namespace Calls

variable {settings : IdentitySettings} {s t u : Calls} {action : Action} {actions : List Action}
  {call owner : Nat} {outcome : Except SignInError String}

/-! ## Whom a step leaves alone -/

/-- An action that is about another call, or about none, leaves a call where it is. -/
theorem stage_of_step (step : Step settings s action t) (other : action.call? ≠ some call) :
    t.stage call = s.stage call := by
  have ne {mover : Nat} (about : action.call? = some mover) : call ≠ mover := by
    rintro rfl
    exact other about
  cases step with
  | invalidate => rfl
  | pass _ => rfl
  | _ => exact stage_place_of_ne _ _ _ _ (ne rfl)

/-- A call that is over stays as it is. -/
theorem stage_of_over (step : Step settings s action t) (ended : (s.stage call).isOver = true) :
    t.stage call = s.stage call := by
  by_cases mover : action.call? = some call
  · cases step with
    | drop pending =>
      cases mover
      rw [Stage.isPending_of_isOver ended] at pending
      cases pending
    | invalidate => rfl
    | pass _ => rfl
    | begin stage | serve stage _ | miss stage _ | count stage | queue stage | enter stage _
    | tell stage _ | resolve stage _ | ask stage | grant stage _ | refuse stage _
    | exchange stage | settle stage | commit stage | leave stage =>
      cases mover
      rw [stage] at ended
      cases ended
  · exact stage_of_step step mover

/-- A call that has begun has begun for good. -/
theorem begun_of_step (step : Step settings s action t) (begun : s.stage call ≠ .absent) :
    t.stage call ≠ .absent := by
  by_cases mover : action.call? = some call
  · cases step with
    | invalidate => cases mover
    | pass _ => cases mover
    | _ =>
      cases mover
      rw [stage_place_self]
      nofun
  · rw [stage_of_step step mover]
    exact begun

/-- A call stays at the gate until it moves itself. -/
theorem mem_gate_of_step (step : Step settings s action t) (other : action.call? ≠ some call)
    (mem : call ∈ s.gate) : call ∈ t.gate := by
  have ne {mover : Nat} (about : action.call? = some mover) : call ≠ mover := by
    rintro rfl
    exact other about
  cases step with
  | queue _ => exact List.mem_append_left _ mem
  | leave _ => exact List.mem_filter.mpr ⟨mem, by simpa using ne rfl⟩
  | drop _ => exact List.mem_filter.mpr ⟨mem, by simpa using ne rfl⟩
  | _ => exact mem

/-- The log only grows, by one event at a time. -/
theorem log_of_step (step : Step settings s action t) :
    t.log = s.log ∨ ∃ event, t.log = s.log ++ [event] := by
  cases step with
  | ask _ | grant _ _ | refuse _ _ | exchange _ | settle _ => exact .inr ⟨_, rfl⟩
  | _ => exact .inl rfl

/-- The memory changes by an invalidation and at the end of a handshake. -/
theorem memory_of_step (step : Step settings s action t) :
    t.memory = s.memory ∨ (action = .invalidate ∧ t.memory = s.memory.invalidate) ∨
      ∃ owner outcome, action = .proceed owner ∧ s.stage owner = .settled outcome ∧
        t.memory = s.memory.commit s.now outcome := by
  cases step with
  | commit stage => exact .inr (.inr ⟨_, _, rfl, stage, rfl⟩)
  | invalidate => exact .inr (.inl ⟨rfl, rfl⟩)
  | _ => exact .inl rfl

/-! ## Runs, seen from their ends -/

/-- A run and one action more. -/
theorem run?_snoc (run : s.run? settings actions = some t) (step : Step settings t action u) :
    s.run? settings (actions ++ [action]) = some u :=
  run?_append_eq_some_iff.mpr ⟨t, run, run?_cons_eq_some_iff.mpr ⟨u, step, rfl⟩⟩

/-- What holds of the empty run and is preserved by every further action holds of all runs. -/
theorem history_induction {P : List Action → Calls → Prop}
    (run : (initial settings).run? settings actions = some s) (start : P [] (initial settings))
    (step : ∀ {actions s action t}, (initial settings).run? settings actions = some s →
      Step settings s action t → P actions s → P (actions ++ [action]) t) : P actions s := by
  induction actions using List.reverseRecOn generalizing s with
  | nil =>
    cases run
    exact start
  | append_singleton actions action ih =>
    obtain ⟨t, before, last⟩ := run?_append_eq_some_iff.mp run
    obtain ⟨_, here, ends⟩ := run?_cons_eq_some_iff.mp last
    cases ends
    exact step before here (ih before)

/-- What does not hold in the beginning and holds in the end begins to hold with an action. -/
theorem exists_moment {P : Calls → Prop} (run : s.run? settings actions = some u) (start : ¬ P s)
    (ends : P u) :
    ∃ before action after t v, actions = before ++ action :: after ∧
      s.run? settings before = some t ∧ ¬ P t ∧ Step settings t action v ∧ P v := by
  induction actions generalizing s with
  | nil =>
    cases run
    exact absurd ends start
  | cons action rest ih =>
    obtain ⟨v, first, run⟩ := run?_cons_eq_some_iff.mp run
    by_cases here : P v
    · exact ⟨[], action, rest, s, v, rfl, rfl, start, first, here⟩
    · obtain ⟨before, later, after, t, w, rfl, reached, moment⟩ := ih run here
      exact ⟨action :: before, later, after, t, w, rfl,
        run?_cons_eq_some_iff.mpr ⟨v, first, reached⟩, moment⟩

/-- In a run from the start, a call completes its handshake in the state `s`. -/
def Completes (settings : IdentitySettings) (actions : List Action) (owner : Nat)
    (outcome : Except SignInError String) (s : Calls) : Prop :=
  ∃ before after, actions = before ++ .proceed owner :: after ∧
    (initial settings).run? settings before = some s ∧ s.stage owner = .settled outcome

namespace Completes

/-- What was completed in a run was completed in every longer one. -/
theorem append (h : Completes settings actions owner outcome s) (more : List Action) :
    Completes settings (actions ++ more) owner outcome s := by
  obtain ⟨before, after, rfl, rest⟩ := h
  exact ⟨before, after ++ more, by simp, rest⟩

/-- A handshake that is completed with the last action. -/
theorem last (run : (initial settings).run? settings actions = some s)
    (settled : s.stage owner = .settled outcome) :
    Completes settings (actions ++ [.proceed owner]) owner outcome s :=
  ⟨actions, [], rfl, run, settled⟩

end Completes

/-! ## How calls come by their outcomes -/

/-- How a call gets its outcome in a state. -/
inductive Origin (s : Calls) (call : Nat) : Except SignInError String → Prop
  /-- From the cache, without going to the gate. -/
  | served {token : String} (stage : s.stage call = .arrived)
      (fresh : s.memory.cache.valid? s.now = some token) : Origin s call (.ok token)
  /-- From the memory, when it has been admitted. -/
  | told {seen : Nat} {outcome : Except SignInError String} (stage : s.stage call = .admitted seen)
      (known : s.memory.known? s.now seen = some outcome) : Origin s call outcome
  /-- From a handshake of its own. -/
  | completed {outcome : Except SignInError String} (stage : s.stage call = .settled outcome) :
      Origin s call outcome

/-- A call that newly has an outcome has it from one of the origins. -/
theorem origin_of_step (step : Step settings s action t)
    (before : (s.stage call).outcome? ≠ some outcome)
    (after : (t.stage call).outcome? = some outcome) :
    action = .proceed call ∧ Origin s call outcome := by
  have mover : action.call? = some call := by
    by_contra other
    rw [stage_of_step step other] at after
    exact before after
  cases step with
  | serve stage fresh =>
    cases mover
    rw [stage_place_self] at after
    cases after
    exact ⟨rfl, .served stage fresh⟩
  | tell stage known =>
    cases mover
    rw [stage_place_self] at after
    cases after
    exact ⟨rfl, .told stage known⟩
  | commit stage =>
    cases mover
    rw [stage_place_self] at after
    cases after
    exact ⟨rfl, .completed stage⟩
  -- a call that leaves had its outcome before
  | leave stage =>
    cases mover
    rw [stage_place_self] at after
    cases after
    rw [stage] at before
    exact absurd rfl before
  | invalidate => cases mover
  | pass _ => cases mover
  | _ =>
    cases mover
    rw [stage_place_self] at after
    cases after

/-- Every outcome has an origin in the run. -/
theorem exists_origin (run : (initial settings).run? settings actions = some s)
    (has : (s.stage call).outcome? = some outcome) :
    ∃ before after t, actions = before ++ .proceed call :: after ∧
      (initial settings).run? settings before = some t ∧ Origin t call outcome := by
  obtain ⟨before, action, after, t, v, rfl, reached, not_yet, step, now⟩ :=
    exists_moment (P := fun s => (s.stage call).outcome? = some outcome) run nofun has
  obtain ⟨rfl, origin⟩ := origin_of_step step not_yet now
  exact ⟨before, after, t, rfl, reached, origin⟩

end Calls

end LoanGateway
