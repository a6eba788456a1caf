import LoanGateway.Proofs.Session.Steps
import Mathlib.Data.List.Nodup

/-!
# One call past the gate

The gate is a line of calls. `Calls.Gated` is its invariant: who stands in the line is at the gate,
nobody stands in it twice, and only the first one may be past it. Every step preserves it, so that
there is at most one call between its admission and its leaving in any reachable state.

- `Calls.Gated`, `Calls.Reachable.gated`: the invariant.
- `Calls.Gated.eq_of_holdsGate`: two calls past the gate are one.
-/

namespace LoanGateway

/-- Who is past the gate is at the gate. -/
theorem Stage.isAtGate_of_holdsGate {stage : Stage} (h : stage.holdsGate = true) :
    stage.isAtGate = true := by
  cases stage <;> first | rfl | exact h

namespace Calls

variable {settings : IdentitySettings}

/-- The line at the gate is in order. -/
structure Gated (s : Calls) : Prop where
  mem_iff : ∀ call, call ∈ s.gate ↔ (s.stage call).isAtGate = true
  nodup : s.gate.Nodup
  first : ∀ call, (s.stage call).holdsGate = true → s.gate.head? = some call

namespace Gated

theorem initial : Gated (initial settings) where
  mem_iff _ := by simp [Calls.initial, Stage.isAtGate, Stage.holdsGate]
  nodup := List.nodup_nil
  first _ holds := nomatch holds

/-- Two calls past the gate are one. -/
theorem eq_of_holdsGate {s : Calls} (h : Gated s) {c d : Nat}
    (hc : (s.stage c).holdsGate = true) (hd : (s.stage d).holdsGate = true) : c = d := by
  have firsts : some c = some d := (h.first c hc).symm.trans (h.first d hd)
  exact Option.some.inj firsts

/-- Only the line and the stages matter. -/
theorem congr {s t : Calls} (h : Gated s) (gate : t.gate = s.gate) (stage : t.stage = s.stage) :
    Gated t where
  mem_iff := by
    rw [gate, stage]
    exact h.mem_iff
  nodup := gate ▸ h.nodup
  first := by
    rw [gate, stage]
    exact h.first

/-- A call that moves on without coming to the gate or leaving it. If it is past the gate
afterwards, it has to be the first one. -/
theorem place {s : Calls} (h : Gated s) {call : Nat} {stage : Stage}
    (same : stage.isAtGate = (s.stage call).isAtGate)
    (first : stage.holdsGate = true → s.gate.head? = some call) : Gated (s.place call stage) where
  mem_iff := by
    refine place_cases (P := fun other there => other ∈ s.gate ↔ there.isAtGate = true) ?_ ?_
    · rw [same]
      exact h.mem_iff call
    · exact fun other _ => h.mem_iff other
  nodup := h.nodup
  first :=
    place_cases (P := fun other there => there.holdsGate = true → s.gate.head? = some other) first
      fun other _ => h.first other

/-- A call comes to the end of the line. -/
theorem queue {s : Calls} (h : Gated s) {call seen : Nat}
    (away : (s.stage call).isAtGate = false) :
    Gated ({ s with gate := s.gate ++ [call] }.place call (.waiting seen)) where
  mem_iff := by
    refine place_cases
      (P := fun other there => other ∈ s.gate ++ [call] ↔ there.isAtGate = true) ?_ ?_
    · simp [Stage.isAtGate]
    · intro other ne
      simp [← h.mem_iff other, ne]
  nodup := by
    have new : call ∉ s.gate := by simp [h.mem_iff, away]
    exact List.nodup_append.mpr ⟨h.nodup, List.nodup_singleton call,
      fun a ha b hb => by
        rw [List.mem_singleton.mp hb]
        exact fun eq => new (eq ▸ ha)⟩
  first := by
    refine place_cases (s := { s with gate := s.gate ++ [call] })
      (P := fun other there => there.holdsGate = true → (s.gate ++ [call]).head? = some other)
      nofun ?_
    intro other _ holds
    -- who comes to the end of a line with somebody past the gate does not change its head
    rw [List.head?_append, h.first other holds]
    rfl

/-- A call leaves the line, wherever it stands in it. -/
theorem leave {s : Calls} (h : Gated s) {call : Nat} {stage : Stage}
    (away : stage.isAtGate = false) : Gated ((s.leave call).place call stage) where
  mem_iff := by
    refine place_cases (s := s.leave call)
      (P := fun other there => other ∈ s.gate.filter (· ≠ call) ↔ there.isAtGate = true) ?_ ?_
    · simp [away]
    · intro other ne
      show _ ↔ (s.stage other).isAtGate = true
      rw [List.mem_filter, h.mem_iff other]
      simp [ne]
  nodup := h.nodup.filter _
  first := by
    refine place_cases (s := s.leave call)
      (P := fun other there =>
        there.holdsGate = true → (s.gate.filter (· ≠ call)).head? = some other) ?_ ?_
    · intro holds
      rw [Stage.isAtGate_of_holdsGate holds] at away
      cases away
    · intro other ne holds
      -- the one past the gate stays first, since it is not the one that leaves
      obtain ⟨rest, line⟩ := List.head?_eq_some_iff.mp (h.first other holds)
      rw [line, List.filter_cons_of_pos (by simpa using ne)]
      rfl

end Gated

/-- Every step preserves the order at the gate. -/
theorem gated_step {s t : Calls} {action : Action} (step : Step settings s action t)
    (h : Gated s) : Gated t := by
  have atGate {call : Nat} {stage : Stage} (eq : s.stage call = stage) :
      (s.stage call).isAtGate = stage.isAtGate := by rw [eq]
  have first {call : Nat} {stage : Stage} (eq : s.stage call = stage)
      (holds : stage.holdsGate = true) : s.gate.head? = some call := h.first call (eq ▸ holds)
  have recorded (event : Event) : Gated (s.record event) := h.congr rfl rfl
  have remembered (memory : Memory) : Gated { s with memory } := h.congr rfl rfl
  -- steps away from the gate, the way to it, steps past it, and the ways out
  cases step with
  | begin stage => exact h.place (atGate stage).symm nofun
  | serve stage _ => exact h.place (atGate stage).symm nofun
  | miss stage _ => exact h.place (atGate stage).symm nofun
  | count stage => exact h.place (atGate stage).symm nofun
  | queue stage => exact h.queue (atGate stage)
  | enter stage head => exact h.place (atGate stage).symm fun _ => head
  | tell stage _ => exact h.place (atGate stage).symm fun _ => first stage rfl
  | resolve stage _ => exact h.place (atGate stage).symm fun _ => first stage rfl
  | ask stage => exact (recorded _).place (atGate stage).symm fun _ => first stage rfl
  | grant stage _ => exact (recorded _).place (atGate stage).symm fun _ => first stage rfl
  | refuse stage _ => exact (recorded _).place (atGate stage).symm fun _ => first stage rfl
  | exchange stage => exact (recorded _).place (atGate stage).symm fun _ => first stage rfl
  | settle stage => exact (recorded _).place (atGate stage).symm fun _ => first stage rfl
  | commit stage => exact (remembered _).place (atGate stage).symm fun _ => first stage rfl
  | leave _ => exact h.leave rfl
  | drop _ => exact h.leave rfl
  | invalidate => exact remembered _
  | pass _ => exact h.congr rfl rfl

theorem Reachable.gated {s : Calls} (h : Reachable settings s) : Gated s :=
  h.induction Gated.initial gated_step

/-- Who stands at the gate behind the one past it waits to be admitted. -/
theorem Gated.waits_of_ne {s : Calls} (h : Gated s) {owner call : Nat}
    (holds : (s.stage owner).holdsGate = true) (mem : call ∈ s.gate) (ne : call ≠ owner) :
    ∃ seen, s.stage call = .waiting seen := by
  have atGate := (h.mem_iff call).mp mem
  cases stage : s.stage call with
  | waiting seen => exact ⟨seen, rfl⟩
  | absent | arrived | missed | counted _ | finished _ | dropped =>
    rw [stage] at atGate
    cases atGate
  | _ => exact absurd (h.eq_of_holdsGate (by rw [stage]; rfl) holds) ne

end Calls

end LoanGateway
