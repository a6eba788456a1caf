import LoanGateway.Proofs.Session.Gate

/-!
# The line at the gate moves on

The first call at the gate can always take a step unless it waits for the identity provider. When
whoever is first there is told an outcome, the line moves on by itself, and a call in it gets the
outcome after those before it.

- `Calls.Advances`: from one state to another by steps that calls take on their own.
- `Calls.ToBeTold`: a call at the gate that is told an outcome if it is the first there.
- `Calls.Telling`: states in which whoever is first is told an outcome.
- `Calls.Telling.ends_of_mem_gate`: meanwhile every call at the gate can go on to its end.
-/

namespace LoanGateway

namespace Calls

variable {settings : IdentitySettings}

/-- From one state to another by steps that calls take on their own. -/
def Advances (settings : IdentitySettings) (s t : Calls) : Prop :=
  Path settings (fun action => ∃ call, action = .proceed call) s t

theorem advances_of_step {s t : Calls} {call : Nat} (step : Step settings s (.proceed call) t) :
    Advances settings s t := .of_step step ⟨call, rfl⟩

/-- A call that is at the gate and is told the outcome when it gets on. -/
inductive ToBeTold (outcome : Except SignInError String) (s : Calls) (call : Nat) : Prop
  | waiting {seen : Nat} (stage : s.stage call = .waiting seen)
      (known : s.memory.known? s.now seen = some outcome)
  | admitted {seen : Nat} (stage : s.stage call = .admitted seen)
      (known : s.memory.known? s.now seen = some outcome)
  | leaving (stage : s.stage call = .leaving outcome)

/-- As long as a call stands at the gate, whoever is first there is told the outcome. -/
structure Telling (settings : IdentitySettings) (holds : Calls → Prop) (call : Nat)
    (outcome : Except SignInError String) : Prop where
  proceed : ∀ {s t : Calls} {mover : Nat}, holds s → Step settings s (.proceed mover) t → holds t
  first : ∀ {s : Calls} {head : Nat}, holds s → call ∈ s.gate → s.gate.head? = some head →
    ToBeTold outcome s head

namespace Telling

variable {holds : Calls → Prop} {call head : Nat} {outcome : Except SignInError String}
  {s : Calls}

/-- What comes of a state when the first call at the gate goes on to its end. -/
structure Passed (holds : Calls → Prop) (outcome : Except SignInError String) (s : Calls)
    (head : Nat) (t : Calls) : Prop where
  holds : holds t
  ended : t.stage head = .finished outcome
  gate : t.gate = s.gate.filter (· ≠ head)
  log : t.log = s.log

/-- A call that has its outcome leaves the gate with it. -/
theorem passes_of_leaving (telling : Telling settings holds call outcome) (h : holds s)
    (stage : s.stage head = .leaving outcome) :
    ∃ t, Advances settings s t ∧ Passed holds outcome s head t := by
  have step : Step settings s (.proceed head) _ := .leave stage
  exact ⟨_, advances_of_step step, telling.proceed h step, stage_place_self .., rfl, rfl⟩

/-- A step of a call that only moves it nearer to its end does not keep it from passing. -/
theorem passes_of_place {stage : Stage}
    (step : Step settings s (.proceed head) (s.place head stage))
    (rest : ∃ t, Advances settings (s.place head stage) t ∧
      Passed holds outcome (s.place head stage) head t) :
    ∃ t, Advances settings s t ∧ Passed holds outcome s head t := by
  obtain ⟨t, advances, passed⟩ := rest
  exact ⟨t, (advances_of_step step).trans advances, passed.holds, passed.ended, passed.gate,
    passed.log⟩

/-- An admitted call is told the outcome. -/
theorem passes_of_admitted (telling : Telling settings holds call outcome) (h : holds s)
    {seen : Nat} (stage : s.stage head = .admitted seen)
    (known : s.memory.known? s.now seen = some outcome) :
    ∃ t, Advances settings s t ∧ Passed holds outcome s head t := by
  have step : Step settings s (.proceed head) _ := .tell stage known
  exact passes_of_place step
    (telling.passes_of_leaving (telling.proceed h step) (stage_place_self ..))

/-- The first call at the gate is told the outcome and leaves. -/
theorem passes_gate (telling : Telling settings holds call outcome) (h : holds s)
    (mem : call ∈ s.gate) (first : s.gate.head? = some head) :
    ∃ t, Advances settings s t ∧ Passed holds outcome s head t := by
  cases telling.first h mem first with
  | waiting stage known =>
    have step : Step settings s (.proceed head) _ := .enter stage first
    exact passes_of_place step
      (telling.passes_of_admitted (telling.proceed h step) (stage_place_self ..) known)
  | admitted stage known => exact telling.passes_of_admitted h stage known
  | leaving stage => exact telling.passes_of_leaving h stage

/-- A call at the gate gets the outcome after all those before it, and nobody sends anything. -/
theorem ends_of_mem_gate (telling : Telling settings holds call outcome) (h : holds s)
    (mem : call ∈ s.gate) :
    ∃ t, Advances settings s t ∧ holds t ∧ t.stage call = .finished outcome ∧ t.log = s.log := by
  -- every call that passes makes the line shorter
  induction len : s.gate.length using Nat.strongRecOn generalizing s with
  | _ n ih =>
    obtain ⟨head, rest, line⟩ := List.exists_cons_of_ne_nil (List.ne_nil_of_mem mem)
    have first : s.gate.head? = some head := by rw [line, List.head?_cons]
    obtain ⟨t, advances, passed⟩ := telling.passes_gate h mem first
    rcases eq_or_ne call head with rfl | ne
    · exact ⟨t, advances, passed.holds, passed.ended, passed.log⟩
    · have still : call ∈ t.gate := by
        rw [passed.gate, List.mem_filter]
        exact ⟨mem, by simpa using ne⟩
      have shorter : t.gate.length < n := by
        have bound : (rest.filter (· ≠ head)).length ≤ rest.length := List.length_filter_le ..
        rw [passed.gate, ← len, line, List.filter_cons_of_neg (by simp), List.length_cons]
        omega
      obtain ⟨u, more, held, ended, log⟩ := ih _ shorter passed.holds still rfl
      exact ⟨u, advances.trans more, held, ended, log.trans passed.log⟩

end Telling

end Calls

end LoanGateway
