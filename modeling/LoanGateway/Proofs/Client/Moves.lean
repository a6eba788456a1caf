import LoanGateway.Client.Errands
import LoanGateway.Proofs.Session.Steps

/-!
# The moves of simultaneous operations, one by one

What `Calls.Step` is for calls, `Errands.Step` is for operations: each thing that can happen is a
constructor, and what happens to the calls meanwhile is a step of theirs.

- `Errands.Step`: the moves; `Errands.step?_eq_some_iff`: they are those of `Errands.step?`.
- `Errands.Reachable`: the states that operations can come to from nothing.
- `Errands.exists_first`: what does not hold in the beginning of a run and holds in its end begins
  to hold with one of the moves.
-/

namespace LoanGateway

namespace Errands

variable {α : Type} {backend : BackendSettings} {identity : IdentitySettings}

/-- What a move can do to a state. -/
inductive Step (backend : BackendSettings) (identity : IdentitySettings) (s : Errands α) :
    Move α → Errands α → Prop
  /-- An operation begins with its call. -/
  | start {number : Nat} {operation : Operation α} {errand : Errand α} {calls : Calls}
      (absent : s.progress number = .absent)
      (errands : operation.errand? backend = some (.ok errand))
      (begins : Calls.Step identity s.calls (.begin number) calls) :
      Step backend identity s (.start number operation)
        ({ s with calls }.place number (.asking errand))
  /-- An operation has nothing to send. -/
  | skip {number : Nat} {operation : Operation α} {e : GatewayError}
      (absent : s.progress number = .absent)
      (unwritable : operation.errand? backend = some (.error e)) :
      Step backend identity s (.start number operation) (s.place number (.ended (.error e)))
  /-- Something happens to the calls. -/
  | session {action : Action} {calls : Calls} (step : Calls.Step identity s.calls action calls)
      (others : ∀ call, action = .drop call → (s.progress call).isAbsent = true) :
      Step backend identity s (.session action) { s with calls }
  /-- An operation sends its request with the token of its call. -/
  | send {number : Nat} {errand : Errand α} {token : String}
      (asking : s.progress number = .asking errand)
      (ends : s.calls.outcome? number = some (.ok token)) :
      Step backend identity s (.send number)
        ((s.record (.sent number (errand.request.withBearer token))).place number
          (.sent errand token))
  /-- An operation fails with its call. -/
  | fail {number : Nat} {errand : Errand α} {e : SignInError}
      (asking : s.progress number = .asking errand)
      (ends : s.calls.outcome? number = some (.error e)) :
      Step backend identity s (.send number)
        (s.place number (.ended (.error (.authentication e))))
  /-- The backend answers. -/
  | answer {number : Nat} {errand : Errand α} {token : String} {reply : Reply}
      (sent : s.progress number = .sent errand token) :
      Step backend identity s (.answer number reply)
        ((s.record (.answered number reply)).place number (.answered errand token reply))
  /-- An operation heeds its answer and is over. -/
  | conclude {number : Nat} {errand : Errand α} {token : String} {reply : Reply}
      (answered : s.progress number = .answered errand token reply) :
      Step backend identity s (.conclude number)
        ((s.heed reply).place number (.ended (errand.finish reply)))
  /-- An operation is given up together with its call. -/
  | dropCall {number : Nat} {errand : Errand α} {calls : Calls}
      (asking : s.progress number = .asking errand)
      (drops : Calls.Step identity s.calls (.drop number) calls) :
      Step backend identity s (.drop number) ({ s with calls }.place number .dropped)
  /-- An operation is given up while its request is under way. -/
  | dropRequest {number : Nat} {errand : Errand α} {token : String}
      (sent : s.progress number = .sent errand token) :
      Step backend identity s (.drop number) (s.place number .dropped)

theorem step_of_session? {s t : Errands α} {action : Action}
    (h : s.session? identity action = some t) : Step backend identity s (.session action) t := by
  unfold session? at h
  split at h
  · split at h
    · obtain ⟨calls, drops, rfl⟩ := Option.map_eq_some_iff.mp h
      refine .session (Calls.step_of_step? drops) ?_
      rintro _ ⟨⟩
      assumption
    · cases h
  · rename_i kept
    obtain ⟨calls, step, rfl⟩ := Option.map_eq_some_iff.mp h
    exact .session (Calls.step_of_step? step) fun call eq => absurd eq (kept call)

theorem step_of_step? {s t : Errands α} {move : Move α}
    (h : s.step? backend identity move = some t) : Step backend identity s move t := by
  cases move with
  | start number operation =>
    simp only [step?, start?] at h
    split at h
    · obtain ⟨calls, begins, rfl⟩ := Option.map_eq_some_iff.mp h
      have happens : s.calls.step? identity (.begin number) = some calls := begins
      exact .start ‹_› ‹_› (Calls.step_of_step? happens)
    · cases h
      exact .skip ‹_› ‹_›
    · cases h
  | session action => exact step_of_session? h
  | send number =>
    simp only [step?, send?] at h
    split at h
    · cases h
      exact .send ‹_› ‹_›
    · cases h
      exact .fail ‹_› ‹_›
    · cases h
  | answer number reply =>
    simp only [step?, answer?] at h
    split at h
    · cases h
      exact .answer ‹_›
    · cases h
  | conclude number =>
    simp only [step?, conclude?] at h
    split at h
    · cases h
      exact .conclude ‹_›
    · cases h
  | drop number =>
    simp only [step?, drop?] at h
    split at h
    · obtain ⟨calls, drops, rfl⟩ := Option.map_eq_some_iff.mp h
      have happens : s.calls.step? identity (.drop number) = some calls := drops
      exact .dropCall ‹_› (Calls.step_of_step? happens)
    · cases h
      exact .dropRequest ‹_›
    · cases h

theorem session?_of_step {s : Errands α} {action : Action} {calls : Calls}
    (step : Calls.Step identity s.calls action calls)
    (others : ∀ call, action = .drop call → (s.progress call).isAbsent = true) :
    s.session? identity action = some { s with calls } := by
  have happens := Calls.step?_of_step step
  unfold session?
  split
  · rename_i call
    rw [if_pos (others call rfl)]
    exact Option.map_eq_some_iff.mpr ⟨calls, happens, rfl⟩
  · exact Option.map_eq_some_iff.mpr ⟨calls, happens, rfl⟩

theorem step?_of_step {s t : Errands α} {move : Move α} (h : Step backend identity s move t) :
    s.step? backend identity move = some t := by
  cases h with
  | start absent errands begins =>
    have begun := Calls.step?_of_step begins
    simp only [Calls.step?] at begun
    simp [step?, start?, absent, errands, begun]
  | skip absent unwritable => simp [step?, start?, absent, unwritable]
  | session step others => exact session?_of_step step others
  | send asking ends => simp [step?, send?, asking, ends]
  | fail asking ends => simp [step?, send?, asking, ends]
  | answer sent => simp [step?, answer?, sent]
  | conclude answered => simp [step?, conclude?, answered]
  | dropCall asking drops =>
    have dropped := Calls.step?_of_step drops
    simp only [Calls.step?] at dropped
    simp [step?, drop?, asking, dropped]
  | dropRequest sent => simp [step?, drop?, sent]

/-- The constructors are exactly what `step?` can do. -/
theorem step?_eq_some_iff {s t : Errands α} {move : Move α} :
    s.step? backend identity move = some t ↔ Step backend identity s move t :=
  ⟨step_of_step?, step?_of_step⟩

/-! ## Runs -/

/-- A run of one move and the rest. -/
theorem run?_cons_eq_some_iff {s u : Errands α} {move : Move α} {rest : List (Move α)} :
    s.run? backend identity (move :: rest) = some u ↔
      ∃ t, Step backend identity s move t ∧ t.run? backend identity rest = some u := by
  simp only [run?, Option.bind_eq_some_iff, step?_eq_some_iff]

/-- What every move of a run preserves, the run preserves. -/
theorem run_induction {P : Errands α → Prop} {moves : List (Move α)} {s t : Errands α}
    (step : ∀ {s move t}, Step backend identity s move t → P s → P t)
    (run : s.run? backend identity moves = some t) (start : P s) : P t := by
  induction moves generalizing s with
  | nil =>
    cases run
    exact start
  | cons move rest ih =>
    obtain ⟨u, first, run⟩ := run?_cons_eq_some_iff.mp run
    exact ih run (step first start)

/-- What does not hold in the beginning and holds in the end begins to hold with a move. -/
theorem exists_first {P : Errands α → Prop} {moves : List (Move α)} {s u : Errands α}
    (run : s.run? backend identity moves = some u) (start : ¬ P s) (ends : P u) :
    ∃ before move after t v, moves = before ++ move :: after ∧
      s.run? backend identity before = some t ∧ ¬ P t ∧ Step backend identity t move v ∧ P v ∧
      v.run? backend identity after = some u := by
  induction moves generalizing s with
  | nil =>
    cases run
    exact absurd ends start
  | cons move rest ih =>
    obtain ⟨v, first, run⟩ := run?_cons_eq_some_iff.mp run
    by_cases here : P v
    · exact ⟨[], move, rest, s, v, rfl, rfl, start, first, here, run⟩
    · obtain ⟨before, later, after, t, w, rfl, reached, not_yet, step, now, goes⟩ := ih run here
      exact ⟨move :: before, later, after, t, w, rfl, run?_cons_eq_some_iff.mpr ⟨v, first, reached⟩,
        not_yet, step, now, goes⟩

end Errands

/-- Settings of a backend. -/
def Sample.backend : BackendSettings := ⟨settings.baseUrl, ⟨30⟩, 10⟩

end LoanGateway
