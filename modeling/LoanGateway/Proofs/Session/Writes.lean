import LoanGateway.Proofs.Session.Steps

/-!
# What is cached and what calls are given

Two steps write to the cache: the end of a handshake that gave a token stores it, and an invalidation
empties the cache. A token that a call is given is in the cache at that time, and it stays with the
call.

- `Stage.given?`: the token that a call was given.
- `Calls.write?`, `Calls.writes`: what steps and runs write to the cache.
- `Calls.entry_step`: the cache holds what was written last.
- `Calls.given?_step`, `Calls.entry_of_given?`: the tokens of calls.
-/

namespace LoanGateway

/-- The token that a call was given. -/
def Stage.given? : Stage → Option String
  | leaving (.ok token) | finished (.ok token) => some token
  | _ => none

theorem Stage.given?_of_isPending {stage : Stage} (h : stage.isPending = true) :
    stage.given? = none := by
  cases stage <;> simp_all [isPending, given?]

/-- Who is told a token is told the one in the cache. -/
theorem Memory.valid?_of_known? {m : Memory} {now : Instant} {seen : Nat} {token : String}
    (h : m.known? now seen = some (.ok token)) : m.cache.valid? now = some token := by
  unfold known? at h
  split at h
  · cases h
    assumption
  · split at h
    · cases h
    · cases failure : m.failure <;> (rw [failure] at h; cases h)

namespace Calls

variable {settings : IdentitySettings} {s t : Calls} {action : Action} {call : Nat}
  {token : String}

/-! ## What is written to the cache -/

/-- What an action writes to the cache. -/
def write? (s : Calls) : Action → Option (Option CachedToken)
  | .proceed call => (s.stage call).bought?.map fun token => some ⟨token, s.now⟩
  | .invalidate => some none
  | .begin _ | .answer _ _ | .drop _ | .pass _ => none

/-- Every step leaves the cache alone or writes to it what `write?` says. -/
theorem entry_step (step : Step settings s action t) :
    t.memory.cache.entry = (s.write? action).getD s.memory.cache.entry := by
  cases step with
  | @commit _ outcome stage =>
    rw [write?, stage]
    cases outcome <;> rfl
  | serve stage _ => rw [write?, stage]; rfl
  | miss stage _ => rw [write?, stage]; rfl
  | count stage => rw [write?, stage]; rfl
  | queue stage => rw [write?, stage]; rfl
  | enter stage _ => rw [write?, stage]; rfl
  | tell stage _ => rw [write?, stage]; rfl
  | resolve stage _ => rw [write?, stage]; rfl
  | ask stage => rw [write?, stage]; rfl
  | exchange stage => rw [write?, stage]; rfl
  | leave stage => rw [write?, stage]; rfl
  -- the others are no steps of a call on its own
  | _ => rfl

/-- What is written to the cache in the course of some actions. -/
def writes (settings : IdentitySettings) (s : Calls) : List Action → List (Option CachedToken)
  | [] => []
  | action :: rest =>
    (s.write? action).toList ++
      match s.step? settings action with
      | some t => t.writes settings rest
      | none => []

/-- What an action writes comes before what is written after it. -/
theorem writes_cons {rest : List Action} (step : Step settings s action t) :
    s.writes settings (action :: rest) = (s.write? action).toList ++ t.writes settings rest := by
  rw [writes, step?_of_step step]

/-- What is written in the course of a run and of one action more. -/
theorem writes_snoc {actions : List Action} {u : Calls} (run : s.run? settings actions = some t)
    (step : Step settings t action u) :
    s.writes settings (actions ++ [action]) =
      s.writes settings actions ++ (t.write? action).toList := by
  induction actions generalizing s with
  | nil =>
    cases run
    rw [List.nil_append, writes_cons step]
    simp [writes]
  | cons first rest ih =>
    obtain ⟨v, begins, run⟩ := run?_cons_eq_some_iff.mp run
    rw [List.cons_append, writes_cons begins, writes_cons begins, ih run, List.append_assoc]

/-- An invalidation is written to the cache. -/
theorem not_mem_of_writes_eq_nil {actions : List Action} (run : s.run? settings actions = some t)
    (unwritten : s.writes settings actions = []) : .invalidate ∉ actions := by
  induction actions generalizing s with
  | nil => exact List.not_mem_nil
  | cons first rest ih =>
    obtain ⟨v, begins, run⟩ := run?_cons_eq_some_iff.mp run
    rw [writes_cons begins] at unwritten
    obtain ⟨here, later⟩ := List.append_eq_nil_iff.mp unwritten
    intro mem
    rcases List.mem_cons.mp mem with rfl | mem
    · cases here
    · exact ih run later mem

/-! ## What calls are given -/

/-- A call that moves on keeps what it was given. -/
theorem given?_place {other : Nat} {stage : Stage} (h : (s.stage other).given? = some token)
    (keeps : (s.stage call).given? = some token → stage.given? = some token) :
    ((s.place call stage).stage other).given? = some token :=
  place_cases
    (P := fun other there =>
      (s.stage other).given? = some token → there.given? = some token)
    keeps (fun _ _ given => given) other h

/-- A call that is newly given a token is the one that moves on. -/
theorem given?_of_place {other : Nat} {stage : Stage} (before : (s.stage other).given? = none)
    (after : ((s.place call stage).stage other).given? = some token) :
    other = call ∧ stage.given? = some token := by
  by_cases same : other = call
  · rw [same, stage_place_self] at after
    exact ⟨same, after⟩
  · rw [stage_place_of_ne _ _ _ _ same, before] at after
    cases after

/-- What a call was given stays with it. -/
theorem given?_step (step : Step settings s action t) (h : (s.stage call).given? = some token) :
    (t.stage call).given? = some token := by
  have never {other : Nat} {stage new : Stage} (eq : s.stage other = stage)
      (nothing : stage.given? = none) (given : (s.stage other).given? = some token) :
      new.given? = some token := by
    rw [eq, nothing] at given
    cases given
  cases step with
  | begin stage => exact given?_place h (never stage rfl)
  | serve stage _ => exact given?_place h (never stage rfl)
  | miss stage _ => exact given?_place h (never stage rfl)
  | count stage => exact given?_place h (never stage rfl)
  | queue stage => exact given?_place (s := { s with gate := _ }) h (never stage rfl)
  | enter stage _ => exact given?_place h (never stage rfl)
  | tell stage _ => exact given?_place h (never stage rfl)
  | resolve stage _ => exact given?_place h (never stage rfl)
  | ask stage => exact given?_place (s := s.record _) h (never stage rfl)
  | grant stage _ => exact given?_place (s := s.record _) h (never stage rfl)
  | refuse stage _ => exact given?_place (s := s.record _) h (never stage rfl)
  | exchange stage => exact given?_place (s := s.record _) h (never stage rfl)
  | settle stage => exact given?_place (s := s.record _) h (never stage rfl)
  | commit stage => exact given?_place (s := { s with memory := _ }) h (never stage rfl)
  | @leave other outcome stage =>
    refine given?_place (s := s.leave other) h fun given => ?_
    rw [← given]
    show _ = (s.stage other).given?
    rw [stage]
    cases outcome <;> rfl
  | @drop other pending =>
    have nothing := Stage.given?_of_isPending pending
    exact given?_place (s := s.leave other) h (never rfl nothing)
  | invalidate => exact h
  | pass _ => exact h

/-- A token that a call is given is in the cache at that time. -/
theorem entry_of_given? (step : Step settings s action t) (before : (s.stage call).given? = none)
    (after : (t.stage call).given? = some token) :
    ∃ fetched, t.memory.cache.entry = some ⟨token, fetched⟩ := by
  have never {other : Nat} {stage : Stage}
      (after : ((s.place other stage).stage call).given? = some token)
      (nothing : stage.given? = none) : False := by
    have new := (given?_of_place before after).2
    rw [nothing] at new
    cases new
  cases step with
  | begin _ => exact (never after rfl).elim
  | serve _ fresh =>
    cases (given?_of_place before after).2
    exact TokenCache.entry_of_valid? fresh
  | miss _ _ => exact (never after rfl).elim
  | count _ => exact (never after rfl).elim
  | queue _ => exact (never after rfl).elim
  | enter _ _ => exact (never after rfl).elim
  | @tell _ _ outcome _ known =>
    have new := (given?_of_place before after).2
    cases outcome with
    | error e => cases new
    | ok told =>
      cases new
      exact TokenCache.entry_of_valid? (Memory.valid?_of_known? known)
  | resolve _ _ => exact (never after rfl).elim
  | ask _ => exact (never after rfl).elim
  | grant _ _ => exact (never after rfl).elim
  | refuse _ _ => exact (never after rfl).elim
  | exchange _ => exact (never after rfl).elim
  | settle _ => exact (never after rfl).elim
  | @commit _ outcome _ =>
    have new := (given?_of_place (s := { s with memory := _ }) before after).2
    cases outcome with
    | error e => cases new
    | ok bought =>
      cases new
      exact ⟨s.now, rfl⟩
  -- a call that leaves was given its token before
  | @leave other outcome stage =>
    obtain ⟨rfl, new⟩ := given?_of_place (s := s.leave other) before after
    rw [stage] at before
    cases outcome with
    | error e => cases new
    | ok told => cases before
  | drop _ => exact (never after rfl).elim
  | invalidate => exact nomatch before.symm.trans after
  | pass _ => exact nomatch before.symm.trans after

end Calls

end LoanGateway
