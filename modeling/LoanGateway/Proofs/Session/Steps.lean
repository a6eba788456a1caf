import LoanGateway.Session.Calls

/-!
# The steps of simultaneous calls, one by one

`Calls.step?` says what an action does. Here each thing that can happen is a constructor, so that an
invariant is shown by one case for each, and nothing else has to unfold the function.

- `Calls.Step`: the steps; `Calls.step?_eq_some_iff`: they are those of `Calls.step?`.
- `Calls.run_induction`: what every step of a run preserves, the run preserves.
- `Calls.Reachable`: the states that calls can come to from nothing.
- `Calls.Path`: from one state to another by actions of a kind.
- `Sample`: settings and answers for concrete runs.
-/

namespace LoanGateway

namespace Stage

/-- Whether a call is over or was given up. -/
def isOver : Stage → Bool
  | finished _ | dropped => true
  | _ => false

/-- The token of a handshake that is over and not committed. -/
def bought? : Stage → Option String
  | settled (.ok token) => some token
  | _ => none

theorem bought?_eq_some_iff {stage : Stage} {token : String} :
    stage.bought? = some token ↔ stage = .settled (.ok token) := by
  constructor
  · intro h
    unfold bought? at h
    split at h
    · cases h
      rfl
    · cases h
  · rintro rfl
    rfl

end Stage

namespace Calls

variable {settings : IdentitySettings}

/-- What an action can do to a state. -/
inductive Step (settings : IdentitySettings) (s : Calls) : Action → Calls → Prop
  /-- A call begins. -/
  | begin {call : Nat} (stage : s.stage call = .absent) :
      Step settings s (.begin call) (s.place call .arrived)
  /-- A call is served from the memory without going to the gate. -/
  | serve {call : Nat} {token : String} (stage : s.stage call = .arrived)
      (fresh : s.memory.cache.valid? s.now = some token) :
      Step settings s (.proceed call) (s.place call (.finished (.ok token)))
  /-- A call finds no fresh token. -/
  | miss {call : Nat} (stage : s.stage call = .arrived)
      (none_fresh : s.memory.cache.valid? s.now = none) :
      Step settings s (.proceed call) (s.place call .missed)
  /-- A call counts the handshakes that are over. -/
  | count {call : Nat} (stage : s.stage call = .missed) :
      Step settings s (.proceed call) (s.place call (.counted s.memory.completed))
  /-- A call goes to the gate. -/
  | queue {call seen : Nat} (stage : s.stage call = .counted seen) :
      Step settings s (.proceed call)
        ({ s with gate := s.gate ++ [call] }.place call (.waiting seen))
  /-- The first call at the gate is admitted. -/
  | enter {call seen : Nat} (stage : s.stage call = .waiting seen)
      (first : s.gate.head? = some call) :
      Step settings s (.proceed call) (s.place call (.admitted seen))
  /-- An admitted call is told an outcome. -/
  | tell {call seen : Nat} {outcome : Except SignInError String}
      (stage : s.stage call = .admitted seen) (known : s.memory.known? s.now seen = some outcome) :
      Step settings s (.proceed call) (s.place call (.leaving outcome))
  /-- Nothing is known to an admitted call. -/
  | resolve {call seen : Nat} (stage : s.stage call = .admitted seen)
      (unknown : s.memory.known? s.now seen = none) :
      Step settings s (.proceed call) (s.place call .resolved)
  /-- A call asks for a session. -/
  | ask {call : Nat} (stage : s.stage call = .resolved) :
      Step settings s (.proceed call)
        ((s.record (.sent call (Handshake.sessionRequest settings))).place call .opening)
  /-- A call gets a session. -/
  | grant {call : Nat} {reply : Reply} {session : String} (stage : s.stage call = .opening)
      (granted : Handshake.sessionOf reply = .ok session) :
      Step settings s (.answer call reply)
        ((s.record (.answered call reply)).place call (.opened session))
  /-- A call is refused a session. -/
  | refuse {call : Nat} {reply : Reply} {e : SignInError} (stage : s.stage call = .opening)
      (refused : Handshake.sessionOf reply = .error e) :
      Step settings s (.answer call reply)
        ((s.record (.answered call reply)).place call (.settled (.error e)))
  /-- A call asks for a token. -/
  | exchange {call : Nat} {session : String} (stage : s.stage call = .opened session) :
      Step settings s (.proceed call)
        ((s.record (.sent call (Handshake.tokenRequest settings session))).place call .exchanging)
  /-- A call gets the answer that ends its handshake. -/
  | settle {call : Nat} {reply : Reply} (stage : s.stage call = .exchanging) :
      Step settings s (.answer call reply)
        ((s.record (.answered call reply)).place call (.settled (Handshake.tokenOf reply)))
  /-- A call commits the outcome of its handshake. -/
  | commit {call : Nat} {outcome : Except SignInError String}
      (stage : s.stage call = .settled outcome) :
      Step settings s (.proceed call)
        ({ s with memory := s.memory.commit s.now outcome }.place call (.leaving outcome))
  /-- A call gives the gate away and is over. -/
  | leave {call : Nat} {outcome : Except SignInError String}
      (stage : s.stage call = .leaving outcome) :
      Step settings s (.proceed call) ((s.leave call).place call (.finished outcome))
  /-- A call is given up. -/
  | drop {call : Nat} (pending : (s.stage call).isPending = true) :
      Step settings s (.drop call) ((s.leave call).place call .dropped)
  | invalidate : Step settings s .invalidate { s with memory := s.memory.invalidate }
  | pass (time : Duration) : Step settings s (.pass time) { s with now := s.now.after time }

/-- A step of a call on its own is one of the constructors. -/
theorem step_of_proceed? {s t : Calls} {call : Nat} (h : s.proceed? settings call = some t) :
    Step settings s (.proceed call) t := by
  unfold proceed? at h
  split at h
  case h_1 stage =>
    split at h
    · cases h
      exact .serve stage ‹_›
    · cases h
      exact .miss stage ‹_›
  case h_2 stage =>
    cases h
    exact .count stage
  case h_3 stage =>
    cases h
    exact .queue stage
  case h_4 stage =>
    split at h
    · cases h
      exact .enter stage ‹_›
    · cases h
  case h_5 stage =>
    split at h
    · cases h
      exact .tell stage ‹_›
    · cases h
      exact .resolve stage ‹_›
  case h_6 stage =>
    cases h
    exact .ask stage
  case h_7 stage =>
    cases h
    exact .exchange stage
  case h_8 stage =>
    cases h
    exact .commit stage
  case h_9 stage =>
    cases h
    exact .leave stage
  all_goals cases h

/-- An answer does what one of the constructors says. -/
theorem step_of_answer? {s t : Calls} {call : Nat} {reply : Reply}
    (h : s.answer? call reply = some t) : Step settings s (.answer call reply) t := by
  unfold answer? at h
  split at h
  case h_1 stage =>
    split at h
    · cases h
      exact .grant stage ‹_›
    · cases h
      exact .refuse stage ‹_›
  case h_2 stage =>
    cases h
    exact .settle stage
  case h_3 => cases h

theorem step_of_step? {s t : Calls} {action : Action} (h : s.step? settings action = some t) :
    Step settings s action t := by
  cases action with
  | begin call =>
    simp only [step?, begin?] at h
    split at h
    · cases h
      exact .begin ‹_›
    · cases h
  | proceed call => exact step_of_proceed? h
  | answer call reply => exact step_of_answer? h
  | drop call =>
    simp only [step?, drop?] at h
    split at h
    · cases h
      exact .drop ‹_›
    · cases h
  | invalidate =>
    cases h
    exact .invalidate
  | pass time =>
    cases h
    exact .pass time

theorem step?_of_step {s t : Calls} {action : Action} (h : Step settings s action t) :
    s.step? settings action = some t := by
  cases h with
  | begin stage => simp [step?, begin?, stage]
  | serve stage fresh => simp [step?, proceed?, stage, fresh]
  | miss stage none_fresh => simp [step?, proceed?, stage, none_fresh]
  | count stage => simp [step?, proceed?, stage]
  | queue stage => simp [step?, proceed?, stage]
  | enter stage first => simp [step?, proceed?, stage, first]
  | tell stage known => simp [step?, proceed?, stage, known]
  | resolve stage unknown => simp [step?, proceed?, stage, unknown]
  | ask stage => simp [step?, proceed?, stage]
  | grant stage granted => simp [step?, answer?, stage, granted]
  | refuse stage refused => simp [step?, answer?, stage, refused]
  | exchange stage => simp [step?, proceed?, stage]
  | settle stage => simp [step?, answer?, stage]
  | commit stage => simp [step?, proceed?, stage]
  | leave stage => simp [step?, proceed?, stage]
  | drop pending => simp [step?, drop?, pending]
  | invalidate => rfl
  | pass time => rfl

/-- The constructors are exactly what `step?` can do. -/
theorem step?_eq_some_iff {s t : Calls} {action : Action} :
    s.step? settings action = some t ↔ Step settings s action t :=
  ⟨step_of_step?, step?_of_step⟩

/-- An action has one result. -/
theorem step_unique {s t u : Calls} {action : Action} (h : Step settings s action t)
    (k : Step settings s action u) : t = u :=
  Option.some.inj ((step?_of_step h).symm.trans (step?_of_step k))

/-! ## Runs -/

/-- A run of one action and the rest. -/
theorem run?_cons_eq_some_iff {s u : Calls} {action : Action} {rest : List Action} :
    s.run? settings (action :: rest) = some u ↔
      ∃ t, Step settings s action t ∧ t.run? settings rest = some u := by
  simp only [run?, Option.bind_eq_some_iff, step?_eq_some_iff]

/-- A run in two parts. -/
theorem run?_append_eq_some_iff {s u : Calls} {as bs : List Action} :
    s.run? settings (as ++ bs) = some u ↔
      ∃ t, s.run? settings as = some t ∧ t.run? settings bs = some u := by
  rw [run?_append, Option.bind_eq_some_iff]

/-- What every step of a run preserves, the run preserves. -/
theorem run_induction {P : Calls → Prop} {actions : List Action} {s t : Calls}
    (step : ∀ {s action t}, action ∈ actions → Step settings s action t → P s → P t)
    (run : s.run? settings actions = some t) (start : P s) : P t := by
  induction actions generalizing s with
  | nil =>
    cases run
    exact start
  | cons action rest ih =>
    obtain ⟨u, first, run⟩ := run?_cons_eq_some_iff.mp run
    have here := step (List.mem_cons_self ..) first start
    exact ih (fun later => step (List.mem_cons_of_mem _ later)) run here

/-- The states that calls can come to, beginning with none. -/
def Reachable (settings : IdentitySettings) (s : Calls) : Prop :=
  ∃ actions, (initial settings).run? settings actions = some s

/-- What holds in the beginning and is preserved by every step holds in every reachable state. -/
theorem Reachable.induction {P : Calls → Prop} {s : Calls} (h : Reachable settings s)
    (start : P (initial settings))
    (step : ∀ {s action t}, Step settings s action t → P s → P t) : P s := by
  obtain ⟨actions, run⟩ := h
  exact run_induction (fun _ => step) run start

/-- A run from a reachable state ends in one. -/
theorem Reachable.run {s t : Calls} {actions : List Action} (h : Reachable settings s)
    (run : s.run? settings actions = some t) : Reachable settings t := by
  obtain ⟨before, reached⟩ := h
  exact ⟨before ++ actions, run?_append_eq_some_iff.mpr ⟨s, reached, run⟩⟩

theorem Reachable.step {s t : Calls} {action : Action} (h : Reachable settings s)
    (step : Step settings s action t) : Reachable settings t := by
  have run : s.run? settings [action] = some t := run?_cons_eq_some_iff.mpr ⟨t, step, rfl⟩
  exact h.run run

/-! ## Actions of a kind -/

/-- From one state to another by actions of a kind. -/
def Path (settings : IdentitySettings) (kind : Action → Prop) (s t : Calls) : Prop :=
  ∃ actions, (∀ action ∈ actions, kind action) ∧ s.run? settings actions = some t

namespace Path

variable {kind : Action → Prop} {s t u : Calls}

theorem trans (h : Path settings kind s t) (k : Path settings kind t u) :
    Path settings kind s u := by
  obtain ⟨first, firsts, run⟩ := h
  obtain ⟨second, seconds, more⟩ := k
  refine ⟨first ++ second, fun action mem => ?_, run?_append_eq_some_iff.mpr ⟨t, run, more⟩⟩
  rcases List.mem_append.mp mem with early | late
  · exact firsts action early
  · exact seconds action late

theorem of_step {action : Action} (step : Step settings s action t) (is : kind action) :
    Path settings kind s t := by
  refine ⟨[action], fun other mem => ?_, run?_cons_eq_some_iff.mpr ⟨t, step, rfl⟩⟩
  rw [List.mem_singleton.mp mem]
  exact is

end Path

end Calls

/-! ## A sample -/

namespace Sample

/-- Settings with a time to live of sixty nanoseconds. -/
def settings : IdentitySettings where
  baseUrl :=
    { scheme := "https".toList
      authority := some ⟨[], [], some (.domain "idp.example.com".toList), none⟩
      path := .rooted ["auth".toList]
      query := none
      fragment := none }
  loginName := "acbs-user"
  password := "hunter2"
  apiKey := "api-key"
  apiKeyHeader := "apiKey"
  clientId := "gateway"
  tokenTtl := ⟨60⟩
  timeout := ⟨30⟩
  maxRedirects := 10
  maxRetries := 0
  retryDelay := ⟨0⟩

/-- An answer that grants a session. -/
def granted : Reply :=
  .ok ((Response.new 201 "").withHeader "set-cookie" "Cookie1=abc; JSESSIONID=42; Path=/x")

/-- An answer that holds a token. -/
def sold (token : String) : Reply := .ok (.new 200 ("\x7b\"id_token\": \"" ++ token ++ "\"\x7d"))

/-- Some steps of a call in a row. -/
def steps (call count : Nat) : List Action := List.replicate count (.proceed call)

end Sample

end LoanGateway
