import LoanGateway.Proofs.Session.Line

/-!
# A token is used until it is too old

A handshake that ended well serves everybody: until its token is dropped or its time to live has
passed, nothing is sent to the identity provider, and each call that is under way or still to come
gets that token.

- `Calls.Serving`: the invariant of the time in which the token of a handshake serves.
- `Calls.Serving.step`, `Calls.Serving.run`: nothing but an invalidation and the clock ends it.
- `Calls.Serving.gets_token`: meanwhile every call can go on to its end, whoever is at the gate.
- `Calls.handshake_serves_until_expiry`: the main statement.
-/

namespace LoanGateway

/-- Whether a call has decided on a handshake that is not committed. -/
def Stage.isAuthenticating : Stage → Bool
  | .resolved | .opening | .opened _ | .exchanging | .settled _ => true
  | _ => false

theorem Stage.holdsGate_of_isAuthenticating {stage : Stage} (h : stage.isAuthenticating = true) :
    stage.holdsGate = true := by
  cases stage <;> simp_all [isAuthenticating, holdsGate]

/-- What a valid token is known to. -/
theorem Memory.known?_of_valid? {m : Memory} {now : Instant} {token : String} (seen : Nat)
    (valid : m.cache.valid? now = some token) : m.known? now seen = some (.ok token) := by
  rw [known?, valid]

namespace Calls

variable {settings : IdentitySettings}

/-! ## The clock and the time to live -/

/-- The clock never goes back. -/
theorem now_le_of_step {s t : Calls} {action : Action} (step : Step settings s action t) :
    s.now.nanos ≤ t.now.nanos := by
  cases step with
  | pass time => exact Nat.le_add_right ..
  | _ => exact Nat.le_refl _

theorem now_le_of_run {s t : Calls} {actions : List Action}
    (run : s.run? settings actions = some t) : s.now.nanos ≤ t.now.nanos :=
  run_induction (P := fun t => s.now.nanos ≤ t.now.nanos)
    (fun _ step here => Nat.le_trans here (now_le_of_step step)) run (Nat.le_refl _)

theorem ttl_step {s t : Calls} {action : Action} (step : Step settings s action t)
    (h : s.memory.cache.ttl = settings.tokenTtl) : t.memory.cache.ttl = settings.tokenTtl := by
  cases step with
  | @commit _ outcome _ => cases outcome <;> exact h
  | _ => exact h

/-- The time to live is that of the settings. -/
theorem Reachable.ttl {s : Calls} (h : Reachable settings s) :
    s.memory.cache.ttl = settings.tokenTtl :=
  h.induction (P := fun s => s.memory.cache.ttl = settings.tokenTtl) rfl ttl_step

/-! ## The time in which a token serves -/

/-- The token of a handshake that was committed in the state `s` serves. -/
structure Serving (s : Calls) (token : String) (t : Calls) : Prop where
  entry : t.memory.cache.entry = some ⟨token, s.now⟩
  later : s.now.nanos ≤ t.now.nanos
  young : t.now.nanos < s.now.nanos + t.memory.cache.ttl.nanos
  idle : ∀ call, (t.stage call).isAuthenticating = false
  log : t.log = s.log
  leaving : ∀ call outcome, t.stage call = .leaving outcome → outcome = .ok token
  finished : ∀ call outcome, t.stage call = .finished outcome →
    s.stage call = .finished outcome ∨ outcome = .ok token

namespace Serving

variable {s t u : Calls} {token : String}

theorem valid? (h : Serving s token t) : t.memory.cache.valid? t.now = some token := by
  have young := h.young
  have later := h.later
  exact TokenCache.valid?_of_entry h.entry (by omega)

theorem known? (h : Serving s token t) (seen : Nat) :
    t.memory.known? t.now seen = some (.ok token) := Memory.known?_of_valid? seen h.valid?

/-- A change that concerns neither the memory nor the clock nor the log. The call that moves on
has no handshake of its own to do, and its outcome is the token. -/
theorem place (h : Serving s token t) {gate : List Nat} {call : Nat} {stage : Stage}
    (idle : stage.isAuthenticating = false)
    (outcome : ∀ outcome, stage = .leaving outcome ∨ stage = .finished outcome →
      outcome = .ok token) :
    Serving s token ({ t with gate }.place call stage) where
  entry := h.entry
  later := h.later
  young := h.young
  log := h.log
  idle :=
    place_cases (P := fun _ there => there.isAuthenticating = false) idle fun other _ =>
      h.idle other
  leaving :=
    place_cases (P := fun _ there => ∀ result, there = .leaving result → result = .ok token)
      (fun result there => outcome result (.inl there)) fun other _ => h.leaving other
  finished :=
    place_cases
      (P := fun other there => ∀ result, there = .finished result →
        s.stage other = .finished result ∨ result = .ok token)
      (fun result there => .inr (outcome result (.inr there))) fun other _ => h.finished other

/-- As long as the token is young, only an invalidation ends its time. -/
theorem step {action : Action} (h : Serving s token t) (step : Step settings t action u)
    (kept : action ≠ .invalidate) (young : u.now.nanos < s.now.nanos + u.memory.cache.ttl.nanos) :
    Serving s token u := by
  have busy {call : Nat} {stage : Stage} (eq : t.stage call = stage)
      (authenticating : stage.isAuthenticating = true) : False := by
    have idle := h.idle call
    rw [eq, authenticating] at idle
    cases idle
  cases step with
  | begin _ => exact h.place rfl nofun
  | serve _ fresh =>
    cases h.valid?.symm.trans fresh
    exact h.place rfl fun _ eq => by rcases eq with eq | eq <;> cases eq; rfl
  | miss _ none_fresh => cases h.valid?.symm.trans none_fresh
  | count _ => exact h.place rfl nofun
  | queue _ => exact h.place rfl nofun
  | enter _ _ => exact h.place rfl nofun
  | tell _ known =>
    cases (h.known? _).symm.trans known
    exact h.place rfl fun _ eq => by rcases eq with eq | eq <;> cases eq; rfl
  | resolve _ unknown => cases (h.known? _).symm.trans unknown
  | ask stage => exact (busy stage rfl).elim
  | grant stage _ => exact (busy stage rfl).elim
  | refuse stage _ => exact (busy stage rfl).elim
  | exchange stage => exact (busy stage rfl).elim
  | settle stage => exact (busy stage rfl).elim
  | commit stage => exact (busy stage rfl).elim
  | leave stage =>
    have outcome := h.leaving _ _ stage
    exact h.place rfl fun _ eq => by rcases eq with eq | eq <;> cases eq; exact outcome
  | drop _ => exact h.place rfl nofun
  | invalidate => exact absurd rfl kept
  | pass time =>
    exact
      { entry := h.entry
        later := Nat.le_trans h.later (Nat.le_add_right ..)
        young, idle := h.idle, log := h.log, leaving := h.leaving, finished := h.finished }

/-- As long as the token is young, only an invalidation ends its time. -/
theorem run {actions : List Action} (h : Serving s token t) (reachable : Reachable settings t)
    (run : t.run? settings actions = some u) (kept : .invalidate ∉ actions)
    (young : u.now.nanos < s.now.nanos + settings.tokenTtl.nanos) : Serving s token u := by
  induction actions generalizing t with
  | nil =>
    cases run
    exact h
  | cons action rest ih =>
    obtain ⟨v, first, run⟩ := run?_cons_eq_some_iff.mp run
    have next := reachable.step first
    have early : v.now.nanos < s.now.nanos + v.memory.cache.ttl.nanos := by
      rw [next.ttl]
      exact Nat.lt_of_le_of_lt (now_le_of_run run) young
    have here := h.step first (fun eq => kept (eq ▸ List.mem_cons_self ..)) early
    exact ih here next run fun mem => kept (List.mem_cons_of_mem _ mem)

end Serving

/-! ## Calls get on by themselves -/

/-- Steps that calls take on their own do not move the clock. -/
theorem now_of_proceed {s t : Calls} {call : Nat} (step : Step settings s (.proceed call) t) :
    t.now = s.now := by
  cases step <;> rfl

namespace Serving

variable {s t u : Calls} {token : String}

theorem proceed {call : Nat} (h : Serving s token t) (reachable : Reachable settings t)
    (step : Step settings t (.proceed call) u) : Serving s token u := by
  refine h.step step nofun ?_
  rw [now_of_proceed step, (reachable.step step).ttl, ← reachable.ttl]
  exact h.young

/-- Whoever is first at the gate is told the token. -/
theorem toBeTold {call : Nat} (h : Serving s token t) (reachable : Reachable settings t)
    (first : t.gate.head? = some call) : ToBeTold (.ok token) t call := by
  have atGate : (t.stage call).isAtGate = true :=
    (reachable.gated.mem_iff call).mp (List.mem_of_head? first)
  have idle := h.idle call
  cases stage : t.stage call with
  | waiting seen => exact .waiting stage (h.known? seen)
  | admitted seen => exact .admitted stage (h.known? seen)
  | leaving outcome =>
    obtain rfl := h.leaving call outcome stage
    exact .leaving stage
  | resolved | opening | opened _ | exchanging | settled _ =>
    rw [stage] at idle
    cases idle
  | absent | arrived | missed | counted _ | finished _ | dropped =>
    rw [stage] at atGate
    cases atGate

theorem telling (call : Nat) :
    Telling settings (fun t => Serving s token t ∧ Reachable settings t) call (.ok token) where
  proceed h step := ⟨h.1.proceed h.2 step, h.2.step step⟩
  first h _ head := h.1.toBeTold h.2 head

/-- Who stands at the gate gets the token after all those before it. -/
theorem ends_of_mem_gate {call : Nat} (h : Serving s token t) (reachable : Reachable settings t)
    (mem : call ∈ t.gate) :
    ∃ u, Advances settings t u ∧ Serving s token u ∧ u.stage call = .finished (.ok token) := by
  obtain ⟨u, advances, ⟨serving, _⟩, ended, _⟩ :=
    (telling call).ends_of_mem_gate (And.intro h reachable) mem
  exact ⟨u, advances, serving, ended⟩

/-- A call that a step brings to the gate gets the token there. -/
theorem ends_of_counted {call seen : Nat} (h : Serving s token t)
    (reachable : Reachable settings t) (stage : t.stage call = .counted seen) :
    ∃ u, Advances settings t u ∧ Serving s token u ∧ u.stage call = .finished (.ok token) := by
  have step : Step settings t (.proceed call) _ := .queue stage
  have queued := h.proceed reachable step
  have mem : call ∈ t.gate ++ [call] := List.mem_append_right _ (List.mem_singleton_self _)
  obtain ⟨u, advances, done⟩ := queued.ends_of_mem_gate (reachable.step step) mem
  exact ⟨u, (advances_of_step step).trans advances, done⟩

/-- A call that has begun and is neither over nor given up goes on to its end with the token. -/
theorem gets_token {call : Nat} (h : Serving s token t) (reachable : Reachable settings t)
    (begun : t.stage call ≠ .absent) (going : (t.stage call).isOver = false) :
    ∃ u, Advances settings t u ∧ Serving s token u ∧ u.stage call = .finished (.ok token) := by
  cases stage : t.stage call with
  | absent => exact absurd stage begun
  | arrived =>
    have step : Step settings t (.proceed call) _ := .serve stage h.valid?
    exact ⟨_, advances_of_step step, h.proceed reachable step, stage_place_self ..⟩
  | missed =>
    have step : Step settings t (.proceed call) _ := .count stage
    obtain ⟨u, advances, done⟩ := (h.proceed reachable step).ends_of_counted
      (reachable.step step) (stage_place_self ..)
    exact ⟨u, (advances_of_step step).trans advances, done⟩
  | counted seen => exact h.ends_of_counted reachable stage
  | waiting _ | admitted _ | resolved | opening | opened _ | exchanging | settled _ | leaving _ =>
    refine h.ends_of_mem_gate reachable ((reachable.gated.mem_iff call).mpr ?_)
    rw [stage]
    rfl
  | finished _ | dropped =>
    rw [stage] at going
    cases going

/-- The time of a token begins when its handshake is committed. -/
theorem of_commit {call : Nat} (reachable : Reachable settings s)
    (settled : s.stage call = .settled (.ok token)) (commits : Step settings s (.proceed call) t)
    (lives : 0 < settings.tokenTtl.nanos) : Serving s token t := by
  have holds : (s.stage call).holdsGate = true := by
    rw [settled]
    rfl
  have alone {other : Nat} (ne : other ≠ call) : ¬ (s.stage other).holdsGate = true :=
    fun past => ne (reachable.gated.eq_of_holdsGate past holds)
  obtain rfl := step_unique commits (.commit settled)
  refine
    { entry := rfl
      later := Nat.le_refl _
      young := ?_
      idle := ?_
      log := rfl
      leaving := ?_
      finished := ?_ }
  · show s.now.nanos < s.now.nanos + s.memory.cache.ttl.nanos
    rw [reachable.ttl]
    omega
  · refine place_cases (P := fun _ there => there.isAuthenticating = false) rfl ?_
    intro other ne
    rw [Bool.eq_false_iff]
    exact fun authenticating => alone ne (Stage.holdsGate_of_isAuthenticating authenticating)
  · refine place_cases (P := fun _ there => ∀ outcome, there = .leaving outcome →
      outcome = .ok token) (by rintro _ ⟨⟩; rfl) ?_
    intro other ne outcome there
    have past : (s.stage other).holdsGate = true := by
      rw [there]
      rfl
    exact absurd past (alone ne)
  · exact place_cases (P := fun other there => ∀ outcome, there = .finished outcome →
      s.stage other = .finished outcome ∨ outcome = .ok token) nofun
      fun other _ outcome there => .inl there

end Serving

/-- Only a call with a handshake to do sends a request. -/
theorem isAuthenticating_of_sent {s t : Calls} {action : Action} {call : Nat} {request : Request}
    (step : Step settings s action t) (sends : t.log = s.log ++ [.sent call request]) :
    (s.stage call).isAuthenticating = true := by
  have silent : s.log ≠ s.log ++ [.sent call request] := by simp
  have own {event : Event} (same : s.log ++ [event] = s.log ++ [.sent call request]) :
      event = .sent call request := by
    simpa using same
  cases step with
  | ask stage =>
    cases own sends
    rw [stage]
    rfl
  | exchange stage =>
    cases own sends
    rw [stage]
    rfl
  | grant _ _ => cases own sends
  | refuse _ _ => cases own sends
  | settle _ => cases own sends
  | _ => exact absurd sends silent

/-- After a handshake that ended well, a request is sent only when its token was dropped or when its
time to live has passed. Until then every call that ends, whether it waited at the gate or came
later, ends with that token, and every call that has begun and is not given up can go on to its end
without a request by anybody. -/
theorem handshake_serves_until_expiry (settings : IdentitySettings) (before between : List Action)
    (s t u : Calls) (call : Nat) (token : String)
    (reached : (initial settings).run? settings before = some s)
    (settled : s.stage call = .settled (.ok token))
    (commits : s.step? settings (.proceed call) = some t)
    (goes : t.run? settings between = some u) :
    (∀ action v caller request, u.step? settings action = some v →
        v.log = u.log ++ [.sent caller request] →
        .invalidate ∈ between ∨ s.now.nanos + settings.tokenTtl.nanos ≤ u.now.nanos) ∧
      (.invalidate ∉ between → u.now.nanos < s.now.nanos + settings.tokenTtl.nanos →
        u.log = s.log ∧
        (∀ caller outcome, u.stage caller = .finished outcome →
          s.stage caller = .finished outcome ∨ outcome = .ok token) ∧
        ∀ caller, u.stage caller ≠ .absent → (u.stage caller).isOver = false →
          ∃ v, Advances settings u v ∧ v.log = s.log ∧ v.stage caller = .finished (.ok token)) := by
  have start : Reachable settings s := ⟨before, reached⟩
  have commit : Step settings s (.proceed call) t := step?_eq_some_iff.mp commits
  have later : t.now.nanos ≤ u.now.nanos := now_le_of_run goes
  have serves (kept : .invalidate ∉ between)
      (young : u.now.nanos < s.now.nanos + settings.tokenTtl.nanos) : Serving s token u := by
    have same : s.now.nanos ≤ t.now.nanos := now_le_of_step commit
    have fresh : Serving s token t := .of_commit start settled commit (by omega)
    exact fresh.run (start.step commit) goes kept young
  constructor
  · intro action v caller request step sends
    -- while the token serves, nobody has a request to send
    by_contra neither
    obtain ⟨kept, early⟩ := not_or.mp neither
    have idle := (serves kept (Nat.lt_of_not_le early)).idle caller
    rw [isAuthenticating_of_sent (step?_eq_some_iff.mp step) sends] at idle
    cases idle
  · intro kept young
    have serving := serves kept young
    refine ⟨serving.log, serving.finished, fun caller begun going => ?_⟩
    obtain ⟨v, advances, served, ended⟩ :=
      serving.gets_token ((start.step commit).run goes) begun going
    exact ⟨v, advances, served.log, ended⟩

end Calls

/-- Two calls at the gate. The handshake of the first one is over and not yet committed. -/
def Sample.shared : List Action :=
  [[.begin 0, .begin 1], steps 0 3, steps 1 3, steps 0 3,
    [.answer 0 granted, .proceed 0, .answer 0 (sold "abc")]].flatten

namespace Calls

/-- Two calls stand at the gate, and one nanosecond before the token of the first one is too old
nothing more has been sent and the second one can go on to its end. -/
theorem second_call_is_served :
    ∃ s t u, (initial Sample.settings).run? Sample.settings Sample.shared = some s ∧
      s.stage 0 = .settled (.ok "abc") ∧ s.step? Sample.settings (.proceed 0) = some t ∧
      t.run? Sample.settings [.pass ⟨59⟩] = some u ∧ u.log = s.log ∧
      ∃ v, Advances Sample.settings u v ∧ v.log = s.log ∧ v.stage 1 = .finished (.ok "abc") := by
  have ends : ((initial Sample.settings).run? Sample.settings Sample.shared).map
      (fun s => ((s.stage 0).bought?, (s.stage 1).isAtGate)) = some (some "abc", true) := by
    decide +kernel
  obtain ⟨s, run, here⟩ := Option.map_eq_some_iff.mp ends
  obtain ⟨bought, waiting⟩ := Prod.mk.inj here
  have settled := Stage.bought?_eq_some_iff.mp bought
  have commit : Step Sample.settings s (.proceed 0) _ := .commit settled
  have step := step?_eq_some_iff.mpr commit
  obtain ⟨_, serves⟩ :=
    handshake_serves_until_expiry Sample.settings _ [.pass ⟨59⟩] s _ _ 0 "abc" run settled step rfl
  have young : s.now.nanos + 59 < s.now.nanos + 60 := by omega
  obtain ⟨log, _, ends⟩ := serves (by simp) young
  refine ⟨s, _, _, run, settled, step, rfl, log, ends 1 ?_ ?_⟩
  · show s.stage 1 ≠ .absent
    intro absent
    rw [absent] at waiting
    cases waiting
  · show (s.stage 1).isOver = false
    cases there : s.stage 1 with
    | finished _ | dropped =>
      rw [there] at waiting
      cases waiting
    | _ => rfl

end Calls

end LoanGateway
