import LoanGateway.Proofs.Session.Blocks
import LoanGateway.Proofs.Session.History
import LoanGateway.Proofs.Session.Reuse

/-!
# A failure is shared with those who wait

A call counts the handshakes that are over before it goes to the gate. If the count has changed when
it is admitted, then a handshake ended since, and when that one failed its failure is what the call
is told. So a failure is never older than the call that ends with it. Conversely the calls that stand
at the gate when a handshake fails are told so, one after another, before anybody behind them is
admitted.

- `Stage.seen?`, `Calls.Reachable.seen_le`: the counts of calls never run ahead.
- `Calls.failure_since`: a failure that a call may be told comes from a handshake since its count.
- `Calls.Reachable.stale`: whoever does a handshake does it without a fresh token.
- `Calls.Failing`, `Calls.Hearing`: the invariant of the time in which a failure is told.
- `Calls.failure_is_shared`: the main statement.
-/

namespace LoanGateway

namespace Stage

/-- The count of handshakes that a call goes by on its way past the gate. -/
def seen? : Stage → Option Nat
  | counted seen | waiting seen | admitted seen => some seen
  | _ => none

/-- A call that goes by a count is under way. -/
theorem isGoing_of_seen? {stage : Stage} {seen : Nat} (h : stage.seen? = some seen) :
    stage.isGoing = true := by
  cases stage <;> first | rfl | cases h

/-- Whether a call at the gate is told the failure of a handshake, with which the given number of
handshakes are over. -/
def Hears (e : SignInError) (completed : Nat) : Stage → Prop
  | waiting seen | admitted seen => seen ≠ completed
  | leaving outcome => outcome = .error e
  | _ => False

/-- The failure of a handshake that is over and not committed. -/
def failed? : Stage → Option SignInError
  | settled (.error e) => some e
  | _ => none

theorem failed?_eq_some_iff {stage : Stage} {e : SignInError} :
    stage.failed? = some e ↔ stage = .settled (.error e) := by
  constructor
  · intro h
    unfold failed? at h
    split at h
    · cases h
      rfl
    · cases h
  · rintro rfl
    rfl

theorem not_hears_of_isAuthenticating {stage : Stage} {e : SignInError} {completed : Nat}
    (h : stage.isAuthenticating = true) : ¬ stage.Hears e completed := by
  cases stage <;> first | exact id | cases h

end Stage

/-- A call that counted fewer handshakes than are over is told the failure of the latest one. -/
theorem Memory.known?_of_failure {m : Memory} {now : Instant} {seen : Nat} {e : SignInError}
    (stale : m.cache.valid? now = none) (failure : m.failure = some e) (since : seen ≠ m.completed) :
    m.known? now seen = some (.error e) := by
  rw [known?, stale]
  simp [since.symm, failure]

/-- A failure is told only to a call that counted before the handshake was over. -/
theorem Memory.failure_of_known? {m : Memory} {now : Instant} {seen : Nat} {e : SignInError}
    (h : m.known? now seen = some (.error e)) : seen ≠ m.completed ∧ m.failure = some e := by
  unfold known? at h
  split at h
  · cases h
  · split at h
    · cases h
    · rename_i since
      obtain ⟨failure, here, same⟩ := Option.map_eq_some_iff.mp h
      cases same
      exact ⟨fun eq => since eq.symm, here⟩

namespace Calls

variable {settings : IdentitySettings} {s t u : Calls} {action : Action} {actions : List Action}
  {call owner : Nat} {e : SignInError} {front : List Nat}

/-! ## Counts -/

/-- A count that a call goes by is the one it had or has just been taken. -/
theorem seen?_of_step {seen : Nat} (step : Step settings s action t)
    (h : (t.stage call).seen? = some seen) :
    (s.stage call).seen? = some seen ∨ (seen = s.memory.completed ∧ t.memory = s.memory) := by
  by_cases mover : action.call? = some call
  · cases step with
    | count _ =>
      cases mover
      rw [stage_place_self] at h
      cases h
      exact .inr ⟨rfl, rfl⟩
    | queue stage =>
      cases mover
      rw [stage_place_self] at h
      rw [stage]
      exact .inl h
    | enter stage _ =>
      cases mover
      rw [stage_place_self] at h
      rw [stage]
      exact .inl h
    | invalidate => cases mover
    | pass _ => cases mover
    | _ =>
      cases mover
      rw [stage_place_self] at h
      cases h
  · rw [stage_of_step step mover] at h
    exact .inl h

/-- Handshakes that are over stay over. -/
theorem completed_le_of_step (step : Step settings s action t) :
    s.memory.completed ≤ t.memory.completed := by
  rcases memory_of_step step with same | ⟨_, same⟩ | ⟨owner, outcome, _, _, same⟩
  · exact Nat.le_of_eq (congrArg Memory.completed same).symm
  · exact Nat.le_of_eq (congrArg Memory.completed same).symm
  · rw [same, Memory.completed_commit]
    exact Nat.le_succ _

/-- No call has counted more handshakes than are over. -/
theorem Reachable.seen_le {seen : Nat} (h : Reachable settings s)
    (counted : (s.stage call).seen? = some seen) : seen ≤ s.memory.completed := by
  have all : ∀ call seen, (s.stage call).seen? = some seen → seen ≤ s.memory.completed := by
    refine h.induction
      (P := fun s => ∀ call seen, (s.stage call).seen? = some seen → seen ≤ s.memory.completed)
      nofun ?_
    intro s action t step before call seen counted
    rcases seen?_of_step step counted with earlier | ⟨rfl, same⟩
    · exact Nat.le_trans (before call seen earlier) (completed_le_of_step step)
    · exact Nat.le_of_eq (congrArg Memory.completed same).symm
  exact all call seen counted

/-- If handshakes ended since a call counted them and the latest one failed, then one that ended
since failed so. -/
theorem failure_since {seen : Nat} (run : (initial settings).run? settings actions = some s)
    (counted : (s.stage call).seen? = some seen) (since : seen ≠ s.memory.completed)
    (failure : s.memory.failure = some e) :
    ∃ owner t, Completes settings actions owner (.error e) t ∧ (t.stage call).isGoing = true := by
  have all := history_induction (P := fun actions s => ∀ call seen e,
      (s.stage call).seen? = some seen → seen ≠ s.memory.completed → s.memory.failure = some e →
      ∃ owner t, Completes settings actions owner (.error e) t ∧ (t.stage call).isGoing = true)
    run nofun ?_
  · exact all call seen e counted since failure
  · intro actions s action t run step before call seen e counted since failure
    -- it is an earlier failure, or the handshake ends with this very action
    rcases seen?_of_step step counted with earlier | ⟨rfl, same⟩
    · have longer (since : seen ≠ s.memory.completed) (failure : s.memory.failure = some e) :
          ∃ owner t, Completes settings (actions ++ [action]) owner (.error e) t ∧
            (t.stage call).isGoing = true := by
        obtain ⟨owner, t, completes, going⟩ := before call seen e earlier since failure
        exact ⟨owner, t, completes.append _, going⟩
      rcases memory_of_step step with same | ⟨_, same⟩ | ⟨owner, outcome, rfl, settled, same⟩
      · rw [same] at since failure
        exact longer since failure
      · rw [same] at since failure
        exact longer since failure
      · rw [same] at failure
        cases outcome with
        | ok token => cases failure
        | error e =>
          cases failure
          exact ⟨owner, s, .last run settled, Stage.isGoing_of_seen? earlier⟩
    · rw [same] at since
      exact absurd rfl since

/-! ## Handshakes without a fresh token -/

/-- Only the end of a handshake that gave a token makes the cache serve again. -/
theorem stale_of_step (step : Step settings s action t)
    (stale : s.memory.cache.valid? s.now = none) :
    t.memory.cache.valid? t.now = none ∨
      ∃ owner token, action = .proceed owner ∧ s.stage owner = .settled (.ok token) := by
  have later := TokenCache.valid?_eq_none_of_le stale (now_le_of_step step)
  rcases memory_of_step step with same | ⟨_, same⟩ | ⟨owner, outcome, rfl, settled, same⟩
  · rw [same]
    exact .inl later
  · rw [same]
    exact .inl (TokenCache.valid?_invalidate ..)
  · cases outcome with
    | ok token => exact .inr ⟨owner, token, rfl, settled⟩
    | error e =>
      rw [same, Memory.cache_commit_error]
      exact .inl later

/-- A call with a handshake to do had it before or has just found nothing in the memory. -/
theorem authenticating_of_step (step : Step settings s action t)
    (h : (t.stage call).isAuthenticating = true) :
    (s.stage call).isAuthenticating = true ∨ t.memory.cache.valid? t.now = none := by
  by_cases mover : action.call? = some call
  · cases step with
    | resolve _ unknown =>
      refine .inr ?_
      show s.memory.cache.valid? s.now = none
      cases fresh : s.memory.cache.valid? s.now with
      | none => rfl
      | some token => cases unknown.symm.trans (Memory.known?_of_valid? _ fresh)
    | ask stage | grant stage _ | refuse stage _ | exchange stage | settle stage =>
      cases mover
      rw [stage]
      exact .inl rfl
    | invalidate => cases mover
    | pass _ => cases mover
    | _ =>
      cases mover
      rw [stage_place_self] at h
      cases h
  · rw [stage_of_step step mover] at h
    exact .inl h

/-- As long as a call has a handshake to do, there is no fresh token. -/
theorem Reachable.stale (h : Reachable settings s)
    (authenticating : (s.stage call).isAuthenticating = true) :
    s.memory.cache.valid? s.now = none := by
  have all : Reachable settings s ∧ ∀ call, (s.stage call).isAuthenticating = true →
      s.memory.cache.valid? s.now = none := by
    refine h.induction
      (P := fun s => Reachable settings s ∧ ∀ call, (s.stage call).isAuthenticating = true →
        s.memory.cache.valid? s.now = none) ⟨⟨[], rfl⟩, nofun⟩ ?_
    intro s action t step ⟨reachable, before⟩
    refine ⟨reachable.step step, fun call authenticating => ?_⟩
    rcases authenticating_of_step step authenticating with earlier | stale
    · rcases stale_of_step step (before call earlier) with stale | ⟨owner, token, rfl, settled⟩
      · exact stale
      · -- a token is stored only by the one call past the gate, and then its handshake is over
        have holds : (s.stage owner).holdsGate = true := by
          rw [settled]
          rfl
        obtain rfl := reachable.gated.eq_of_holdsGate holds
          (Stage.holdsGate_of_isAuthenticating earlier)
        cases step_unique step (.commit settled)
        rw [stage_place_self] at authenticating
        cases authenticating
    · exact stale
  exact all.2 call authenticating

/-! ## The time in which a failure is told -/

/-- The calls in front of the line are told the failure when they get on. -/
structure Failing (e : SignInError) (front : List Nat) (s : Calls) : Prop where
  line : ∃ back, s.gate = front ++ back
  stale : s.memory.cache.valid? s.now = none
  failure : s.memory.failure = some e
  hears : ∀ call ∈ front, (s.stage call).Hears e s.memory.completed

namespace Failing

theorem mem_gate (h : Failing e front s) (mem : call ∈ front) : call ∈ s.gate := by
  obtain ⟨back, line⟩ := h.line
  rw [line]
  exact List.mem_append_left _ mem

/-- As long as somebody is in front, the first one at the gate is. -/
theorem head_mem {head : Nat} (h : Failing e front s) (mem : call ∈ front)
    (first : s.gate.head? = some head) : head ∈ front := by
  obtain ⟨back, line⟩ := h.line
  obtain ⟨other, rest, rfl⟩ := List.exists_cons_of_ne_nil (List.ne_nil_of_mem mem)
  rw [line] at first
  cases first
  exact List.mem_cons_self

/-- A call moves on. If it is in front, it still hears of the failure. -/
theorem place (h : Failing e front s) {gate : List Nat} {stage : Stage}
    (line : ∃ back, gate = front ++ back)
    (own : call ∈ front → stage.Hears e s.memory.completed) :
    Failing e front ({ s with gate }.place call stage) where
  line := line
  stale := h.stale
  failure := h.failure
  hears :=
    place_cases (s := { s with gate })
      (P := fun other there => other ∈ front → there.Hears e s.memory.completed) own
      fun other _ => h.hears other

/-- A call leaves the line, wherever it stands in it. -/
theorem leave (h : Failing e front s) {stage : Stage} :
    Failing e (front.filter (· ≠ call)) ((s.leave call).place call stage) where
  line := by
    obtain ⟨back, line⟩ := h.line
    refine ⟨back.filter (· ≠ call), ?_⟩
    show s.gate.filter (· ≠ call) = _
    rw [line, List.filter_append]
  stale := h.stale
  failure := h.failure
  hears other mem := by
    obtain ⟨old, ne⟩ := List.mem_filter.mp mem
    rw [stage_place_of_ne _ _ _ _ (by simpa using ne)]
    exact h.hears other old

end Failing

/-- A call is told the failure in its turn, or it ended with it, or it was given up. -/
inductive Hearing (e : SignInError) (call : Nat) (s : Calls) : Prop
  | inFront {front : List Nat} (failing : Failing e front s) (mem : call ∈ front)
  | ended (stage : s.stage call = .finished (.error e))
  | dropped (stage : s.stage call = .dropped)

/-- What is in front is told the failure whatever happens. -/
theorem Failing.step (h : Failing e front s) (gated : Gated s) (mem : call ∈ front)
    (step : Step settings s action t) : Hearing e call t := by
  have away {other : Nat} {stage : Stage} (eq : s.stage other = stage)
      (away : stage.isAtGate = false) : other ∉ front := by
    intro inFront
    rw [← eq, (gated.mem_iff other).mp (h.mem_gate inFront)] at away
    cases away
  have holder {other : Nat} {stage : Stage} (eq : s.stage other = stage)
      (holds : stage.holdsGate = true) : other ∈ front :=
    h.head_mem mem (gated.first other (eq ▸ holds))
  have idle {other : Nat} {stage : Stage} (eq : s.stage other = stage)
      (authenticating : stage.isAuthenticating = true) : False := by
    have hears := h.hears other (holder eq (Stage.holdsGate_of_isAuthenticating authenticating))
    rw [eq] at hears
    exact Stage.not_hears_of_isAuthenticating authenticating hears
  cases step with
  | begin stage => exact .inFront (h.place h.line fun mem => absurd mem (away stage rfl)) mem
  | serve stage _ => exact .inFront (h.place h.line fun mem => absurd mem (away stage rfl)) mem
  | miss stage _ => exact .inFront (h.place h.line fun mem => absurd mem (away stage rfl)) mem
  | count stage => exact .inFront (h.place h.line fun mem => absurd mem (away stage rfl)) mem
  | @queue other _ stage =>
    obtain ⟨back, line⟩ := h.line
    have longer : ∃ back, s.gate ++ [other] = front ++ back :=
      ⟨back ++ [other], by rw [line, List.append_assoc]⟩
    exact .inFront (h.place longer fun mem => absurd mem (away stage rfl)) mem
  | @enter other _ stage _ =>
    refine .inFront (h.place h.line fun mem => ?_) mem
    have hears := h.hears other mem
    rwa [stage] at hears
  -- who is past the gate is in front
  | @tell other _ outcome stage known =>
    refine .inFront (h.place h.line fun mem => ?_) mem
    have hears := h.hears other mem
    rw [stage] at hears
    cases known.symm.trans (Memory.known?_of_failure h.stale h.failure hears)
    rfl
  | @resolve other _ stage unknown =>
    have hears := h.hears other (holder stage rfl)
    rw [stage] at hears
    cases unknown.symm.trans (Memory.known?_of_failure h.stale h.failure hears)
  | ask stage => exact (idle stage rfl).elim
  | grant stage _ => exact (idle stage rfl).elim
  | refuse stage _ => exact (idle stage rfl).elim
  | exchange stage => exact (idle stage rfl).elim
  | settle stage => exact (idle stage rfl).elim
  | commit stage => exact (idle stage rfl).elim
  | @leave other outcome stage =>
    rcases eq_or_ne call other with rfl | ne
    · have hears := h.hears call mem
      rw [stage] at hears
      obtain rfl : outcome = .error e := hears
      exact .ended (stage_place_self ..)
    · exact .inFront h.leave (List.mem_filter.mpr ⟨mem, by simpa using ne⟩)
  | @drop other _ =>
    rcases eq_or_ne call other with rfl | ne
    · exact .dropped (stage_place_self ..)
    · exact .inFront h.leave (List.mem_filter.mpr ⟨mem, by simpa using ne⟩)
  | invalidate =>
    exact .inFront ⟨h.line, TokenCache.valid?_invalidate .., h.failure, h.hears⟩ mem
  | pass time =>
    have later := TokenCache.valid?_eq_none_of_le h.stale (Nat.le_add_right s.now.nanos time.nanos)
    exact .inFront ⟨h.line, later, h.failure, h.hears⟩ mem

/-- When a handshake fails, everybody at the gate is in front. -/
theorem Failing.of_commit (reachable : Reachable settings s)
    (settled : s.stage owner = .settled (.error e)) :
    Failing e s.gate
      ({ s with memory := s.memory.commit s.now (.error e) }.place owner (.leaving (.error e))) where
  line := ⟨[], (List.append_nil _).symm⟩
  stale := by
    have authenticating : (s.stage owner).isAuthenticating = true := by
      rw [settled]
      rfl
    exact reachable.stale authenticating
  failure := rfl
  hears := by
    refine place_cases (s := { s with memory := s.memory.commit s.now (.error e) })
      (P := fun other there => other ∈ s.gate → there.Hears e (s.memory.completed + 1))
      (fun _ => rfl) ?_
    intro other ne mem
    have holds : (s.stage owner).holdsGate = true := by rw [settled]; rfl
    obtain ⟨seen, stage⟩ := reachable.gated.waits_of_ne holds mem ne
    have counted : (s.stage other).seen? = some seen := by
      rw [stage]
      rfl
    have bound := reachable.seen_le counted
    show (s.stage other).Hears e (s.memory.completed + 1)
    rw [stage]
    exact Nat.ne_of_lt (Nat.lt_succ_of_le bound)

/-! ## Before and after -/

/-- A call stands at the gate behind one whose handshake has failed and is not committed. -/
structure Awaiting (owner : Nat) (e : SignInError) (call : Nat) (s : Calls) : Prop where
  settled : s.stage owner = .settled (.error e)
  mem : call ∈ s.gate
  ne : call ≠ owner

theorem Awaiting.holds (h : Awaiting owner e call s) : (s.stage owner).holdsGate = true := by
  rw [h.settled]
  rfl

/-- The call waits to be admitted. -/
theorem Awaiting.waits (h : Awaiting owner e call s) (reachable : Reachable settings s) :
    ∃ seen, s.stage call = .waiting seen :=
  reachable.gated.waits_of_ne h.holds h.mem h.ne

/-- Whatever happens, the call still awaits the failure or is being told it. -/
theorem Awaiting.step (h : Awaiting owner e call s) (reachable : Reachable settings s)
    (step : Step settings s action t) : Awaiting owner e call t ∨ Hearing e call t := by
  obtain ⟨seen, waiting⟩ := h.waits reachable
  by_cases commits : action.call? = some owner
  · cases step with
    | commit stage =>
      cases commits
      cases h.settled.symm.trans stage
      exact .inr (.inFront (.of_commit reachable h.settled) h.mem)
    | drop pending =>
      cases commits
      rw [h.settled] at pending
      cases pending
    | invalidate => cases commits
    | pass _ => cases commits
    | begin stage | serve stage _ | miss stage _ | count stage | queue stage | enter stage _
    | tell stage _ | resolve stage _ | ask stage | grant stage _ | refuse stage _
    | exchange stage | settle stage | leave stage =>
      cases commits
      cases h.settled.symm.trans stage
  · by_cases mover : action.call? = some call
    · cases step with
      | enter stage first =>
        cases mover
        -- the call whose handshake has failed is still first
        cases first.symm.trans (reachable.gated.first owner h.holds)
        exact absurd rfl h.ne
      | drop _ =>
        cases mover
        exact .inr (.dropped (stage_place_self ..))
      | invalidate => cases mover
      | pass _ => cases mover
      | begin stage | serve stage _ | miss stage _ | count stage | queue stage | tell stage _
      | resolve stage _ | ask stage | grant stage _ | refuse stage _ | exchange stage
      | settle stage | commit stage | leave stage =>
        cases mover
        cases waiting.symm.trans stage
    · exact .inl ⟨(stage_of_step step commits).trans h.settled, mem_gate_of_step step mover h.mem,
        h.ne⟩

/-- Whatever happens, the call is still being told the failure. -/
theorem Hearing.step (h : Hearing e call s) (gated : Gated s) (step : Step settings s action t) :
    Hearing e call t := by
  cases h with
  | inFront failing mem => exact failing.step gated mem step
  | ended stage => exact .ended ((stage_of_over step (by rw [stage]; rfl)).trans stage)
  | dropped stage => exact .dropped ((stage_of_over step (by rw [stage]; rfl)).trans stage)

/-- A call that is being told a failure has no handshake of its own to do. -/
theorem Hearing.idle (h : Hearing e call s) : (s.stage call).isAuthenticating = false := by
  cases h with
  | inFront failing mem =>
    rw [Bool.eq_false_iff]
    exact fun authenticating =>
      Stage.not_hears_of_isAuthenticating authenticating (failing.hears call mem)
  | ended stage => rw [stage]; rfl
  | dropped stage => rw [stage]; rfl

/-- It ends with nothing but that failure. -/
theorem Hearing.outcome {outcome : Except SignInError String} (h : Hearing e call s)
    (ended : s.stage call = .finished outcome) : outcome = .error e := by
  cases h with
  | inFront failing mem =>
    have hears := failing.hears call mem
    rw [ended] at hears
    exact hears.elim
  | ended stage =>
    cases stage.symm.trans ended
    rfl
  | dropped stage => cases stage.symm.trans ended

/-- As long as a call is in front, whoever is first at the gate is told the failure. -/
theorem Failing.toBeTold {head : Nat} (h : Failing e front s) (mem : call ∈ front)
    (first : s.gate.head? = some head) : ToBeTold (.error e) s head := by
  have hears := h.hears head (h.head_mem mem first)
  cases stage : s.stage head with
  | waiting seen =>
    rw [stage] at hears
    exact .waiting stage (Memory.known?_of_failure h.stale h.failure hears)
  | admitted seen =>
    rw [stage] at hears
    exact .admitted stage (Memory.known?_of_failure h.stale h.failure hears)
  | leaving outcome =>
    rw [stage] at hears
    obtain rfl : outcome = .error e := hears
    exact .leaving stage
  | _ =>
    rw [stage] at hears
    exact hears.elim

theorem Hearing.telling (settings : IdentitySettings) (e : SignInError) (call : Nat) :
    Telling settings (fun s => Hearing e call s ∧ Reachable settings s) call (.error e) where
  proceed h step := ⟨h.1.step h.2.gated step, h.2.step step⟩
  first := by
    rintro s head ⟨hearing, reachable⟩ mem first
    cases hearing with
    | inFront failing inFront => exact failing.toBeTold inFront first
    | ended stage | dropped stage =>
      have atGate := (reachable.gated.mem_iff call).mp mem
      rw [stage] at atGate
      cases atGate

/-- A call that is told a failure and is not given up can go on to its end. -/
theorem Hearing.ends (h : Hearing e call s) (reachable : Reachable settings s)
    (kept : s.stage call ≠ .dropped) :
    ∃ t, Advances settings s t ∧ t.log = s.log ∧ t.stage call = .finished (.error e) := by
  cases h with
  | inFront failing mem =>
    obtain ⟨t, advances, _, ended, log⟩ := (Hearing.telling settings e call).ends_of_mem_gate
      ⟨.inFront failing mem, reachable⟩ (failing.mem_gate mem)
    exact ⟨t, advances, log, ended⟩
  | ended stage => exact ⟨s, ⟨[], nofun, rfl⟩, rfl, stage⟩
  | dropped stage => exact absurd stage kept

/-- A call that awaits a failure can be told it. -/
theorem Awaiting.ends (h : Awaiting owner e call s) (reachable : Reachable settings s) :
    ∃ t, Advances settings s t ∧ t.log = s.log ∧ t.stage call = .finished (.error e) := by
  have commit : Step settings s (.proceed owner) _ := .commit h.settled
  have failing : Failing e s.gate _ := .of_commit reachable h.settled
  obtain ⟨t, advances, _, ended, log⟩ := (Hearing.telling settings e call).ends_of_mem_gate
    ⟨.inFront failing h.mem, reachable.step commit⟩ h.mem
  exact ⟨t, (advances_of_step commit).trans advances, log, ended⟩

/-- A call without a handshake to do sends nothing. -/
theorem silent_of_step (step : Step settings s action t)
    (idle : (s.stage call).isAuthenticating = false)
    (silent : ∀ request, .sent call request ∉ s.log) (request : Request) :
    .sent call request ∉ t.log := by
  intro mem
  rcases log_of_step step with same | ⟨event, grows⟩
  · rw [same] at mem
    exact silent request mem
  · rw [grows] at mem
    rcases List.mem_append.mp mem with old | new
    · exact silent request old
    · obtain rfl := List.mem_singleton.mp new
      rw [isAuthenticating_of_sent step grows] at idle
      cases idle

/-! ## Sharing of failures -/

/-- An error that a call ends with is the outcome of a handshake that was completed while the call
was under way. When a handshake has failed, then whatever happens next, every call that stands at
the gate sends nothing, ends with that error and nothing else, and can go on to its end without a
request by anybody unless it is given up. -/
theorem failure_is_shared (settings : IdentitySettings) (actions : List Action) (s : Calls)
    (run : (initial settings).run? settings actions = some s) :
    (∀ call e, s.stage call = .finished (.error e) →
        ∃ owner t, Completes settings actions owner (.error e) t ∧
          (t.stage call).isGoing = true) ∧
      ∀ owner call e, s.stage owner = .settled (.error e) → call ∈ s.gate → call ≠ owner →
        ∀ more u, s.run? settings more = some u →
          (∀ request, .sent call request ∉ u.log) ∧
          (∀ outcome, u.stage call = .finished outcome → outcome = .error e) ∧
          (u.stage call ≠ .dropped →
            ∃ v, Advances settings u v ∧ v.log = u.log ∧ v.stage call = .finished (.error e)) := by
  have reachable : Reachable settings s := ⟨actions, run⟩
  constructor
  · intro call e ended
    have has : (s.stage call).outcome? = some (.error e) := by
      rw [ended]
      rfl
    obtain ⟨before, after, t, rfl, reached, origin⟩ := exists_origin run has
    cases origin with
    | @told seen _ stage known =>
      obtain ⟨since, failure⟩ := Memory.failure_of_known? known
      have counted : (t.stage call).seen? = some seen := by
        rw [stage]
        rfl
      obtain ⟨owner, v, completes, going⟩ := failure_since reached counted since failure
      exact ⟨owner, v, completes.append _, going⟩
    | completed stage =>
      refine ⟨call, t, ⟨before, after, rfl, reached, stage⟩, ?_⟩
      rw [stage]
      rfl
  · intro owner call e settled mem ne more u goes
    have silent : ∀ request, .sent call request ∉ s.log := by
      intro request sent
      have holds : (s.stage owner).holdsGate = true := by rw [settled]; rfl
      obtain ⟨seen, waiting⟩ := reachable.gated.waits_of_ne holds mem ne
      have asked := reachable.asked call request sent
      rw [waiting] at asked
      cases asked
    obtain ⟨reached, awaits, still⟩ : Reachable settings u ∧
        (Awaiting owner e call u ∨ Hearing e call u) ∧ ∀ request, .sent call request ∉ u.log := by
      refine run_induction (P := fun u => Reachable settings u ∧
        (Awaiting owner e call u ∨ Hearing e call u) ∧ ∀ request, .sent call request ∉ u.log)
        ?_ goes ⟨reachable, .inl ⟨settled, mem, ne⟩, silent⟩
      rintro v action w - step ⟨reached, awaiting | hearing, still⟩
      · exact ⟨reached.step step, awaiting.step reached step,
          silent_of_step step (by obtain ⟨_, waiting⟩ := awaiting.waits reached; rw [waiting]; rfl) still⟩
      · exact ⟨reached.step step, .inr (hearing.step reached.gated step),
          silent_of_step step hearing.idle still⟩
    refine ⟨still, ?_, ?_⟩
    · intro outcome ended
      rcases awaits with awaiting | hearing
      · obtain ⟨seen, waiting⟩ := awaiting.waits reached
        cases ended.symm.trans waiting
      · exact hearing.outcome ended
    · intro kept
      rcases awaits with awaiting | hearing
      · exact awaiting.ends reached
      · exact hearing.ends reached kept

end Calls

namespace Sample

/-- The handshake of the first of three calls fails, and the others stand at the gate. -/
def refused : List Action :=
  [[.begin 0, .begin 1, .begin 2], steps 0 3, steps 1 3, steps 2 3, steps 0 3,
    [.answer 0 (.ok (.new 503 "busy"))]].flatten

/-- The failure becomes known, another call comes to the gate, and the second call leaves it. -/
def draining : List Action :=
  [steps 0 2, [.begin 3], steps 3 3, steps 1 3].flatten

end Sample

namespace Calls

/-- The last of three calls at the gate sends nothing and can go on to its end with the failure of
the first one, although another call has come meanwhile. -/
theorem third_call_shares_failure :
    ∃ s u e, (initial Sample.settings).run? Sample.settings Sample.refused = some s ∧
      s.stage 0 = .settled (.error e) ∧ 2 ∈ s.gate ∧ 2 ≠ 0 ∧
      s.run? Sample.settings Sample.draining = some u ∧ u.stage 2 ≠ .dropped ∧
      (∀ request, .sent 2 request ∉ u.log) ∧
      ∃ v, Advances Sample.settings u v ∧ v.log = u.log ∧ v.stage 2 = .finished (.error e) := by
  have ends : ((initial Sample.settings).run? Sample.settings (Sample.refused)).map
      (fun s => ((s.stage 0).failed?, s.gate)) =
        some (some (.sessionRefused (.refused 503 "busy")), [0, 1, 2]) := by decide +kernel
  obtain ⟨s, run, here⟩ := Option.map_eq_some_iff.mp ends
  obtain ⟨failed, gate⟩ := Prod.mk.inj here
  have drains : (s.run? Sample.settings Sample.draining).map (·.gate) = some [2, 3] := by
    have whole : ((initial Sample.settings).run? Sample.settings
        (Sample.refused ++ Sample.draining)).map (·.gate) = some [2, 3] := by decide +kernel
    rwa [run?_append, run] at whole
  obtain ⟨u, goes, line⟩ := Option.map_eq_some_iff.mp drains
  have settled := Stage.failed?_eq_some_iff.mp failed
  have mem : 2 ∈ s.gate := by
    rw [gate]
    decide
  obtain ⟨_, shares⟩ := failure_is_shared Sample.settings Sample.refused s run
  obtain ⟨silent, _, ends⟩ := shares 0 2 _ settled mem (by decide) Sample.draining u goes
  have kept : u.stage 2 ≠ .dropped := by
    have reachable : Reachable Sample.settings u := Reachable.run ⟨_, run⟩ goes
    have atGate : (u.stage 2).isAtGate = true := (reachable.gated.mem_iff 2).mp (by rw [line]; decide)
    intro dropped
    rw [dropped] at atGate
    cases atGate
  exact ⟨s, u, _, run, settled, mem, by decide, goes, kept, silent, ends kept⟩

end Calls

end LoanGateway
