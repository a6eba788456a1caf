import LoanGateway.Proofs.Session.Alone
import LoanGateway.Proofs.Session.Failures
import LoanGateway.Proofs.Token.Answer

/-!
# A handshake is all or nothing

A call that finds no fresh token and is the only one does one round, wherever it may be given up. Until
it commits the outcome of that round the memory is as it was. A token is then cached with the time of
that moment, and a failure leaves the cache as it was.

- `Reply.Grants`: the answers that grant a session; `Handshake.IsRound.exchanges_iff`: a token is asked
  for exactly after one of them.
- `Handshake.Round.events`: what is exchanged in a round.
- `Calls.Reached`: what a call at a stage has exchanged.
- `Calls.IsCommitted`: what a call has come to leave in the memory.
- `Calls.Lone`: the invariant of a call that is the only one.
- `Calls.handshake_is_all_or_nothing`: the main statement.
-/

namespace LoanGateway

open Handshake (Round IsRound sessionOf tokenOf sessionRequest tokenRequest)

/-- The answer grants a session. -/
def Reply.Grants (reply : Reply) (session : String) : Prop :=
  ∃ response, reply = .ok response ∧ GrantsSession response session

namespace Stage

/-- Whether a call has exchanged nothing yet. -/
def isIdle : Stage → Bool
  | absent | arrived | missed | counted _ | waiting _ | admitted _ | resolved => true
  | _ => false

/-- The outcome of a call whose handshake is over. -/
def result? : Stage → Option (Except SignInError String)
  | settled outcome | leaving outcome | finished outcome => some outcome
  | _ => none

theorem result?_of_outcome? {stage : Stage} {outcome : Except SignInError String}
    (has : stage.outcome? = some outcome) : stage.result? = some outcome := by
  cases stage <;> first | exact has | cases has

theorem result?_of_isIdle {stage : Stage} (idle : stage.isIdle = true) : stage.result? = none := by
  cases stage <;> first | rfl | cases idle

theorem outcome?_of_isIdle {stage : Stage} (idle : stage.isIdle = true) :
    stage.outcome? = none := by
  cases stage <;> first | rfl | cases idle

theorem seen?_of_outcome? {stage : Stage} {outcome : Except SignInError String}
    (has : stage.outcome? = some outcome) : stage.seen? = none := by
  cases stage <;> first | rfl | cases has

theorem outcome?_of_isPending {stage : Stage} (pending : stage.isPending = true) :
    stage.outcome? = none := by
  cases stage <;> first | rfl | cases pending

end Stage

namespace Handshake

variable {settings : IdentitySettings} {reply : Reply} {session : String} {round : Round}

/-! ## Rounds by their first answers -/

theorem sessionOf_eq_ok_iff : sessionOf reply = .ok session ↔ reply.Grants session := by
  constructor
  · exact grantsSession_of_sessionOf
  · rintro ⟨response, rfl, success, named⟩
    rw [sessionOf, Reply.accepted, if_pos success]
    dsimp only
    rw [named]

theorem isRound_of_error {e : SignInError} (refused : sessionOf reply = .error e) :
    IsRound settings ⟨[reply], [sessionRequest settings], .error e⟩ := by
  rcases sessionOf_cases reply with
    ⟨failure, fails, same⟩ | ⟨response, succeeds, ⟨none, same⟩ | ⟨session, _, same⟩⟩
  · cases refused.symm.trans same
    exact .refused fails
  · cases refused.symm.trans same
    exact .nameless succeeds none
  · exact nomatch refused.symm.trans same

theorem isRound_of_ok (granted : sessionOf reply = .ok session) (next : Reply) :
    IsRound settings
      ⟨[reply, next], [sessionRequest settings, tokenRequest settings session], tokenOf next⟩ := by
  rcases sessionOf_cases reply with
    ⟨failure, _, same⟩ | ⟨response, succeeds, ⟨_, same⟩ | ⟨other, named, same⟩⟩
  · exact nomatch granted.symm.trans same
  · exact nomatch granted.symm.trans same
  · cases granted.symm.trans same
    exact isRound_of_session settings succeeds named

/-- Two answers are enough for a round. -/
theorem exists_round_of_replies (settings : IdentitySettings) (first second : Reply) :
    ∃ round, IsRound settings round ∧ round.replies <+: [first, second] := by
  cases worth : sessionOf first with
  | error e => exact ⟨_, isRound_of_error worth, [second], rfl⟩
  | ok session => exact ⟨_, isRound_of_ok worth second, List.prefix_refl _⟩

/-- The answers decide what a round is. -/
theorem IsRound.eq_of_replies {other : Round} {answers : List Reply} (is : IsRound settings round)
    (another : IsRound settings other) (taken : round.replies <+: answers)
    (also : other.replies <+: answers) : round = other := by
  obtain ⟨rest, rfl⟩ := taken
  obtain ⟨others, same⟩ := also
  rcases is.parts with ⟨reply, e, refused, rfl⟩ | ⟨reply, next, session, granted, rfl⟩
  · rcases another.parts with ⟨_, _, refused', rfl⟩ | ⟨_, _, _, granted', rfl⟩
    · obtain ⟨rfl, _⟩ := List.cons.inj same
      cases refused.symm.trans refused'
      rfl
    · obtain ⟨rfl, _⟩ := List.cons.inj same
      exact nomatch refused.symm.trans granted'
  · rcases another.parts with ⟨_, _, refused', rfl⟩ | ⟨_, _, _, granted', rfl⟩
    · obtain ⟨rfl, _⟩ := List.cons.inj same
      exact nomatch granted.symm.trans refused'
    · obtain ⟨rfl, follow⟩ := List.cons.inj same
      obtain ⟨rfl, _⟩ := List.cons.inj follow
      cases granted.symm.trans granted'
      rfl

/-- A token is asked for exactly if a session was granted. -/
theorem IsRound.exchanges_iff (is : IsRound settings round) :
    (∃ session, tokenRequest settings session ∈ round.requests) ↔
      ∃ reply session, round.replies.head? = some reply ∧ reply.Grants session := by
  have apart (session : String) : tokenRequest settings session ≠ sessionRequest settings := by
    intro same
    have method := congrArg Request.method same
    exact nomatch method
  rcases is.parts with ⟨reply, e, refused, rfl⟩ | ⟨reply, next, session, granted, rfl⟩
  · constructor
    · rintro ⟨session, mem⟩
      exact absurd (List.mem_singleton.mp mem) (apart session)
    · rintro ⟨_, session, ⟨⟩, grants⟩
      exact nomatch refused.symm.trans (sessionOf_eq_ok_iff.mpr grants)
  · constructor
    · rintro -
      exact ⟨reply, session, rfl, sessionOf_eq_ok_iff.mp granted⟩
    · rintro -
      exact ⟨session, by simp⟩

/-- What a call exchanges in a round: every request with the answer to it. -/
def Round.events (round : Round) (call : Nat) : List Event :=
  (round.requests.zip round.replies).flatMap fun exchange =>
    [.sent call exchange.1, .answered call exchange.2]

end Handshake

namespace Calls

variable {settings : IdentitySettings} {s t u : Calls} {call : Nat} {action : Action}

/-! ## What a lone call has exchanged -/

/-- Nothing happens but the steps of a call, answers to it and its end, and time passes. -/
def IsLone (call : Nat) (action : Action) : Prop :=
  action.call? = some call ∨ ∃ time, action = .pass time

/-- The beginning of what is exchanged in a round. -/
def Begun (settings : IdentitySettings) (call : Nat) (events : List Event) : Prop :=
  ∃ round, IsRound settings round ∧ events <+: round.events call

/-- What a call at a stage has exchanged. -/
inductive Reached (settings : IdentitySettings) (call : Nat) : Stage → List Event → Prop
  | idle {stage : Stage} (idle : stage.isIdle = true) : Reached settings call stage []
  | opening : Reached settings call .opening [.sent call (sessionRequest settings)]
  | opened {reply : Reply} {session : String} (granted : sessionOf reply = .ok session) :
      Reached settings call (.opened session)
        [.sent call (sessionRequest settings), .answered call reply]
  | exchanging {reply : Reply} {session : String} (granted : sessionOf reply = .ok session) :
      Reached settings call .exchanging
        [.sent call (sessionRequest settings), .answered call reply,
          .sent call (tokenRequest settings session)]
  | concluded {stage : Stage} {round : Round} (is : IsRound settings round)
      (result : stage.result? = some round.outcome) : Reached settings call stage (round.events call)
  | dropped {events : List Event} (begun : Begun settings call events) :
      Reached settings call .dropped events

theorem Reached.begun {stage : Stage} {events : List Event}
    (reached : Reached settings call stage events) : Begun settings call events := by
  -- where an answer is missing, any answer makes a round
  let lost : Reply := .error (.connectionFailed "")
  have first : IsRound settings _ := .refused (.unanswered (.connectionFailed ""))
  cases reached with
  | idle _ => exact ⟨_, first, List.nil_prefix⟩
  | opening => exact ⟨_, first, [_], rfl⟩
  | opened granted => exact ⟨_, Handshake.isRound_of_ok granted lost, [_, _], rfl⟩
  | exchanging granted => exact ⟨_, Handshake.isRound_of_ok granted lost, [_], rfl⟩
  | concluded is _ => exact ⟨_, is, List.prefix_refl _⟩
  | dropped begun => exact begun

theorem Reached.eq_nil {stage : Stage} {events : List Event} (idle : stage.isIdle = true)
    (reached : Reached settings call stage events) : events = [] := by
  cases reached with
  | idle _ => rfl
  | concluded _ result => exact nomatch (Stage.result?_of_isIdle idle).symm.trans result
  | opening | opened | exchanging | dropped => cases idle

/-- What belongs to an outcome stays the same. -/
theorem Reached.conclude {stage next : Stage} {events : List Event}
    {outcome : Except SignInError String} (result : stage.result? = some outcome)
    (same : next.result? = some outcome) (reached : Reached settings call stage events) :
    Reached settings call next events := by
  cases reached with
  | concluded is own =>
    rw [result] at own
    exact .concluded is (same.trans own)
  | idle idle => exact nomatch (Stage.result?_of_isIdle idle).symm.trans result
  | opening | opened | exchanging | dropped => cases result

/-! ## The invariant -/

/-- A call has committed an outcome at a moment of its way, and nothing else has come to the memory. -/
def IsCommitted (settings : IdentitySettings) (s : Calls) (call : Nat)
    (outcome : Except SignInError String) (moment : Instant) (t : Calls) : Prop :=
  t.memory = s.memory.commit moment outcome ∧
    ∃ u v, Path settings (IsLone call) s u ∧ u.stage call = .settled outcome ∧ u.now = moment ∧
      Step settings u (.proceed call) v ∧ Path settings (IsLone call) v t

theorem IsCommitted.extend {outcome : Except SignInError String} {moment : Instant}
    (committed : IsCommitted settings s call outcome moment t) (step : Step settings t action u)
    (is : IsLone call action) (memory : u.memory = t.memory) :
    IsCommitted settings s call outcome moment u := by
  obtain ⟨commit, v, w, before, settled, now, commits, behind⟩ := committed
  exact ⟨memory.trans commit, v, w, before, settled, now, commits, behind.trans (.of_step step is)⟩

/-- The invariant of a call that is the only one and finds no fresh token. -/
structure Lone (settings : IdentitySettings) (s : Calls) (call : Nat) (t : Calls) : Prop where
  way : Path settings (IsLone call) s t
  later : s.now.nanos ≤ t.now.nanos
  seen : ∀ seen, (t.stage call).seen? = some seen → seen = s.memory.completed
  exchanged : ∃ events, t.log = s.log ++ events ∧ Reached settings call (t.stage call) events
  kept : (t.stage call).outcome? = none → t.memory = s.memory
  committed : ∀ outcome, (t.stage call).outcome? = some outcome →
    ∃ moment, IsCommitted settings s call outcome moment t

namespace Lone

theorem start (absent : s.stage call = .absent) : Lone settings s call s where
  way := ⟨[], nofun, rfl⟩
  later := Nat.le_refl _
  seen := by
    rw [absent]
    exact nofun
  exchanged := ⟨[], (List.append_nil _).symm, .idle (by rw [absent]; rfl)⟩
  kept _ := rfl
  committed := by
    rw [absent]
    exact nofun

/-- A step that leaves the memory alone, as far as it adds to the exchange what belongs there. -/
theorem go {more : List Event} {stage : Stage} (h : Lone settings s call t)
    (step : Step settings t action u) (is : IsLone call action)
    (open_ended : (t.stage call).outcome? = none) (memory : u.memory = t.memory)
    (log : u.log = t.log ++ more) (here : u.stage call = stage)
    (still : stage.outcome? = none)
    (seen : ∀ seen, stage.seen? = some seen → seen = s.memory.completed)
    (reached : ∀ events, Reached settings call (t.stage call) events →
      Reached settings call stage (events ++ more)) : Lone settings s call u where
  way := h.way.trans (.of_step step is)
  later := Nat.le_trans h.later (now_le_of_step step)
  seen := by
    rw [here]
    exact seen
  exchanged := by
    obtain ⟨events, before, at_stage⟩ := h.exchanged
    refine ⟨events ++ more, ?_, ?_⟩
    · rw [log, before, List.append_assoc]
    · rw [here]
      exact reached events at_stage
  kept _ := memory.trans (h.kept open_ended)
  committed := by
    rw [here, still]
    exact nofun

/-- A step on the way to the first request. -/
theorem move {stage : Stage} (h : Lone settings s call t) (step : Step settings t action u)
    (is : IsLone call action) (idle : (t.stage call).isIdle = true) (memory : u.memory = t.memory)
    (log : u.log = t.log) (here : u.stage call = stage) (still : stage.isIdle = true)
    (seen : ∀ seen, stage.seen? = some seen → seen = s.memory.completed) :
    Lone settings s call u := by
  refine h.go step is (Stage.outcome?_of_isIdle idle) memory (log.trans (List.append_nil _).symm)
    here (Stage.outcome?_of_isIdle still) seen fun events reached => ?_
  obtain rfl := reached.eq_nil idle
  exact .idle still

/-- Without a fresh token in the beginning there is none before the call commits one. -/
theorem stale (h : Lone settings s call t) (stale : s.memory.cache.valid? s.now = none)
    (open_ended : (t.stage call).outcome? = none) : t.memory.cache.valid? t.now = none := by
  rw [h.kept open_ended]
  exact TokenCache.valid?_eq_none_of_le stale h.later

/-- A step after the handshake of the call, which has been committed. -/
theorem conclude {stage : Stage} {outcome : Except SignInError String}
    (h : Lone settings s call t) (step : Step settings t action u) (is : IsLone call action)
    (result : (t.stage call).result? = some outcome) (log : u.log = t.log)
    (here : u.stage call = stage) (has : stage.outcome? = some outcome)
    (committed : ∃ moment, IsCommitted settings s call outcome moment u) : Lone settings s call u where
  way := h.way.trans (.of_step step is)
  later := Nat.le_trans h.later (now_le_of_step step)
  seen := by
    rw [here, Stage.seen?_of_outcome? has]
    exact nofun
  exchanged := by
    obtain ⟨events, before, reached⟩ := h.exchanged
    refine ⟨events, log.trans before, ?_⟩
    rw [here]
    exact reached.conclude result (Stage.result?_of_outcome? has)
  kept := by
    rw [here, has]
    exact nofun
  committed := by
    rw [here, has]
    rintro _ ⟨⟩
    exact committed

/-- Every step preserves the invariant. -/
theorem step (h : Lone settings s call t) (none_fresh : s.memory.cache.valid? s.now = none)
    (is : IsLone call action) (step : Step settings t action u) : Lone settings s call u := by
  have kind := is
  rcases is with mine | ⟨time, rfl⟩
  · cases step with
    | begin stage =>
      cases mine
      exact h.move (.begin stage) kind (by rw [stage]; rfl) rfl rfl (stage_place_self ..) rfl nofun
    | serve stage fresh =>
      cases mine
      have none := h.stale none_fresh (by rw [stage]; rfl)
      exact nomatch none.symm.trans fresh
    | miss stage none =>
      cases mine
      exact h.move (.miss stage none) kind (by rw [stage]; rfl) rfl rfl (stage_place_self ..) rfl
        nofun
    | count stage =>
      cases mine
      refine h.move (.count stage) kind (by rw [stage]; rfl) rfl rfl (stage_place_self ..) rfl ?_
      rintro _ ⟨⟩
      rw [h.kept (by rw [stage]; rfl)]
    | queue stage =>
      cases mine
      refine h.move (.queue stage) kind (by rw [stage]; rfl) rfl rfl (stage_place_self ..) rfl ?_
      rintro _ ⟨⟩
      exact h.seen _ (by rw [stage]; rfl)
    | enter stage first =>
      cases mine
      refine h.move (.enter stage first) kind (by rw [stage]; rfl) rfl rfl (stage_place_self ..)
        rfl ?_
      rintro _ ⟨⟩
      exact h.seen _ (by rw [stage]; rfl)
    | tell stage known =>
      cases mine
      -- the count is still the one that the call took, and nothing has been cached
      have none := h.stale none_fresh (by rw [stage]; rfl)
      have counted := h.seen _ (by rw [stage]; rfl)
      rw [counted, ← h.kept (by rw [stage]; rfl), Memory.known?_completed _ _ none] at known
      exact nomatch known
    | resolve stage unknown =>
      cases mine
      exact h.move (.resolve stage unknown) kind (by rw [stage]; rfl) rfl rfl (stage_place_self ..)
        rfl nofun
    | ask stage =>
      cases mine
      refine h.go (.ask stage) kind (by rw [stage]; rfl) rfl rfl (stage_place_self ..) rfl nofun
        fun events reached => ?_
      obtain rfl := reached.eq_nil (by rw [stage]; rfl)
      exact .opening
    | grant stage granted =>
      cases mine
      refine h.go (.grant stage granted) kind (by rw [stage]; rfl) rfl rfl (stage_place_self ..)
        rfl nofun fun events reached => ?_
      rw [stage] at reached
      cases reached with
      | opening => exact .opened granted
      | idle idle => cases idle
      | concluded _ result => cases result
    | refuse stage refused =>
      cases mine
      refine h.go (.refuse stage refused) kind (by rw [stage]; rfl) rfl rfl (stage_place_self ..)
        rfl nofun fun events reached => ?_
      rw [stage] at reached
      cases reached with
      | opening => exact .concluded (Handshake.isRound_of_error refused) rfl
      | idle idle => cases idle
      | concluded _ result => cases result
    | exchange stage =>
      cases mine
      refine h.go (.exchange stage) kind (by rw [stage]; rfl) rfl rfl (stage_place_self ..) rfl
        nofun fun events reached => ?_
      rw [stage] at reached
      cases reached with
      | opened granted => exact .exchanging granted
      | idle idle => cases idle
      | concluded _ result => cases result
    | settle stage =>
      cases mine
      refine h.go (.settle stage) kind (by rw [stage]; rfl) rfl rfl (stage_place_self ..) rfl
        nofun fun events reached => ?_
      rw [stage] at reached
      cases reached with
      | exchanging granted => exact .concluded (Handshake.isRound_of_ok granted _) rfl
      | idle idle => cases idle
      | concluded _ result => cases result
    | commit stage =>
      cases mine
      have commit : Step settings t (.proceed call) _ := .commit stage
      refine h.conclude commit kind (by rw [stage]; rfl) rfl (stage_place_self ..) rfl
        ⟨t.now, ?_, t, _, h.way, stage, rfl, commit, ⟨[], nofun, rfl⟩⟩
      rw [← h.kept (by rw [stage]; rfl)]
      rfl
    | leave stage =>
      cases mine
      have leave : Step settings t (.proceed call) _ := .leave stage
      obtain ⟨moment, committed⟩ := h.committed _ (by rw [stage]; rfl)
      exact h.conclude leave kind (by rw [stage]; rfl) rfl (stage_place_self ..) rfl
        ⟨moment, committed.extend leave kind rfl⟩
    | drop pending =>
      cases mine
      refine h.go (.drop pending) kind (Stage.outcome?_of_isPending pending) rfl
        (List.append_nil _).symm (stage_place_self ..) rfl nofun fun events reached => ?_
      rw [List.append_nil]
      exact .dropped reached.begun
    | invalidate => cases mine
    | pass time => cases mine
  · have pass := step
    cases step with
    | pass =>
      refine ⟨h.way.trans (.of_step pass kind), Nat.le_trans h.later (now_le_of_step pass), h.seen,
        h.exchanged, h.kept, fun outcome has => ?_⟩
      obtain ⟨moment, committed⟩ := h.committed outcome has
      exact ⟨moment, committed.extend pass kind rfl⟩

theorem of_path (absent : s.stage call = .absent) (none_fresh : s.memory.cache.valid? s.now = none)
    (way : Path settings (IsLone call) s t) : Lone settings s call t := by
  obtain ⟨actions, lone, run⟩ := way
  exact run_induction (P := fun t => Lone settings s call t)
    (fun mem step h => h.step none_fresh (lone _ mem) step) run (start absent)

end Lone

/-! ## All or nothing -/

/-- A call that is the only one and finds no fresh token does a round. Wherever it is, it has exchanged
the beginning of one; if it is given up, the memory is as it was; and if it ends, it has the outcome of
the round, and the memory differs from before by what it has committed. Any two answers decide on one
round, and with them the call can go on to that end. A token is asked for exactly after an answer that
grants a session, and then the body of the other answer holds the token or lacks it. -/
theorem handshake_is_all_or_nothing (absent : s.stage call = .absent) (free : s.gate = [])
    (none_fresh : s.memory.cache.valid? s.now = none) :
    (∀ t, Path settings (IsLone call) s t →
      (∃ events, t.log = s.log ++ events ∧ Begun settings call events) ∧
        (t.stage call = .dropped → t.memory = s.memory) ∧
        ∀ outcome, t.stage call = .finished outcome →
          (∃ round, IsRound settings round ∧ round.outcome = outcome ∧
            t.log = s.log ++ round.events call) ∧
          ∃ moment, IsCommitted settings s call outcome moment t ∧
            (∀ token, outcome = .ok token → t.memory.cache.entry = some ⟨token, moment⟩) ∧
            ∀ e, outcome = .error e → t.memory.cache = s.memory.cache) ∧
      (∀ first second, ∃ round, IsRound settings round ∧ round.replies <+: [first, second] ∧
        (∀ other, IsRound settings other → other.replies <+: [first, second] → other = round) ∧
        Ends settings (s.place call .arrived) call round.replies round.requests round.outcome
          (s.memory.commit s.now round.outcome)) ∧
      (∀ round, IsRound settings round →
        ((∃ session, tokenRequest settings session ∈ round.requests) ↔
          ∃ reply session, round.replies.head? = some reply ∧ reply.Grants session)) ∧
      ∀ body,
        (∀ token, Handshake.tokenOfBody? body = some token ↔ Handshake.HoldsToken body token) ∧
          (Handshake.tokenOfBody? body = none ↔ Handshake.LacksToken body) := by
  refine ⟨fun t way => ?_, fun first second => ?_, fun round is => is.exchanges_iff,
    fun body => ⟨fun token => Handshake.tokenOfBody?_eq_some_iff,
      Handshake.tokenOfBody?_eq_none_iff⟩⟩
  · have lone := Lone.of_path absent none_fresh way
    obtain ⟨events, log, reached⟩ := lone.exchanged
    refine ⟨⟨events, log, reached.begun⟩, fun stage => lone.kept (by rw [stage]; rfl), ?_⟩
    intro outcome stage
    constructor
    · rw [stage] at reached
      cases reached with
      | concluded is result => exact ⟨_, is, (Option.some.inj result).symm, log⟩
      | idle idle => cases idle
    · obtain ⟨moment, committed⟩ := lone.committed outcome (by rw [stage]; rfl)
      refine ⟨moment, committed, ?_, ?_⟩
      · rintro token rfl
        rw [committed.1]
        rfl
      · rintro e rfl
        rw [committed.1]
        rfl
  · obtain ⟨round, is, taken⟩ := Handshake.exists_round_of_replies settings first second
    exact ⟨round, is, taken, fun other another also => another.eq_of_replies is also taken,
      ends_of_arrived is (stage_place_self ..) free none_fresh⟩

end Calls

namespace Sample

/-- Nobody is there, and the token that is cached is just too old. -/
def expired : Calls :=
  { Calls.initial settings with memory := ⟨⟨⟨60⟩, some ⟨"old", ⟨0⟩⟩⟩, none, 1⟩, now := ⟨60⟩ }

/-- A call whose session is refused after a while. -/
def unavailable : List Action :=
  [[.begin 0], steps 0 6, [.pass ⟨5⟩, .answer 0 (.ok (.new 503 "down"))], steps 0 2].flatten

end Sample

namespace Calls

/-- A handshake that fails leaves even a token in the cache that is too old. -/
theorem failure_keeps_expired_token :
    Sample.expired.stage 0 = .absent ∧ Sample.expired.gate = [] ∧
      Sample.expired.memory.cache.valid? Sample.expired.now = none ∧
      ∃ t, Sample.expired.run? Sample.settings Sample.unavailable = some t ∧
        t.stage 0 = .finished (.error (.sessionRefused (.refused 503 "down"))) ∧
        t.memory.cache.entry = some ⟨"old", ⟨0⟩⟩ := by
  have none_fresh : Sample.expired.memory.cache.valid? Sample.expired.now = none := by decide
  have ends : (Sample.expired.run? Sample.settings Sample.unavailable).map (·.outcome? 0) =
      some (some (.error (.sessionRefused (.refused 503 "down")))) := by
    decide +kernel
  obtain ⟨t, run, outcome⟩ := Option.map_eq_some_iff.mp ends
  have stage : t.stage 0 = .finished (.error (.sessionRefused (.refused 503 "down"))) := by
    unfold outcome? at outcome
    split at outcome
    · next stage =>
      rw [stage, Option.some.inj outcome]
    · exact nomatch outcome
  have lone : ∀ action ∈ Sample.unavailable, IsLone 0 action := by
    simp [Sample.unavailable, Sample.steps, IsLone, Action.call?]
  obtain ⟨way, _⟩ := handshake_is_all_or_nothing rfl rfl none_fresh
  obtain ⟨_, _, concluded⟩ := way t ⟨_, lone, run⟩
  obtain ⟨_, _, _, _, kept⟩ := concluded _ stage
  refine ⟨rfl, rfl, none_fresh, t, run, stage, ?_⟩
  rw [kept _ rfl]
  rfl

end Calls

end LoanGateway
