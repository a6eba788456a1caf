import LoanGateway.Proofs.Http.Headers
import LoanGateway.Proofs.Session.Gate

/-!
# The traffic with the identity provider comes in blocks

However calls are interleaved and wherever they are given up, what is exchanged with the identity
provider is one handshake after another: a block of the log belongs to one call, and it is a request
for a session, perhaps with its answer, or these two followed at once by the request for a token,
perhaps with its answer.

- `OpensSession`, `BuysToken`: what the two requests of a handshake look like.
- `Calls.Block`: the blocks of a log.
- `Calls.Blocked`: the invariant: the log is a list of blocks, and the last one is that of the call
  whose handshake is under way.
- `Calls.handshakes_one_at_a_time`: the main statement.
-/

namespace LoanGateway

/-- A request for a session. -/
structure OpensSession (settings : IdentitySettings) (request : Request) : Prop where
  method : request.method = .post
  url : request.url = settings.sessionsUrl.text

/-- A request for a token in exchange for a session. It names the session in its cookie, unless the
key of the settings is sent under that very name. -/
structure BuysToken (settings : IdentitySettings) (session : String) (request : Request) :
    Prop where
  method : request.method = .get
  url : request.url = settings.tokenUrl.text
  cookie : Text.lowercaseString settings.apiKeyHeader ≠ "cookie" →
    request.header? "cookie" = some (sessionHeader session)

/-- The answer to a request for a session grants it. -/
structure GrantsSession (response : Response) (session : String) : Prop where
  success : response.isSuccess = true
  named : sessionId? (response.headerValues "set-cookie") = some session

namespace Handshake

theorem opensSession_sessionRequest (settings : IdentitySettings) :
    OpensSession settings (sessionRequest settings) := ⟨rfl, rfl⟩

/-- The key is set after the cookie, so that only a key under the name of the cookie replaces it. -/
theorem buysToken_tokenRequest (settings : IdentitySettings) (session : String) :
    BuysToken settings session (tokenRequest settings session) where
  method := rfl
  url := rfl
  cookie other := by
    -- headers are looked up by lowercase names
    have name : Text.lowercaseString "cookie" = "cookie" := by decide
    have cookie (r : Request) :
        (r.header "cookie" (sessionHeader session)).header? "cookie" =
          some (sessionHeader session) := by
      have found := r.header?_header_self "cookie" (sessionHeader session)
      rwa [name] at found
    unfold tokenRequest
    rw [Request.header?_withTimeout, Request.header?_header_of_ne _ other, cookie]

/-- A session comes from a successful answer that names it. -/
theorem grantsSession_of_sessionOf {reply : Reply} {session : String}
    (h : sessionOf reply = .ok session) :
    ∃ response, reply = .ok response ∧ GrantsSession response session := by
  cases reply with
  | error fault => cases h
  | ok response =>
    refine ⟨response, rfl, ?_⟩
    simp only [sessionOf, Reply.accepted] at h
    split at h
    · cases h
    · rename_i accepted
      split at accepted
      · rename_i success
        cases accepted
        split at h
        · cases h
          exact ⟨success, ‹_›⟩
        · cases h
      · cases accepted

end Handshake

namespace Stage

/-- Whether the handshake of a call has begun and waits for the identity provider or is about to
ask it again. -/
def isUnderWay : Stage → Bool
  | opening | opened _ | exchanging => true
  | _ => false

/-- Whether a call may have sent a request. -/
def mayHaveAsked : Stage → Bool
  | opening | opened _ | exchanging | settled _ | leaving _ | finished _ | dropped => true
  | _ => false

theorem holdsGate_of_mayHaveAsked {stage : Stage} (asked : stage.mayHaveAsked = true)
    (going : stage.isOver = false) : stage.holdsGate = true := by
  cases stage <;> simp_all [mayHaveAsked, isOver, holdsGate]

theorem holdsGate_of_isUnderWay {stage : Stage} (h : stage.isUnderWay = true) :
    stage.holdsGate = true := by
  cases stage <;> simp_all [isUnderWay, holdsGate]

end Stage

namespace Calls

variable {settings : IdentitySettings}

/-! ## Blocks -/

/-- What one call exchanges with the identity provider, as far as it comes. -/
inductive Block (settings : IdentitySettings) (call : Nat) : List Event → Prop
  | asked {request : Request} (opens : OpensSession settings request) :
      Block settings call [.sent call request]
  | answered {request : Request} (opens : OpensSession settings request) (reply : Reply) :
      Block settings call [.sent call request, .answered call reply]
  | exchanged {request exchange : Request} {response : Response} {session : String}
      (opens : OpensSession settings request) (grants : GrantsSession response session)
      (buys : BuysToken settings session exchange) :
      Block settings call [.sent call request, .answered call (.ok response), .sent call exchange]
  | completed {request exchange : Request} {response : Response} {session : String}
      (opens : OpensSession settings request) (grants : GrantsSession response session)
      (buys : BuysToken settings session exchange) (reply : Reply) :
      Block settings call [.sent call request, .answered call (.ok response), .sent call exchange,
        .answered call reply]

/-- The block of a call whose handshake is under way. -/
inductive Current (settings : IdentitySettings) (call : Nat) : Stage → List Event → Prop
  | opening {request : Request} (opens : OpensSession settings request) :
      Current settings call .opening [.sent call request]
  | opened {request : Request} {response : Response} {session : String}
      (opens : OpensSession settings request) (grants : GrantsSession response session) :
      Current settings call (.opened session) [.sent call request, .answered call (.ok response)]
  | exchanging {request exchange : Request} {response : Response} {session : String}
      (opens : OpensSession settings request) (grants : GrantsSession response session)
      (buys : BuysToken settings session exchange) :
      Current settings call .exchanging
        [.sent call request, .answered call (.ok response), .sent call exchange]

/-- The log is a list of blocks, and the last one is that of the call under way. -/
structure Blocked (settings : IdentitySettings) (s : Calls) (blocks : List (List Event)) :
    Prop where
  log : s.log = blocks.flatten
  block : ∀ b ∈ blocks, ∃ call, Block settings call b
  current : ∀ call, (s.stage call).isUnderWay = true →
    ∃ front last, blocks = front ++ [last] ∧ Current settings call (s.stage call) last

namespace Blocked

theorem initial : Blocked settings (initial settings) [] where
  log := rfl
  block _ mem := nomatch mem
  current _ underWay := nomatch underWay

/-- Steps without traffic after which nobody is newly under way. -/
theorem keep {s t : Calls} {blocks : List (List Event)} (h : Blocked settings s blocks)
    (log : t.log = s.log)
    (stage : ∀ call, (t.stage call).isUnderWay = true → t.stage call = s.stage call) :
    Blocked settings t blocks where
  log := log.trans h.log
  block := h.block
  current call underWay := by
    have same := stage call underWay
    rw [same] at underWay ⊢
    exact h.current call underWay

/-- `keep` for a call that moves on. -/
theorem place {s : Calls} {blocks : List (List Event)} (h : Blocked settings s blocks) {call : Nat}
    {stage : Stage} (idle : stage.isUnderWay = false) :
    Blocked settings (s.place call stage) blocks := by
  refine h.keep rfl (place_cases
    (P := fun other there => there.isUnderWay = true → there = s.stage other) ?_ fun _ _ _ => rfl)
  intro underWay
  rw [idle] at underWay
  cases underWay

/-- A handshake begins with a block of its own. -/
theorem start {s : Calls} {blocks : List (List Event)} (h : Blocked settings s blocks) {call : Nat}
    {request : Request} (opens : OpensSession settings request)
    (alone : ∀ other, other ≠ call → (s.stage other).isUnderWay = false) :
    Blocked settings ((s.record (.sent call request)).place call .opening)
      (blocks ++ [[.sent call request]]) where
  log := by
    show s.log ++ [_] = _
    rw [h.log, List.flatten_append]
    rfl
  block b mem := by
    rcases List.mem_append.mp mem with old | new
    · exact h.block b old
    · rw [List.mem_singleton.mp new]
      exact ⟨call, .asked opens⟩
  current := by
    refine place_cases (s := s.record (.sent call request)) (P := fun other there =>
      there.isUnderWay = true → ∃ front last, blocks ++ [[.sent call request]] = front ++ [last] ∧
        Current settings other there last) ?_ ?_
    · exact fun _ => ⟨blocks, _, rfl, .opening opens⟩
    · exact fun other ne underWay => nomatch underWay.symm.trans (alone other ne)

/-- The block of the call under way grows by an event. -/
theorem grow {s : Calls} {blocks : List (List Event)} (h : Blocked settings s blocks) {call : Nat}
    {stage : Stage} {event : Event} (underWay : (s.stage call).isUnderWay = true)
    (alone : ∀ other, other ≠ call → (s.stage other).isUnderWay = false)
    (block : ∀ last, Current settings call (s.stage call) last →
      Block settings call (last ++ [event]))
    (current : ∀ last, Current settings call (s.stage call) last → stage.isUnderWay = true →
      Current settings call stage (last ++ [event])) :
    ∃ longer, Blocked settings ((s.record event).place call stage) longer := by
  -- the last block is that of the call, so the log grows where the block does
  obtain ⟨front, last, rfl, here⟩ := h.current call underWay
  refine ⟨front ++ [last ++ [event]], ?_, ?_, ?_⟩
  · show s.log ++ [event] = _
    simp [h.log]
  · intro b mem
    rcases List.mem_append.mp mem with old | new
    · exact h.block b (List.mem_append_left _ old)
    · rw [List.mem_singleton.mp new]
      exact ⟨call, block last here⟩
  · refine place_cases (s := s.record event) (P := fun other there =>
      there.isUnderWay = true → ∃ init final, front ++ [last ++ [event]] = init ++ [final] ∧
        Current settings other there final) ?_ ?_
    · exact fun busy => ⟨front, _, rfl, current last here busy⟩
    · exact fun other ne busy => nomatch busy.symm.trans (alone other ne)

end Blocked

/-- Past the gate, nobody else is under way. -/
theorem Gated.alone {s : Calls} (h : Gated s) {call : Nat} (holds : (s.stage call).holdsGate = true)
    (other : Nat) (ne : other ≠ call) : (s.stage other).isUnderWay = false := by
  rw [Bool.eq_false_iff]
  exact fun underWay => ne (h.eq_of_holdsGate (Stage.holdsGate_of_isUnderWay underWay) holds)

/-- Every step preserves that the log is a list of blocks. -/
theorem blocked_step {s t : Calls} {action : Action} (step : Step settings s action t)
    (gated : Gated s) (h : ∃ blocks, Blocked settings s blocks) :
    ∃ blocks, Blocked settings t blocks := by
  obtain ⟨blocks, h⟩ := h
  have alone {call : Nat} {stage : Stage} (eq : s.stage call = stage)
      (holds : stage.holdsGate = true) :
      ∀ other, other ≠ call → (s.stage other).isUnderWay = false := by
    rw [← eq] at holds
    exact gated.alone holds
  cases step with
  | begin _ => exact ⟨_, h.place rfl⟩
  | serve _ _ => exact ⟨_, h.place rfl⟩
  | miss _ _ => exact ⟨_, h.place rfl⟩
  | count _ => exact ⟨_, h.place rfl⟩
  | queue _ =>
    refine ⟨blocks, .place ?_ rfl⟩
    exact h.keep rfl fun _ _ => rfl
  | enter _ _ => exact ⟨_, h.place rfl⟩
  | tell _ _ => exact ⟨_, h.place rfl⟩
  | resolve _ _ => exact ⟨_, h.place rfl⟩
  | ask stage =>
    exact ⟨_, h.start (Handshake.opensSession_sessionRequest settings) (alone stage rfl)⟩
  -- from here on the block of the call under way is known from its stage
  | grant stage granted =>
    obtain ⟨response, rfl, grants⟩ := Handshake.grantsSession_of_sessionOf granted
    refine h.grow (by rw [stage]; rfl) (alone stage rfl) (fun last here => ?_)
      fun last here _ => ?_
    all_goals
      rw [stage] at here
      cases here with | opening opens => ?_
    · exact .answered opens _
    · exact .opened opens grants
  | refuse stage _ =>
    refine h.grow (by rw [stage]; rfl) (alone stage rfl) (fun last here => ?_) nofun
    rw [stage] at here
    cases here with | opening opens => exact .answered opens _
  | exchange stage =>
    refine h.grow (by rw [stage]; rfl) (alone stage rfl) (fun last here => ?_)
      fun last here _ => ?_
    all_goals
      rw [stage] at here
      cases here with | opened opens grants => ?_
    · exact .exchanged opens grants (Handshake.buysToken_tokenRequest settings _)
    · exact .exchanging opens grants (Handshake.buysToken_tokenRequest settings _)
  | settle stage =>
    refine h.grow (by rw [stage]; rfl) (alone stage rfl) (fun last here => ?_) nofun
    rw [stage] at here
    cases here with | exchanging opens grants buys => exact .completed opens grants buys _
  | commit _ =>
    refine ⟨blocks, .place ?_ rfl⟩
    exact h.keep rfl fun _ _ => rfl
  | leave _ =>
    refine ⟨blocks, .place ?_ rfl⟩
    exact h.keep rfl fun _ _ => rfl
  | drop _ =>
    refine ⟨blocks, .place ?_ rfl⟩
    exact h.keep rfl fun _ _ => rfl
  | invalidate => exact ⟨_, h.keep rfl fun _ _ => rfl⟩
  | pass _ => exact ⟨_, h.keep rfl fun _ _ => rfl⟩

theorem Reachable.blocked {s : Calls} (h : Reachable settings s) :
    ∃ blocks, Blocked settings s blocks := by
  -- the invariant of the gate carries that of the blocks
  have both : Gated s ∧ ∃ blocks, Blocked settings s blocks :=
    h.induction (P := fun s => Gated s ∧ ∃ blocks, Blocked settings s blocks)
      ⟨Gated.initial, [], Blocked.initial⟩
      fun step ⟨gated, blocked⟩ => ⟨gated_step step gated, blocked_step step gated blocked⟩
  exact both.2

/-! ## Who has asked -/

/-- Only calls that are past asking have sent requests. -/
def Asked (s : Calls) : Prop :=
  ∀ call request, .sent call request ∈ s.log → (s.stage call).mayHaveAsked = true

namespace Asked

theorem keep {s t : Calls} (h : Asked s) (log : t.log = s.log) (stage : t.stage = s.stage) :
    Asked t := by
  intro call request mem
  rw [stage]
  exact h call request (log ▸ mem)

/-- A call that may have asked before may have asked afterwards. -/
theorem place {s : Calls} (h : Asked s) {call : Nat} {stage : Stage}
    (still : (s.stage call).mayHaveAsked = true → stage.mayHaveAsked = true) :
    Asked (s.place call stage) :=
  place_cases
    (P := fun other there =>
      ∀ request, Event.sent other request ∈ s.log → there.mayHaveAsked = true)
    (fun request mem => still (h call request mem)) fun other _ => h other

/-- A call that has just exchanged something may have asked. -/
theorem record {s : Calls} (h : Asked s) {call : Nat} {stage : Stage} {event : Event}
    (own : ∀ other request, event = .sent other request → other = call)
    (asked : stage.mayHaveAsked = true) : Asked ((s.record event).place call stage) := by
  refine place_cases (s := s.record event) (P := fun other there =>
    ∀ request, Event.sent other request ∈ s.log ++ [event] → there.mayHaveAsked = true)
    (fun _ _ => asked) ?_
  intro other ne request mem
  rcases List.mem_append.mp mem with old | new
  · exact h other request old
  · exact absurd (own other request (List.mem_singleton.mp new).symm) ne

end Asked

theorem asked_step {s t : Calls} {action : Action} (step : Step settings s action t)
    (h : Asked s) : Asked t := by
  have never {call : Nat} {stage new : Stage} (eq : s.stage call = stage)
      (fresh : stage.mayHaveAsked = false) (asked : (s.stage call).mayHaveAsked = true) :
      new.mayHaveAsked = true := by
    rw [eq, fresh] at asked
    cases asked
  have sent {call : Nat} {request : Request} :
      ∀ other another, Event.sent call request = .sent other another → other = call := by
    rintro _ _ ⟨⟩
    rfl
  have remembered (memory : Memory) : Asked { s with memory } := h.keep rfl rfl
  have lined (gate : List Nat) : Asked { s with gate } := h.keep rfl rfl
  cases step with
  | begin stage => exact h.place (never stage rfl)
  | serve _ _ => exact h.place fun _ => rfl
  | miss stage _ => exact h.place (never stage rfl)
  | count stage => exact h.place (never stage rfl)
  | queue stage => exact (lined _).place (never stage rfl)
  | enter stage _ => exact h.place (never stage rfl)
  | tell _ _ => exact h.place fun _ => rfl
  | resolve stage _ => exact h.place (never stage rfl)
  | ask _ => exact h.record sent rfl
  | grant _ _ => exact h.record nofun rfl
  | refuse _ _ => exact h.record nofun rfl
  | exchange _ => exact h.record sent rfl
  | settle _ => exact h.record nofun rfl
  | commit _ => exact (remembered _).place fun _ => rfl
  | leave _ => exact (lined _).place fun _ => rfl
  | drop _ => exact (lined _).place fun _ => rfl
  | invalidate => exact remembered _
  | pass _ => exact h.keep rfl rfl

theorem Reachable.asked {s : Calls} (h : Reachable settings s) : Asked s :=
  h.induction nofun asked_step

/-! ## One handshake at a time -/

/-- A call is between its first request to the identity provider and its end. -/
def IsHandshaking (s : Calls) (call : Nat) : Prop :=
  (∃ request, .sent call request ∈ s.log) ∧ (s.stage call).isOver = false

/-- In every reachable state at most one call is busy with a handshake, and what was exchanged with
the identity provider so far, requests and answers, is a list of blocks, each of one call. -/
theorem handshakes_one_at_a_time (settings : IdentitySettings) (actions : List Action) (s : Calls)
    (run : (initial settings).run? settings actions = some s) :
    (∀ c d, s.IsHandshaking c → s.IsHandshaking d → c = d) ∧
      ∃ blocks : List (List Event), s.log = blocks.flatten ∧
        s.requests = blocks.flatMap (List.filterMap Event.request?) ∧
        ∀ b ∈ blocks, ∃ call, Block settings call b := by
  have reachable : Reachable settings s := ⟨actions, run⟩
  constructor
  · rintro c d ⟨⟨_, hc⟩, goingC⟩ ⟨⟨_, hd⟩, goingD⟩
    have holds := Stage.holdsGate_of_mayHaveAsked (reachable.asked c _ hc) goingC
    exact reachable.gated.eq_of_holdsGate holds
      (Stage.holdsGate_of_mayHaveAsked (reachable.asked d _ hd) goingD)
  · obtain ⟨blocks, blocked⟩ := reachable.blocked
    refine ⟨blocks, blocked.log, ?_, blocked.block⟩
    rw [requests, blocked.log, List.filterMap_flatten]
    rfl

end Calls

/-- The first of two calls is given up after its request, and the second one goes on. -/
def Sample.interrupted : List Action :=
  [[.begin 0, .begin 1], steps 0 6, steps 1 3, [.drop 0], steps 1 3,
    [.answer 1 granted, .proceed 1]].flatten

namespace Calls

/-- The first of two calls is given up after its request, and the second one is exchanging the
session that it got for a token: three requests in two blocks. -/
theorem handshakes_of_two_calls :
    ∃ s, (initial Sample.settings).run? Sample.settings Sample.interrupted = some s ∧
      s.requests.length = 3 ∧ (∀ c d, s.IsHandshaking c → s.IsHandshaking d → c = d) ∧
      ∃ blocks : List (List Event), s.log = blocks.flatten ∧
        s.requests = blocks.flatMap (List.filterMap Event.request?) ∧
        ∀ b ∈ blocks, ∃ call, Block Sample.settings call b := by
  have ends : ((initial Sample.settings).run? Sample.settings Sample.interrupted).map
      (·.requests.length) = some 3 := by decide +kernel
  obtain ⟨s, run, count⟩ := Option.map_eq_some_iff.mp ends
  exact ⟨s, run, count, handshakes_one_at_a_time _ _ s run⟩

end Calls

end LoanGateway
