import LoanGateway.Proofs.Session.Gate
import LoanGateway.Proofs.Session.Rounds

/-!
# A call with nobody else

A call that finds nobody at the gate and is not disturbed has the outcome that the authenticator
has. It leaves the same memory behind and sends the same requests. If it finds no fresh token, it
does a round, and any round can be the one.

- `Calls.IsOf`: the actions of one call; `Calls.Goes`: actions of a call that gets some answers.
- `Calls.Ended`: what comes of a call that is not disturbed.
- `Calls.ends_of_arrived`: a call without a fresh token can do any round.
- `Calls.obtain_alone`: a call does what the authenticator does.
-/

namespace LoanGateway

open Handshake (Round IsRound)

/-- The answer that an action gives. -/
def Action.reply? : Action → Option Reply
  | answer _ reply => some reply
  | _ => none

namespace Calls

variable {settings : IdentitySettings}

/-- The action is a step of a call or an answer to it. -/
def IsOf (call : Nat) (action : Action) : Prop :=
  action = .proceed call ∨ ∃ reply, action = .answer call reply

/-- From one state to another by actions of a call, which gets these answers. -/
def Goes (settings : IdentitySettings) (call : Nat) (replies : List Reply) (s t : Calls) : Prop :=
  ∃ actions, (∀ action ∈ actions, IsOf call action) ∧
    actions.filterMap Action.reply? = replies ∧ s.run? settings actions = some t

namespace Goes

variable {s t u : Calls} {call : Nat} {replies : List Reply}

theorem nil : Goes settings call [] s s := ⟨[], nofun, rfl, rfl⟩

/-- One action before others. -/
theorem cons {action : Action} (step : Step settings s action t) (is : IsOf call action)
    (rest : Goes settings call replies t u) :
    Goes settings call (action.reply?.toList ++ replies) s u := by
  obtain ⟨actions, mine, answers, run⟩ := rest
  refine ⟨action :: actions, List.forall_mem_cons.mpr ⟨is, mine⟩, ?_,
    run?_cons_eq_some_iff.mpr ⟨t, step, run⟩⟩
  rcases is with rfl | ⟨reply, rfl⟩
  · exact answers
  · exact congrArg (reply :: ·) answers

theorem path (goes : Goes settings call replies s t) : Path settings (IsOf call) s t := by
  obtain ⟨actions, mine, _, run⟩ := goes
  exact ⟨actions, mine, run⟩

end Goes

/-- A call has ended, and nobody is at the gate. Nothing else has changed but the memory, and some
requests were sent. -/
structure Ended (s : Calls) (call : Nat) (outcome : Except SignInError String) (memory : Memory)
    (requests : List Request) (t : Calls) : Prop where
  stage : t.stage call = .finished outcome
  memory : t.memory = memory
  now : t.now = s.now
  gate : t.gate = []
  others : ∀ other, other ≠ call → t.stage other = s.stage other
  requests : t.requests = s.requests ++ requests

/-- A call that gets these answers goes on to its end. -/
def Ends (settings : IdentitySettings) (s : Calls) (call : Nat) (replies : List Reply)
    (requests : List Request) (outcome : Except SignInError String) (memory : Memory) : Prop :=
  ∃ t, Goes settings call replies s t ∧ Ended s call outcome memory requests t

namespace Ends

variable {s t : Calls} {call : Nat} {outcome : Except SignInError String} {memory : Memory}
  {replies : List Reply} {requests : List Request}

/-- The end of a call after an action of it. -/
theorem after {action : Action} (sent : List Request) (step : Step settings s action t)
    (is : IsOf call action) (ends : Ends settings t call replies requests outcome memory)
    (now : t.now = s.now) (others : ∀ other, other ≠ call → t.stage other = s.stage other)
    (asked : t.requests = s.requests ++ sent) :
    Ends settings s call (action.reply?.toList ++ replies) (sent ++ requests) outcome memory := by
  obtain ⟨u, goes, ended⟩ := ends
  refine ⟨u, goes.cons step is, ended.stage, ended.memory, ended.now.trans now, ended.gate, ?_, ?_⟩
  · intro other ne
    rw [ended.others other ne, others other ne]
  · rw [ended.requests, asked, List.append_assoc]

/-- The end of a call after a step that only moves it on, and perhaps to the gate. -/
theorem moved {gate : List Nat} {stage : Stage}
    (ends : Ends settings t call replies requests outcome memory)
    (moves : t = { s with gate }.place call stage) (step : Step settings s (.proceed call) t) :
    Ends settings s call replies requests outcome memory := by
  subst moves
  exact ends.after [] step (.inl rfl) rfl (fun _ ne => stage_place_of_ne _ _ _ _ ne)
    (List.append_nil _).symm

end Ends

variable {s : Calls} {call : Nat}

/-- A call that has its outcome leaves the gate, where nobody waits. -/
theorem ends_of_leaving {outcome : Except SignInError String}
    (stage : s.stage call = .leaving outcome) (first : s.gate = [call]) :
    Ends settings s call [] [] outcome s.memory := by
  have leave : Step settings s (.proceed call) _ := .leave stage
  refine ⟨_, Goes.nil.cons leave (.inl rfl), stage_place_self .., rfl, rfl, ?_, ?_, ?_⟩
  · show s.gate.filter (· ≠ call) = []
    rw [first]
    simp
  · exact fun _ ne => stage_place_of_ne _ _ _ _ ne
  · exact (List.append_nil _).symm

theorem requests_sent (s : Calls) (call other : Nat) (request : Request) (stage : Stage) :
    ((s.record (.sent other request)).place call stage).requests = s.requests ++ [request] := by
  show (s.log ++ [_]).filterMap _ = _
  rw [List.filterMap_append]
  rfl

theorem requests_answered (s : Calls) (call other : Nat) (reply : Reply) (stage : Stage) :
    ((s.record (.answered other reply)).place call stage).requests = s.requests ++ [] := by
  show (s.log ++ [_]).filterMap _ = _
  rw [List.filterMap_append]
  rfl

/-- A handshake that is over is committed. -/
theorem ends_of_settled {outcome : Except SignInError String}
    (stage : s.stage call = .settled outcome) (first : s.gate = [call]) :
    Ends settings s call [] [] outcome (s.memory.commit s.now outcome) := by
  have commit : Step settings s (.proceed call) _ := .commit stage
  refine Ends.after [] commit (.inl rfl) ?_ rfl (fun _ ne => stage_place_of_ne _ _ _ _ ne)
    (List.append_nil _).symm
  exact ends_of_leaving (stage_place_self ..) first

/-- A call that has asked for a token gets an answer. -/
theorem ends_of_exchanging (stage : s.stage call = .exchanging) (first : s.gate = [call])
    (reply : Reply) :
    Ends settings s call [reply] [] (Handshake.tokenOf reply)
      (s.memory.commit s.now (Handshake.tokenOf reply)) := by
  have settle : Step settings s (.answer call reply) _ := .settle stage
  refine Ends.after [] settle (.inr ⟨reply, rfl⟩) ?_ rfl
    (fun _ ne => stage_place_of_ne _ _ _ _ ne) (requests_answered ..)
  exact ends_of_settled (stage_place_self ..) first

/-- A call that has got a session exchanges it. -/
theorem ends_of_opened {session : String} (stage : s.stage call = .opened session)
    (first : s.gate = [call]) (reply : Reply) :
    Ends settings s call [reply] [Handshake.tokenRequest settings session]
      (Handshake.tokenOf reply) (s.memory.commit s.now (Handshake.tokenOf reply)) := by
  have exchange : Step settings s (.proceed call) _ := .exchange stage
  refine Ends.after [_] exchange (.inl rfl) ?_ rfl (fun _ ne => stage_place_of_ne _ _ _ _ ne)
    (requests_sent ..)
  refine ends_of_exchanging (stage_place_self ..) ?_ reply
  exact first

/-- A call that is refused a session ends after one request. -/
theorem ends_of_refused (stage : s.stage call = .resolved) (first : s.gate = [call])
    {reply : Reply} {e : SignInError} (refused : Handshake.sessionOf reply = .error e) :
    Ends settings s call [reply] [Handshake.sessionRequest settings] (.error e)
      (s.memory.commit s.now (.error e)) := by
  have ask : Step settings s (.proceed call) _ := .ask stage
  refine Ends.after [_] ask (.inl rfl) ?_ rfl (fun _ ne => stage_place_of_ne _ _ _ _ ne)
    (requests_sent ..)
  refine Ends.after [] (.refuse (stage_place_self ..) refused) (.inr ⟨_, rfl⟩) ?_ rfl
    (fun _ ne => stage_place_of_ne _ _ _ _ ne) (requests_answered ..)
  exact ends_of_settled (stage_place_self ..) first

/-- A call that is granted a session ends after two requests. -/
theorem ends_of_granted (stage : s.stage call = .resolved) (first : s.gate = [call])
    {reply : Reply} {session : String} (granted : Handshake.sessionOf reply = .ok session)
    (next : Reply) :
    Ends settings s call [reply, next]
      [Handshake.sessionRequest settings, Handshake.tokenRequest settings session]
      (Handshake.tokenOf next) (s.memory.commit s.now (Handshake.tokenOf next)) := by
  have ask : Step settings s (.proceed call) _ := .ask stage
  refine Ends.after [_] ask (.inl rfl) ?_ rfl (fun _ ne => stage_place_of_ne _ _ _ _ ne)
    (requests_sent ..)
  refine Ends.after [] (.grant (stage_place_self ..) granted) (.inr ⟨_, rfl⟩) ?_ rfl
    (fun _ ne => stage_place_of_ne _ _ _ _ ne) (requests_answered ..)
  refine ends_of_opened (stage_place_self ..) ?_ next
  exact first

/-- A call that has a handshake to do can do any round. -/
theorem ends_of_resolved {round : Round} (is : IsRound settings round)
    (stage : s.stage call = .resolved) (first : s.gate = [call]) :
    Ends settings s call round.replies round.requests round.outcome
      (s.memory.commit s.now round.outcome) := by
  rcases is.parts with ⟨reply, e, refused, rfl⟩ | ⟨reply, next, session, granted, rfl⟩
  · exact ends_of_refused stage first refused
  · exact ends_of_granted stage first granted next

/-- A call that has just come can do any round if nobody is at the gate and no token is fresh. -/
theorem ends_of_arrived {round : Round} (is : IsRound settings round)
    (stage : s.stage call = .arrived) (free : s.gate = [])
    (stale : s.memory.cache.valid? s.now = none) :
    Ends settings s call round.replies round.requests round.outcome
      (s.memory.commit s.now round.outcome) := by
  have unknown := s.memory.known?_completed s.now stale
  -- from the cache to the gate, and past it
  refine .moved ?_ rfl (.miss stage stale)
  refine .moved ?_ rfl (.count (stage_place_self ..))
  refine .moved ?_ rfl (.queue (stage_place_self ..))
  refine .moved ?_ rfl (.enter (stage_place_self ..) ?_)
  refine .moved ?_ rfl (.resolve (stage_place_self ..) unknown)
  refine ends_of_resolved is (stage_place_self ..) ?_
  · show s.gate ++ [call] = [call]
    rw [free]
    rfl
  · show (s.gate ++ [call]).head? = some call
    rw [free]
    rfl

/-- A call that finds nobody at the gate and is not disturbed does what the authenticator does. -/
theorem obtain_alone {a : Authenticator} (stage : s.stage call = .arrived) (free : s.gate = [])
    (memory : s.memory = a.memory) (now : s.now = a.now) :
    ∃ requests t, a.obtain.2.wire.sent = a.wire.sent ++ requests ∧
      Path a.settings (IsOf call) s t ∧
      Ended s call a.obtain.1 a.obtain.2.memory requests t := by
  cases fresh : a.memory.cache.valid? a.now with
  | some token =>
    rw [Authenticator.obtain_of_valid a token fresh]
    rw [← memory, ← now] at fresh
    have serve : Step a.settings s (.proceed call) _ := .serve stage fresh
    refine ⟨[], _, (List.append_nil _).symm, .of_step serve (.inl rfl), ?_⟩
    exact ⟨stage_place_self .., memory, rfl, free, fun _ ne => stage_place_of_ne _ _ _ _ ne,
      (List.append_nil _).symm⟩
  | none =>
    obtain ⟨round, is, _, performs⟩ := Handshake.exists_round a.settings a.wire
    rw [Authenticator.obtain_of_none fresh, performs]
    rw [← memory, ← now] at fresh ⊢
    obtain ⟨t, goes, ended⟩ := ends_of_arrived is stage free fresh
    exact ⟨round.requests, t, rfl, goes.path, ended⟩

end Calls

end LoanGateway
