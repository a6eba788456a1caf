import LoanGateway.Proofs.Backend.Meaning
import LoanGateway.Session.Authenticator

/-!
# Handshakes as rounds

A handshake is a round of one or two answers. The first answer names a session or ends the round, and
with a session the second answer decides. Whether another round may go better can be seen from the
answers: from a lost connection, from an answer that came too late, and from a status that says so.

- `Wire.next`, `Wire.upcoming`: the answer to the next request, and those to the next requests.
- `Reply.IsPassing`: the answers after which another attempt may go better.
- `Handshake.Round`, `Handshake.IsRound`: rounds, and all kinds of them.
- `Handshake.exists_round`: every handshake is a round of the next answers.
- `Handshake.IsRound.isPassing_iff`: a round failed for a while exactly if one of its answers did.
-/

namespace LoanGateway

namespace Wire

/-- The answer to the next request, whatever it asks for. -/
def next (w : Wire) : Reply := w.replies.head?.getD exhausted

/-- The answers to the next requests: those that are queued, and then failures to connect. -/
def upcoming (w : Wire) (count : Nat) : List Reply :=
  (List.range count).map fun i => w.replies[i]?.getD exhausted

/-- The wire after some answers were taken and some requests were sent. -/
def after (w : Wire) (taken : List Reply) (requests : List Request) : Wire :=
  ⟨w.replies.drop taken.length, w.sent ++ requests⟩

theorem after_after (w : Wire) (taken more : List Reply) (requests others : List Request) :
    (w.after taken requests).after more others = w.after (taken ++ more) (requests ++ others) := by
  show (⟨(w.replies.drop taken.length).drop more.length, (w.sent ++ requests) ++ others⟩ : Wire) = _
  rw [List.drop_drop, ← List.length_append, List.append_assoc]
  rfl

/-- The answers to more requests are those to some of them, and then those to the rest. -/
theorem upcoming_add (w : Wire) (taken : List Reply) (requests : List Request) (more : Nat) :
    w.upcoming (taken.length + more) =
      w.upcoming taken.length ++ (w.after taken requests).upcoming more := by
  unfold upcoming
  rw [List.range_add, List.map_append, List.map_map]
  refine congrArg (_ ++ ·) (List.map_congr_left fun i _ => ?_)
  show w.replies[taken.length + i]?.getD exhausted =
    (w.replies.drop taken.length)[i]?.getD exhausted
  rw [List.getElem?_drop]

theorem upcoming_one (w : Wire) : w.upcoming 1 = [w.next] := by
  show [w.replies[0]?.getD exhausted] = [w.replies.head?.getD exhausted]
  rw [List.head?_eq_getElem?]

/-- A request takes the next answer. -/
theorem send_eq (w : Wire) (request : Request) :
    w.send request = (w.next, w.after [w.next] [request]) := by
  show (_, (⟨w.replies.tail, w.sent ++ [request]⟩ : Wire)) = _
  rw [← List.drop_one]
  rfl

end Wire

/-! ## Answers that may be better next time -/

namespace Reply

/-- The answers after which another attempt may go better. -/
inductive IsPassing : Reply → Prop
  | connection (reason : String) : IsPassing (.error (.connectionFailed reason))
  | timeout (limit : Duration) : IsPassing (.error (.timeout limit))
  | busy {response : Response} (status : response.status = 429) : IsPassing (.ok response)
  | server {response : Response} (status : 500 ≤ response.status) : IsPassing (.ok response)

/-- A failure is transient exactly if the answer is of this kind. -/
theorem isPassing_iff_of_fails {reply : Reply} {failure : ExchangeFailure}
    (fails : reply.Fails failure) : reply.IsPassing ↔ failure.isTransient = true := by
  cases fails with
  | @refused response status =>
    have transient_iff : (ExchangeFailure.refused response.status response.body).isTransient = true ↔
        500 ≤ response.status ∨ response.status = 429 := by
      simp [ExchangeFailure.isTransient]
    rw [transient_iff]
    constructor
    · intro passing
      cases passing with
      | busy status => exact .inr status
      | server status => exact .inl status
    · rintro (server | busy)
      · exact .server server
      · exact .busy busy
  | unanswered fault =>
    constructor
    · intro passing
      cases passing with
      | connection => rfl
      | timeout => rfl
    · intro transient
      cases fault with
      | connectionFailed reason => exact .connection reason
      | timeout limit => exact .timeout limit
      | tooManyRedirects => cases transient
      | requestFailed => cases transient
      | invalidResponse => cases transient

/-- A success is not of this kind. -/
theorem not_isPassing_of_succeeds {reply : Reply} {response : Response}
    (succeeds : reply.Succeeds response) : ¬ reply.IsPassing := by
  obtain ⟨rfl, least, most⟩ := succeeds
  intro passing
  cases passing with
  | busy status => omega
  | server status => omega

end Reply

namespace Handshake

/-! ## Rounds -/

/-- A handshake: the answers that it takes, the requests that it sends, and what comes of it. -/
structure Round where
  replies : List Reply
  requests : List Request
  outcome : Except SignInError String

/-- Another round may go better: one of the answers says so. -/
def Round.IsPassing (round : Round) : Prop := ∃ reply ∈ round.replies, reply.IsPassing

/-- The kinds of rounds. A round ends with its first answer unless that is a success that names a
session, and then it ends with the second one. -/
inductive IsRound (s : IdentitySettings) : Round → Prop
  /-- The session is refused. -/
  | refused {reply : Reply} {failure : ExchangeFailure} (fails : reply.Fails failure) :
      IsRound s ⟨[reply], [sessionRequest s], .error (.sessionRefused failure)⟩
  /-- The answer names no session. -/
  | nameless {reply : Reply} {response : Response} (succeeds : reply.Succeeds response)
      (none : sessionId? (response.headerValues "set-cookie") = none) :
      IsRound s ⟨[reply], [sessionRequest s], .error .cookieMissing⟩
  /-- The token is refused. -/
  | denied {reply next : Reply} {response : Response} {session : String}
      {failure : ExchangeFailure} (succeeds : reply.Succeeds response)
      (named : sessionId? (response.headerValues "set-cookie") = some session)
      (fails : next.Fails failure) :
      IsRound s ⟨[reply, next], [sessionRequest s, tokenRequest s session],
        .error (.tokenRefused failure)⟩
  /-- The answer holds no token. -/
  | empty {reply next : Reply} {response answer : Response} {session : String}
      (succeeds : reply.Succeeds response)
      (named : sessionId? (response.headerValues "set-cookie") = some session)
      (answered : next.Succeeds answer) (none : tokenOfBody? answer.body = none) :
      IsRound s ⟨[reply, next], [sessionRequest s, tokenRequest s session], .error .tokenMissing⟩
  /-- The answer holds a token. -/
  | sold {reply next : Reply} {response answer : Response} {session token : String}
      (succeeds : reply.Succeeds response)
      (named : sessionId? (response.headerValues "set-cookie") = some session)
      (answered : next.Succeeds answer) (some : tokenOfBody? answer.body = some token) :
      IsRound s ⟨[reply, next], [sessionRequest s, tokenRequest s session], .ok token⟩

/-- What the first answer of a round is worth. -/
theorem sessionOf_cases (reply : Reply) :
    (∃ failure, reply.Fails failure ∧ sessionOf reply = .error (.sessionRefused failure)) ∨
      ∃ response, reply.Succeeds response ∧
        ((sessionId? (response.headerValues "set-cookie") = none ∧
            sessionOf reply = .error .cookieMissing) ∨
          ∃ session, sessionId? (response.headerValues "set-cookie") = some session ∧
            sessionOf reply = .ok session) := by
  unfold sessionOf
  cases accepted : reply.accepted with
  | error failure => exact .inl ⟨failure, Reply.accepted_eq_error_iff.mp accepted, rfl⟩
  | ok response =>
    refine .inr ⟨response, Reply.accepted_eq_ok_iff.mp accepted, ?_⟩
    dsimp only
    cases named : sessionId? (response.headerValues "set-cookie") with
    | none => exact .inl ⟨rfl, rfl⟩
    | some session => exact .inr ⟨session, rfl, rfl⟩

/-- A round with a session, whatever the second answer is worth. -/
theorem isRound_of_session (s : IdentitySettings) {reply next : Reply} {response : Response}
    {session : String} (succeeds : reply.Succeeds response)
    (named : sessionId? (response.headerValues "set-cookie") = some session) :
    IsRound s ⟨[reply, next], [sessionRequest s, tokenRequest s session], tokenOf next⟩ := by
  unfold tokenOf
  cases accepted : next.accepted with
  | error failure => exact .denied succeeds named (Reply.accepted_eq_error_iff.mp accepted)
  | ok answer =>
    have answered := Reply.accepted_eq_ok_iff.mp accepted
    dsimp only
    cases held : tokenOfBody? answer.body with
    | none => exact .empty succeeds named answered held
    | some token => exact .sold succeeds named answered held

theorem sessionOf_of_named {reply : Reply} {response : Response} {session : String}
    (succeeds : reply.Succeeds response)
    (named : sessionId? (response.headerValues "set-cookie") = some session) :
    sessionOf reply = .ok session := by
  have accepted := Reply.accepted_eq_ok_iff.mpr succeeds
  simp [sessionOf, accepted, named]

/-- A round ends with an answer that gives no session, or with the one after a session. -/
theorem IsRound.parts {s : IdentitySettings} {round : Round} (is : IsRound s round) :
    (∃ reply e, sessionOf reply = .error e ∧
        round = ⟨[reply], [sessionRequest s], .error e⟩) ∨
      ∃ reply next session, sessionOf reply = .ok session ∧
        round = ⟨[reply, next], [sessionRequest s, tokenRequest s session], tokenOf next⟩ := by
  cases is with
  | @refused reply failure fails =>
    have refused := Reply.accepted_eq_error_iff.mpr fails
    have ends : sessionOf reply = .error (.sessionRefused failure) := by simp [sessionOf, refused]
    exact .inl ⟨reply, _, ends, rfl⟩
  | @nameless reply response succeeds none =>
    have accepted := Reply.accepted_eq_ok_iff.mpr succeeds
    have ends : sessionOf reply = .error .cookieMissing := by simp [sessionOf, accepted, none]
    exact .inl ⟨reply, _, ends, rfl⟩
  | @denied reply next _ _ failure succeeds named fails =>
    have refused := Reply.accepted_eq_error_iff.mpr fails
    have ends : tokenOf next = .error (.tokenRefused failure) := by simp [tokenOf, refused]
    exact .inr ⟨reply, next, _, sessionOf_of_named succeeds named, by rw [ends]⟩
  | @empty reply next _ _ _ succeeds named answered none =>
    have accepted := Reply.accepted_eq_ok_iff.mpr answered
    have ends : tokenOf next = .error .tokenMissing := by simp [tokenOf, accepted, none]
    exact .inr ⟨reply, next, _, sessionOf_of_named succeeds named, by rw [ends]⟩
  | @sold reply next _ _ _ token succeeds named answered some =>
    have accepted := Reply.accepted_eq_ok_iff.mpr answered
    have ends : tokenOf next = .ok token := by simp [tokenOf, accepted, some]
    exact .inr ⟨reply, next, _, sessionOf_of_named succeeds named, by rw [ends]⟩

/-- A handshake over a wire is a round of the next answers. -/
theorem exists_round (s : IdentitySettings) (w : Wire) :
    ∃ round, IsRound s round ∧ round.replies = w.upcoming round.replies.length ∧
      perform s w = (round.outcome, w.after round.replies round.requests) := by
  unfold perform
  rw [w.send_eq]
  dsimp only
  rcases sessionOf_cases w.next with
    ⟨failure, fails, same⟩ | ⟨response, succeeds, ⟨none, same⟩ | ⟨session, named, same⟩⟩
  · rw [same]
    exact ⟨_, .refused fails, w.upcoming_one.symm, rfl⟩
  · rw [same]
    exact ⟨_, .nameless succeeds none, w.upcoming_one.symm, rfl⟩
  · rw [same]
    dsimp only
    rw [Wire.send_eq, Wire.after_after]
    refine ⟨_, isRound_of_session s succeeds named, ?_, rfl⟩
    have first : w.upcoming [w.next].length = [w.next] := w.upcoming_one
    show _ = w.upcoming ([w.next].length + 1)
    rw [w.upcoming_add [w.next] [sessionRequest s], first, Wire.upcoming_one]
    rfl

/-- The outcome of a round is a transient failure exactly if one of its answers is passing. -/
theorem IsRound.isPassing_iff {s : IdentitySettings} {round : Round} (is : IsRound s round) :
    round.IsPassing ↔ ∃ e, round.outcome = .error e ∧ e.isTransient = true := by
  unfold Round.IsPassing
  cases is with
  | refused fails =>
    have transient_iff := Reply.isPassing_iff_of_fails fails
    simpa [SignInError.isTransient, SignInError.cause?] using transient_iff
  | nameless succeeds none =>
    have lasting := Reply.not_isPassing_of_succeeds succeeds
    simpa [SignInError.isTransient, SignInError.cause?] using lasting
  | denied succeeds named fails =>
    have lasting := Reply.not_isPassing_of_succeeds succeeds
    have transient_iff := Reply.isPassing_iff_of_fails fails
    simpa [SignInError.isTransient, SignInError.cause?, lasting] using transient_iff
  | empty succeeds named answered none =>
    have lasting := Reply.not_isPassing_of_succeeds succeeds
    have second := Reply.not_isPassing_of_succeeds answered
    simp [SignInError.isTransient, SignInError.cause?, lasting, second]
  | sold succeeds named answered some =>
    have lasting := Reply.not_isPassing_of_succeeds succeeds
    have second := Reply.not_isPassing_of_succeeds answered
    simp [lasting, second]

end Handshake

end LoanGateway
