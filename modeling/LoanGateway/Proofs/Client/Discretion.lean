import LoanGateway.Proofs.Client.Agreement

/-!
# What outside callers may read

The public message of an error hands on what the backend says about a bad request, and nothing else.
A request is bad because the bundle has no messages or because the backend says so in its answer to
this very request. What the identity provider and the transport say stays inside.

- `GatewayError.publicMessage_eq_badRequest_iff`: the public message of a bad request is told from
  all others.
- `Client.Exchanges`: an operation sends a request and gets an answer to it.
- `Client.Failure`: what an operation can fail by, and the errors that come of it.
- `Client.IsDiscreet`, `Client.EndsInside`: what is said of a failure.
- `Client.public_message_of_failure`: the main statement.
-/

namespace LoanGateway

/-! ## Public messages -/

namespace GatewayError

/-- A public message is one of two texts, or it is that of a bad request. -/
theorem publicMessage_cases (e : GatewayError) :
    e.publicMessage = "Not found" ∨ e.publicMessage = "Internal server error" ∨
      ∃ detail, e.publicMessage = "Bad request: " ++ detail := by
  cases e with
  | notFound => exact .inl rfl
  | badRequest detail => exact .inr (.inr ⟨detail, rfl⟩)
  | authentication | internal => exact .inr (.inl rfl)

/-- Only a bad request has the public message of one, and its detail can be read off. -/
theorem publicMessage_eq_badRequest_iff {e : GatewayError} {detail : String} :
    e.publicMessage = "Bad request: " ++ detail ↔ e = .badRequest detail := by
  -- the fixed texts begin with other letters
  have other {s : String} (letter : s.toList.head? ≠ some 'B') : s ≠ "Bad request: " ++ detail := by
    intro same
    rw [same, String.toList_append] at letter
    exact letter rfl
  have absent : "Not found" ≠ "Bad request: " ++ detail := other (by decide)
  have generic : "Internal server error" ≠ "Bad request: " ++ detail := other (by decide)
  constructor
  · intro same
    cases e with
    | notFound => exact absurd same absent
    | authentication | internal => exact absurd same generic
    | badRequest own => rw [(String.append_right_inj _).mp same]
  · rintro rfl
    rfl

end GatewayError

namespace Client

variable {σ α : Type} [TokenSource σ]

/-! ## What an operation can fail by -/

/-- The operation sends one request and gets this answer to it. -/
structure Exchanges (c : Client σ) (operation : Operation α) (reply : Reply) : Prop where
  sent : ∃ request, (c.perform operation).2.wire.sent = c.wire.sent ++ [request]
  answered : c.wire.next = reply

/-- What an operation can fail by, with the errors that come of it. -/
inductive Failure (c : Client σ) (operation : Operation α) : GatewayError → Prop
  /-- The bundle has no messages. -/
  | empty (none : operation.isEmptyBundle = true) : Failure c operation Submission.emptyBundle
  /-- There is no token. -/
  | signIn (error : SignInError) : Failure c operation (.authentication error)
  /-- The body cannot be written. -/
  | unwritable (detail : String) : Failure c operation (.internal detail)
  /-- The answer to the request is a failure, or not what was asked for. -/
  | answered {reply : Reply} {e : GatewayError} (exchanges : c.Exchanges operation reply)
      (means : Backend.Means reply e) : Failure c operation e

variable {c : Client σ} {operation : Operation α} {e : GatewayError}

/-- An operation with something to send fails by its token or by its answer. -/
theorem failure_of_order {errand : Errand α} (direct : c.desk = .direct)
    (order : operation.order? c.settings = some errand)
    (failed : (c.perform operation).1 = .error e) : c.Failure operation e := by
  obtain ⟨resource, about⟩ := Operation.exists_resource order
  have explains := (Operation.isAbout_of_order order about).explained c.wire.next
  have exchanges (sent : ∃ request, (c.perform operation).2.wire.sent = c.wire.sent ++ [request]) :
      c.Exchanges operation c.wire.next := ⟨sent, rfl⟩
  have effect := effect_perform direct order
  generalize c.perform operation = done at effect failed exchanges
  cases effect with
  | denied obtained =>
    cases failed
    exact .signIn _
  | granted obtained source wire =>
    exact .answered (exchanges ⟨_, congrArg Wire.sent wire⟩) (explains e failed)

/-- An operation with nothing to send fails by its token or by its body. -/
theorem error_of_not_sendable (not_sendable : operation.isSendable = false)
    (failed : (c.perform operation).1 = .error e) :
    (∃ error, e = .authentication error) ∨ ∃ detail, e = .internal detail := by
  cases operation with
  | token =>
    have asked : c.token.1.map Outcome.token = (.error e : Except GatewayError (Outcome α)) := failed
    rw [token_eq] at asked
    cases obtained : (TokenSource.obtain c.source).1 with
    | ok token =>
      rw [obtained] at asked
      cases asked
    | error error =>
      rw [obtained] at asked
      cases asked
      exact .inl ⟨error, rfl⟩
  | post path body resource | put path body resource =>
    cases body with
    | ok value => cases not_sendable
    | error reason =>
      rw [perform_of_unwritable rfl] at failed
      cases failed
      exact .inr ⟨_, rfl⟩
  | _ => cases not_sendable

/-- However an operation fails, it fails by one of these. -/
theorem failure_of_error (direct : c.desk = .direct)
    (failed : (c.perform operation).1 = .error e) : c.Failure operation e := by
  by_cases empty : operation.isEmptyBundle = true
  · rw [perform_of_emptyBundle empty] at failed
    cases failed
    exact .empty empty
  by_cases sendable : operation.isSendable = true
  · obtain ⟨errand, order⟩ :=
      operation.exists_order c.settings sendable (Bool.eq_false_iff.mpr empty)
    exact failure_of_order direct order failed
  · rcases error_of_not_sendable (Bool.eq_false_iff.mpr sendable) failed with
      ⟨error, same⟩ | ⟨detail, same⟩
    · rw [same]
      exact .signIn error
    · rw [same]
      exact .unwritable detail

/-- An operation that sends its request fails by its token or by the answer. -/
theorem error_of_exchanges {reply : Reply} (direct : c.desk = .direct)
    (exchanges : c.Exchanges operation reply) (failed : (c.perform operation).1 = .error e) :
    (∃ error, e = .authentication error) ∨ Backend.Means reply e := by
  cases failure_of_error direct failed with
  | empty none =>
    -- nothing is sent for an empty bundle
    obtain ⟨request, sent⟩ := exchanges.sent
    rw [perform_of_emptyBundle none] at sent
    simp at sent
  | signIn error => exact .inl ⟨error, rfl⟩
  | unwritable detail => exact .inr (.fault reply detail)
  | answered own means =>
    have same := own.answered.symm.trans exchanges.answered
    rw [same] at means
    exact .inr means

/-! ## What the public message tells -/

/-- The public message of a failure is a fixed text or that of a bad request, and what it says of a
bad request is known outside: the bundle has no messages, or the backend said so. -/
structure IsDiscreet (c : Client σ) (operation : Operation α) (e : GatewayError) : Prop where
  message : e.publicMessage = "Not found" ∨ e.publicMessage = "Internal server error" ∨
    ∃ detail, e.publicMessage = "Bad request: " ++ detail
  detail : ∀ detail, e.publicMessage = "Bad request: " ++ detail →
    (operation.isEmptyBundle = true ∧ detail = "Bundle must contain at least one message") ∨
      ∃ response, c.Exchanges operation (.ok response) ∧ response.status = 400 ∧
        Backend.Tells response.body detail

theorem isDiscreet_of_failure (failure : c.Failure operation e) : c.IsDiscreet operation e := by
  refine ⟨e.publicMessage_cases, fun detail same => ?_⟩
  have bad : e = .badRequest detail := GatewayError.publicMessage_eq_badRequest_iff.mp same
  cases failure with
  | empty none =>
    cases bad
    exact .inl ⟨none, rfl⟩
  | signIn error => cases bad
  | unwritable => cases bad
  | answered exchanges means =>
    subst bad
    cases means with
    | bad status tells => exact .inr ⟨_, exchanges, status, tells⟩

/-- The operation ends inside the gateway: with a failed sign-in, without a request or without an
answer to it, or with an answer whose status does not speak about the request. -/
inductive EndsInside (c : Client σ) (operation : Operation α) : Prop
  | signIn {error : SignInError} (failed : (c.perform operation).1 = .error (.authentication error))
  | unwritable (not_sendable : operation.isSendable = false)
  | unanswered {fault : TransportFault} (exchanges : c.Exchanges operation (.error fault))
  | status {response : Response} (exchanges : c.Exchanges operation (.ok response))
      (not_bad : response.status ≠ 400) (not_ok : response.status ≠ 200)

/-- What ends inside is a failed sign-in or an internal error. -/
theorem error_of_endsInside (direct : c.desk = .direct) (inside : c.EndsInside operation)
    (failed : (c.perform operation).1 = .error e) :
    (∃ error, e = .authentication error) ∨ ∃ detail, e = .internal detail := by
  cases inside with
  | signIn denied =>
    cases failed.symm.trans denied
    exact .inl ⟨_, rfl⟩
  | unwritable not_sendable => exact error_of_not_sendable not_sendable failed
  | unanswered exchanges =>
    rcases error_of_exchanges direct exchanges failed with denied | means
    · exact .inl denied
    · cases means with
      | fault _ detail => exact .inr ⟨detail, rfl⟩
  | status exchanges not_bad not_ok =>
    rcases error_of_exchanges direct exchanges failed with denied | means
    · exact .inl denied
    · cases means with
      | absent status => exact absurd status (not_or_intro not_ok not_bad)
      | bad status => exact absurd status not_bad
      | fault _ detail => exact .inr ⟨detail, rfl⟩

/-- What ends inside looks the same from outside. -/
theorem generic_of_endsInside (direct : c.desk = .direct) (inside : c.EndsInside operation)
    (failed : (c.perform operation).1 = .error e) :
    e.httpStatus = 500 ∧ e.publicMessage = "Internal server error" := by
  rcases error_of_endsInside direct inside failed with ⟨error, same⟩ | ⟨detail, same⟩
  · rw [same]
    exact ⟨rfl, rfl⟩
  · rw [same]
    exact ⟨rfl, rfl⟩

/-- However an operation fails, its public message is one of two fixed texts, or it hands on what is
wrong with the request: that the bundle has no messages, or what the body of the backend's own answer
says with a status of 400. Two operations that end inside look the same from outside, whatever the
identity provider, the transport and the backend said. -/
theorem public_message_of_failure (σ τ α β : Type) [TokenSource σ] [TokenSource τ] :
    (∀ (c : Client σ) (operation : Operation α) (e : GatewayError), c.desk = .direct →
        (c.perform operation).1 = .error e → c.IsDiscreet operation e) ∧
      ∀ (c : Client σ) (operation : Operation α) (e : GatewayError)
        (d : Client τ) (other : Operation β) (e' : GatewayError),
        c.desk = .direct → (c.perform operation).1 = .error e → c.EndsInside operation →
        d.desk = .direct → (d.perform other).1 = .error e' → d.EndsInside other →
          e.httpStatus = e'.httpStatus ∧ e.publicMessage = e'.publicMessage := by
  constructor
  · intro c operation e direct failed
    exact isDiscreet_of_failure (failure_of_error direct failed)
  · intro c operation e d other e' direct failed inside direct' failed' inside'
    obtain ⟨status, message⟩ := generic_of_endsInside direct inside failed
    obtain ⟨status', message'⟩ := generic_of_endsInside direct' inside' failed'
    exact ⟨status.trans status'.symm, message.trans message'.symm⟩

end Client

namespace Sample

/-- A reading of a deal. -/
def reading : Operation Json := .get "Deal" .deal some

/-- A client that is refused a session with a reason. -/
def stranger : Client TokenScript :=
  .new backend (.failing (.sessionRefused (.refused 400 "The password has expired")))

/-- A failure of the answer is the verdict on it. -/
theorem perform_reading {reply : Reply} {failure : ExchangeFailure} {e : GatewayError}
    (fails : reply.Fails failure)
    (verdict : Backend.failureVerdict Resource.deal.absencePhrases failure = e) :
    ((client [reply]).perform reading).1 = .error e := by
  have obtained : (TokenSource.obtain (client [reply]).source).1 = .ok "abc" := rfl
  rw [← verdict]
  exact Client.perform_of_fails rfl obtained (.get ..) fails

end Sample

namespace Client

/-- A bad request is told to outside callers, and a refused session with the same status looks like a
backend that is out of order. -/
theorem refused_session_looks_like_outage :
    let refused := Sample.client [.ok (.new 400 "\"The date is missing\"")]
    let broken := Sample.client [.ok (.new 503 "maintenance")]
    let outage := GatewayError.internal "backend responded with status 503"
    let denial := GatewayError.authentication (.sessionRefused (.refused 400 "The password has expired"))
    (refused.perform Sample.reading).1 = .error (.badRequest "The date is missing") ∧
      refused.IsDiscreet Sample.reading (.badRequest "The date is missing") ∧
      (broken.perform Sample.reading).1 = .error outage ∧ broken.EndsInside Sample.reading ∧
      (Sample.stranger.perform Sample.reading).1 = .error denial ∧
      Sample.stranger.EndsInside Sample.reading ∧
      outage.httpStatus = denial.httpStatus ∧ outage.publicMessage = denial.publicMessage := by
  intro refused broken outage denial
  obtain ⟨discreet, alike⟩ :=
    public_message_of_failure Authenticator TokenScript Json Json
  have bad : (refused.perform Sample.reading).1 = .error (.badRequest "The date is missing") :=
    Sample.perform_reading (.refused (.inr (by decide))) (by decide +kernel)
  have fault : (broken.perform Sample.reading).1 = .error outage :=
    Sample.perform_reading (.refused (.inr (by decide))) (by decide +kernel)
  have denied : (Sample.stranger.perform Sample.reading).1 = .error denial := rfl
  have inside : broken.EndsInside Sample.reading :=
    .status ⟨⟨_, rfl⟩, rfl⟩ (by decide) (by decide)
  have same := alike broken Sample.reading outage Sample.stranger Sample.reading denial rfl fault
    inside rfl denied (.signIn denied)
  exact ⟨bad, discreet refused _ _ rfl bad, fault, inside, denied, .signIn denied, same⟩

end Client

end LoanGateway
