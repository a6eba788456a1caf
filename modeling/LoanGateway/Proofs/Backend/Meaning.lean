import LoanGateway.Client.Basic

/-!
# What an answer of the backend can mean

An answer is a success or a failure, and a failure is turned into an error. Which kinds of errors can
come out depends on the status alone, and only a bad request hands on what the body says.

- `Reply.Fails`: the answers that are failures.
- `Body.words`, `Backend.Tells`: what a body says in words.
- `Backend.Means`: the errors that an answer can mean.
- `Backend.Explains`: a result whose error, if it is one, an answer can mean.
-/

namespace LoanGateway

namespace Reply

/-- An answer is a failure if it has no status of success, and it is one if there is no answer. -/
inductive Fails : Reply → ExchangeFailure → Prop
  | refused {response : Response} (status : response.status < 200 ∨ 300 ≤ response.status) :
      Fails (.ok response) (.refused response.status response.body)
  | unanswered (fault : TransportFault) : Fails (.error fault) (.transport fault)

/-- The answer is a success. -/
def Succeeds (reply : Reply) (response : Response) : Prop :=
  reply = .ok response ∧ 200 ≤ response.status ∧ response.status < 300

theorem accepted_eq_error_iff {reply : Reply} {failure : ExchangeFailure} :
    reply.accepted = .error failure ↔ Fails reply failure := by
  cases reply with
  | error fault =>
    show Except.error (ExchangeFailure.transport fault) = .error failure ↔ _
    constructor
    · rintro ⟨⟩
      exact .unanswered fault
    · rintro ⟨⟩
      rfl
  | ok response =>
    rw [accepted]
    by_cases success : response.isSuccess = true
    · rw [if_pos success]
      have status : 200 ≤ response.status ∧ response.status < 300 := by
        simpa [Response.isSuccess] using success
      constructor
      · exact nofun
      · intro fails
        cases fails with
        | refused other => omega
    · rw [if_neg success]
      have status : 200 ≤ response.status → 300 ≤ response.status := by
        simpa [Response.isSuccess] using success
      constructor
      · rintro ⟨⟩
        exact .refused (by omega)
      · rintro ⟨⟩
        rfl

theorem accepted_eq_ok_iff {reply : Reply} {response : Response} :
    reply.accepted = .ok response ↔ Succeeds reply response := by
  cases reply with
  | error fault =>
    constructor
    · exact nofun
    · intro succeeds
      exact nomatch succeeds.1
  | ok other =>
    rw [accepted]
    by_cases success : other.isSuccess = true
    · rw [if_pos success]
      have status : 200 ≤ other.status ∧ other.status < 300 := by
        simpa [Response.isSuccess] using success
      constructor
      · rintro ⟨⟩
        exact ⟨rfl, status⟩
      · rintro ⟨⟨⟩, _⟩
        rfl
    · rw [if_neg success]
      constructor
      · exact nofun
      · rintro ⟨⟨⟩, status⟩
        exact absurd (by simpa [Response.isSuccess] using status) success

end Reply

/-! ## Bodies in words -/

/-- A body in words: a text is its own words, and any other value is written down. -/
def Body.words : Body → String
  | text s => s
  | null => "null"
  | structured value => value.text

namespace Backend

/-- What a body says in words. It is taken as it is unless it is a JSON text. A JSON string says what
it stands for, and any other value is written down again. -/
inductive Tells (body : String) : String → Prop
  | plain (unread : Json.parse? body = none) : Tells body body
  | text {s : String} (read : Json.parse? body = some (.string s)) : Tells body s
  | null (read : Json.parse? body = some .null) : Tells body "null"
  | structured {v : Json} (read : Json.parse? body = some v) (not_null : v ≠ .null)
      (not_text : ∀ s, v ≠ .string s) : Tells body v.canonical.text

/-- The words of a body are what it says. -/
theorem tells_words (body : String) : Tells body (Body.read body).words := by
  rw [Body.read]
  cases read : Json.parse? body with
  | none => exact .plain read
  | some v =>
    cases v with
    | null => exact .null read
    | string s => exact .text read
    | _ => exact .structured read nofun nofun

/-! ## Errors of answers -/

/-- The errors that an answer can mean. -/
inductive Means : Reply → GatewayError → Prop
  /-- Two statuses can mean that the resource is absent. -/
  | absent {response : Response} (status : response.status = 200 ∨ response.status = 400)
      (detail : Option String) : Means (.ok response) (.notFound detail)
  /-- One status means a bad request, and then the detail is what the body says. -/
  | bad {response : Response} {detail : String} (status : response.status = 400)
      (tells : Tells response.body detail) : Means (.ok response) (.badRequest detail)
  /-- Anything can be a fault. -/
  | fault (reply : Reply) (detail : String) : Means reply (.internal detail)

/-- A bad request is one of an absent resource, or its detail is the body in words. -/
theorem badRequestVerdict_cases (phrases : List String) (body : Body) :
    (∃ detail, badRequestVerdict phrases body = .notFound detail) ∨
      badRequestVerdict phrases body = .badRequest body.words := by
  cases body with
  | null => exact .inr rfl
  | structured value => exact .inr rfl
  | text s =>
    rw [badRequestVerdict]
    by_cases found : mentions s phrases = true
    · rw [if_pos found]
      exact .inl ⟨_, rfl⟩
    · rw [if_neg found]
      exact .inr rfl

theorem means_verdict (response : Response) (phrases : List String) :
    Means (.ok response) (verdict response.status response.body phrases) := by
  unfold verdict
  split
  · rename_i status _
    exact .absent (.inl status) _
  · exact .fault _ _
  · rename_i status
    rcases badRequestVerdict_cases phrases (Body.read response.body) with ⟨detail, same⟩ | same
    · rw [same]
      exact .absent (.inr status) detail
    · rw [same]
      exact .bad status (tells_words response.body)
  · exact .fault _ _

theorem means_failureVerdict {reply : Reply} {failure : ExchangeFailure}
    (fails : reply.Fails failure) (phrases : List String) :
    Means reply (failureVerdict phrases failure) := by
  cases fails with
  | refused => exact means_verdict _ phrases
  | unanswered fault => exact .fault _ _

/-! ## Results of answers -/

/-- If the result is an error, the answer can mean it. -/
def Explains {β : Type} (reply : Reply) (result : Except GatewayError β) : Prop :=
  ∀ e, result = .error e → Means reply e

namespace Explains

variable {β γ : Type} {reply : Reply}

theorem ok (b : β) : Explains reply (.ok b : Except GatewayError β) := fun _ => nofun

theorem error {e : GatewayError} (means : Means reply e) :
    Explains reply (.error e : Except GatewayError β) := by
  rintro _ ⟨⟩
  exact means

theorem map {result : Except GatewayError β} (explains : Explains reply result) (f : β → γ) :
    Explains reply (result.map f) := by
  cases result with
  | ok b => exact ok (f b)
  | error e => exact error (explains e rfl)

theorem bind {result : Except GatewayError β} {next : β → Except GatewayError γ}
    (explains : Explains reply result)
    (after : ∀ b, result = .ok b → Explains reply (next b)) :
    Explains reply (result.bind next) := by
  cases result with
  | ok b => exact after b rfl
  | error e => exact error (explains e rfl)

end Explains

end Backend

namespace Client

open Backend

/-- A failure is turned into an error. -/
theorem accept_of_fails {reply : Reply} {failure : ExchangeFailure} (fails : reply.Fails failure)
    (phrases : List String) : accept phrases reply = .error (failureVerdict phrases failure) := by
  rw [accept, Reply.accepted_eq_error_iff.mpr fails]

/-- A success is handed on. -/
theorem accept_of_succeeds {reply : Reply} {response : Response}
    (succeeds : reply.Succeeds response) (phrases : List String) :
    accept phrases reply = .ok response := by
  rw [accept, Reply.accepted_eq_ok_iff.mpr succeeds]

/-- What is handed on is a success. -/
theorem succeeds_of_accept {reply : Reply} {response : Response} {phrases : List String}
    (accepted : accept phrases reply = .ok response) : reply.Succeeds response := by
  unfold accept at accepted
  split at accepted
  · rename_i success
    cases accepted
    exact Reply.accepted_eq_ok_iff.mp success
  · cases accepted

theorem explains_accept (phrases : List String) (reply : Reply) :
    Explains reply (accept phrases reply) := by
  unfold accept
  split
  · exact .ok _
  · rename_i failed
    exact .error (means_failureVerdict (Reply.accepted_eq_error_iff.mp failed) phrases)

theorem explains_readAnswer {α : Type} (decode : Json → Option α) (phrases : List String)
    (response : Response) : Explains (.ok response) (readAnswer decode phrases response) := by
  unfold readAnswer
  split
  · split
    · exact .ok _
    · exact .error (.fault _ _)
  · exact .error (means_verdict response phrases)

end Client

namespace Submission

open Backend

theorem receipt_of_fails {reply : Reply} {failure : ExchangeFailure} (fails : reply.Fails failure)
    (settings : BackendSettings) (phrases : List String) :
    receipt settings phrases reply = .error (failureVerdict phrases failure) := by
  rw [receipt, Reply.accepted_eq_error_iff.mpr fails]

theorem explains_receipt (settings : BackendSettings) (phrases : List String) (reply : Reply) :
    Explains reply (receipt settings phrases reply) := by
  unfold receipt
  split
  · rename_i failed
    exact .error (means_failureVerdict (Reply.accepted_eq_error_iff.mp failed) phrases)
  · split
    · exact .ok _
    · exact .error (.fault _ _)

end Submission

end LoanGateway
