import LoanGateway.Proofs.Bundle.Submission
import LoanGateway.Proofs.Client.Effects

/-!
# Two ways to the backend

Bundles go to the backend by a way of their own, and everything else by another one. An answer means
the same on both ways: a failure is the same error for all operations on a resource, and the address
of a success names the same identifier to a creation and to a submission.

- `Client.perform_of_next`: the answer decides what comes of an operation that has a token.
- `Operation.Concerns`: the operations on a resource that have something to send.
- `Submission.FallsBack`: a submission whose answer names no identifier in its address.
- `Client.ways_agree`: the main statement.
-/

namespace LoanGateway

/-- The operations on a resource that have something to send. -/
inductive Operation.Concerns {α : Type} : Operation α → Resource → Prop
  | get (path : String) (resource : Resource) (decode : Json → Option α) :
      Concerns (.get path resource decode) resource
  | post (path : String) (value : Json) (resource : Resource) :
      Concerns (.post path (.ok value) resource) resource
  | put (path : String) (value : Json) (resource : Resource) :
      Concerns (.put path (.ok value) resource) resource
  | submit {bundle : Bundle} (filled : bundle.messages ≠ []) :
      Concerns (.submit bundle) bundle.resource
  | submitFor {bundle : Bundle} (filled : bundle.messages ≠ []) (resource : Resource) :
      Concerns (.submitFor bundle resource) resource

namespace Operation

variable {α : Type} {operation : Operation α} {resource : Resource}

/-- An operation on a resource sends something and treats the answer as usual for the resource. -/
theorem Concerns.exists_order (concerns : operation.Concerns resource)
    (settings : BackendSettings) :
    ∃ errand, operation.order? settings = some errand ∧ errand.IsAbout resource := by
  have sendable : operation.isSendable = true := by cases concerns <;> rfl
  have filled : operation.isEmptyBundle = false := by
    cases concerns with
    | submit filled | submitFor filled => simpa [isEmptyBundle] using filled
    | _ => rfl
  have about : operation.resource? = some resource := by cases concerns <;> rfl
  obtain ⟨errand, order⟩ := operation.exists_order settings sendable filled
  exact ⟨errand, order, isAbout_of_order order about⟩

end Operation

namespace Submission

/-- A submission comes to the result that the body of the answer says, because the address says
nothing. -/
structure FallsBack {α : Type} (settings : BackendSettings) (response : Response)
    (result : Except GatewayError (Outcome α)) : Prop where
  unlocated : ∀ i, ¬ IsLocated settings.baseUrl response i
  body : ∀ i, IsInBody response.body i →
    result = .ok (.submitted ⟨i, response.header? warningHeader⟩)
  neither : (∀ i, ¬ IsInBody response.body i) → result = .error identifierMissing

variable {settings : BackendSettings} {phrases : List String} {response : Response} {reply : Reply}

/-- What comes of a success hangs on its identifier. -/
theorem receipt_of_succeeds (succeeds : reply.Succeeds response) :
    receipt settings phrases reply =
      match identifier? settings response with
      | some i => .ok ⟨i, response.header? warningHeader⟩
      | none => .error identifierMissing := by
  have accepted := Reply.accepted_eq_ok_iff.mpr succeeds
  cases found : identifier? settings response with
  | none => simp [receipt, accepted, found]
  | some i => simp [receipt, accepted, found]

theorem receipt_of_identifies {i : String} (succeeds : reply.Succeeds response)
    (identifies : Identifies settings.baseUrl response i) :
    receipt settings phrases reply = .ok ⟨i, response.header? warningHeader⟩ := by
  rw [receipt_of_succeeds succeeds, identifier?_eq_some_iff.mpr identifies]

/-- Without an identifier in the address the body decides. -/
theorem fallsBack_receipt {α : Type} (succeeds : reply.Succeeds response)
    (unlocated : ∀ i, ¬ IsLocated settings.baseUrl response i) :
    FallsBack settings response ((receipt settings phrases reply).map (Outcome.submitted (α := α)))
    where
  unlocated := unlocated
  body i inBody := by
    rw [receipt_of_identifies succeeds (.inr ⟨unlocated, inBody⟩)]
    rfl
  neither none := by
    have missing : identifier? settings response = Option.none := by
      rw [Option.eq_none_iff_forall_ne_some]
      intro i found
      rcases identifier?_eq_some_iff.mp found with located | ⟨_, inBody⟩
      · exact unlocated i located
      · exact none i inBody
    rw [receipt_of_succeeds succeeds, missing]
    rfl

end Submission

namespace Client

open Operation Submission

variable {σ α : Type} [TokenSource σ] {c : Client σ} {token : String}

/-- With a token, what comes of an operation is what its errand makes of the answer. -/
theorem perform_of_next {operation : Operation α} {errand : Errand α} (direct : c.desk = .direct)
    (obtained : (TokenSource.obtain c.source).1 = .ok token)
    (order : operation.order? c.settings = some errand) :
    (c.perform operation).1 = errand.finish c.wire.next := by
  have effect := effect_perform direct order
  generalize c.perform operation = done at effect
  cases effect with
  | denied refused => exact nomatch obtained.symm.trans refused
  | granted => rfl

/-- A failure is the same error for all operations on a resource. -/
theorem perform_of_fails {operation : Operation α} {resource : Resource}
    {failure : ExchangeFailure} (direct : c.desk = .direct)
    (obtained : (TokenSource.obtain c.source).1 = .ok token)
    (concerns : operation.Concerns resource) (fails : c.wire.next.Fails failure) :
    (c.perform operation).1 =
      .error (Backend.failureVerdict resource.absencePhrases failure) := by
  obtain ⟨errand, order, about⟩ := concerns.exists_order c.settings
  rw [perform_of_next direct obtained order]
  exact about.failed fails

/-- A creation that succeeds gives the identifier in the address. -/
theorem post_of_succeeds {response : Response} (direct : c.desk = .direct)
    (obtained : (TokenSource.obtain c.source).1 = .ok token)
    (succeeds : c.wire.next.Succeeds response) (path : String) (value : Json)
    (resource : Resource) :
    (c.perform (.post path (.ok value) resource : Operation α)).1 =
      .ok (.created ((response.header? "location").bind
        (Backend.locationIdentifier? c.settings.baseUrl))) := by
  rw [perform_of_next direct obtained rfl]
  show (accept resource.absencePhrases c.wire.next).map _ = _
  rw [accept_of_succeeds succeeds]
  rfl

/-- A submission that gets an answer gives the receipt of it. -/
theorem submitFor_of_next {bundle : Bundle} (direct : c.desk = .direct)
    (obtained : (TokenSource.obtain c.source).1 = .ok token) (filled : bundle.messages ≠ [])
    (resource : Resource) :
    (c.perform (.submitFor bundle resource : Operation α)).1 =
      (receipt c.settings resource.absencePhrases c.wire.next).map .submitted := by
  have order : (Operation.submitFor bundle resource : Operation α).order? c.settings =
      some (.submission c.settings bundle resource) := if_neg (by simpa using filled)
  rw [perform_of_next direct obtained order]
  rfl

/-- A creation and a submission that get the same success are told the same by its address. -/
structure NamesAlike (settings : BackendSettings) (response : Response)
    (created submitted : Except GatewayError (Outcome α)) : Prop where
  /-- The creation tells an identifier if the address yields it, and that is the identifier of the
  submission. -/
  some : ∀ i, created = .ok (.created (some i)) ↔ IsLocated settings.baseUrl response i ∧
    submitted = .ok (.submitted ⟨i, response.header? warningHeader⟩)
  /-- The creation tells none if the submission has to do without the address. -/
  none : created = .ok (.created none) ↔ FallsBack settings response submitted

theorem namesAlike_of_succeeds {bundle : Bundle} {response : Response} (direct : c.desk = .direct)
    (obtained : (TokenSource.obtain c.source).1 = .ok token)
    (succeeds : c.wire.next.Succeeds response) (filled : bundle.messages ≠ []) (path : String)
    (value : Json) (resource other : Resource) :
    NamesAlike c.settings response
      (c.perform (.post path (.ok value) resource : Operation α)).1
      (c.perform (.submitFor bundle other : Operation α)).1 := by
  rw [post_of_succeeds direct obtained succeeds, submitFor_of_next direct obtained filled]
  constructor
  · intro i
    have told : (Except.ok (.created ((response.header? "location").bind
          (Backend.locationIdentifier? c.settings.baseUrl))) : Except GatewayError (Outcome α)) =
        .ok (.created (Option.some i)) ↔ IsLocated c.settings.baseUrl response i := by
      rw [← located_eq_some_iff]
      simp
    rw [told]
    refine ⟨fun located => ⟨located, ?_⟩, fun both => both.1⟩
    rw [receipt_of_identifies succeeds (.inl located)]
    rfl
  · have silent : (Except.ok (.created ((response.header? "location").bind
          (Backend.locationIdentifier? c.settings.baseUrl))) : Except GatewayError (Outcome α)) =
        .ok (.created Option.none) ↔ ∀ i, ¬ IsLocated c.settings.baseUrl response i := by
      simp only [← located_eq_some_iff]
      rw [← Option.eq_none_iff_forall_ne_some]
      simp
    rw [silent]
    exact ⟨fallsBack_receipt succeeds, fun fallsBack => fallsBack.unlocated⟩

/-- Operations that have a token take an answer alike, whichever way they take to the backend. A
failure is the same error for all operations on a resource: the verdict on it by the phrases of the
resource. A success tells a creation and a submission the same identifier, or both none. -/
theorem ways_agree (σ α : Type) [TokenSource σ] (c : Client σ) (token : String)
    (direct : c.desk = .direct) (obtained : (TokenSource.obtain c.source).1 = .ok token) :
    (∀ failure, c.wire.next.Fails failure →
        ∀ (resource : Resource) (operation : Operation α), operation.Concerns resource →
          (c.perform operation).1 =
            .error (Backend.failureVerdict resource.absencePhrases failure)) ∧
      ∀ response, c.wire.next.Succeeds response →
        ∀ (bundle : Bundle), bundle.messages ≠ [] →
          ∀ (path : String) (value : Json) (resource other : Resource),
            NamesAlike c.settings response
              (c.perform (.post path (.ok value) resource : Operation α)).1
              (c.perform (.submitFor bundle other : Operation α)).1 := by
  constructor
  · intro failure fails resource operation concerns
    exact perform_of_fails direct obtained concerns fails
  · intro response succeeds bundle filled path value resource other
    exact namesAlike_of_succeeds direct obtained succeeds filled path value resource other

/-- A loan that does not exist is absent to a reading and to a submission, and the address of a
success names it to a creation and to a submission. -/
theorem loan_is_the_same_on_both_ways :
    let reason := "Loan does not exist or user does not have access to it"
    let refused := Sample.client [.ok (.new 400 reason)]
    let accepted := Sample.client [.ok ⟨201, [("location", "/Bundle/17/")], ""⟩]
    let reading : Operation Json := .get "Loan/1" .loan some
    let creation : Operation Json := .post "Loan" (.ok .null) .loan
    let submission : Operation Json := .submitFor Sample.bundle .loan
    refused.desk = .direct ∧ (TokenSource.obtain refused.source).1 = .ok "abc" ∧
      refused.wire.next.Fails (.refused 400 reason) ∧
      (refused.perform reading).1 = .error (.notFound (some reason)) ∧
      (refused.perform submission).1 = .error (.notFound (some reason)) ∧
      accepted.desk = .direct ∧ (TokenSource.obtain accepted.source).1 = .ok "abc" ∧
      Sample.bundle.messages ≠ [] ∧ (accepted.perform creation).1 = .ok (.created (some "17")) ∧
      (accepted.perform submission).1 = .ok (.submitted ⟨"17", none⟩) := by
  intro reason refused accepted reading creation submission
  have filled : Sample.bundle.messages ≠ [] := List.cons_ne_nil _ _
  have fails : refused.wire.next.Fails (.refused 400 reason) := .refused (.inr (by decide))
  have absent : Backend.failureVerdict Resource.loan.absencePhrases (.refused 400 reason) =
      .notFound (some reason) := by decide +kernel
  obtain ⟨failures, _⟩ := ways_agree Authenticator Json refused "abc" rfl rfl
  have same := failures _ fails .loan
  rw [absent] at same
  obtain ⟨_, successes⟩ := ways_agree Authenticator Json accepted "abc" rfl rfl
  have names := successes _ ⟨rfl, by decide, by decide⟩ _ filled "Loan" .null .loan .loan
  have created : (accepted.perform creation).1 = .ok (.created (some "17")) := by
    show Except.ok (Outcome.created _) = _
    have located : Backend.locationIdentifier? accepted.settings.baseUrl "/Bundle/17/" =
        some "17" := by decide +kernel
    exact congrArg (fun i => Except.ok (Outcome.created i)) located
  exact ⟨rfl, rfl, fails, same _ (.get ..), same _ (.submitFor filled _), rfl, rfl, filled,
    created, ((names.some "17").mp created).2⟩

end Client

end LoanGateway
