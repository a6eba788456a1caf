import LoanGateway.Proofs.Backend.Meaning
import LoanGateway.Proofs.Client.Alone
import LoanGateway.Proofs.Client.Bisimulation
import LoanGateway.Proofs.Client.Refusal

/-!
# One token, one request

An operation that has something to send makes one call for a token. With a token it sends one
request, which carries that token; without one it sends nothing and fails with the error of the
source. Over a run of operations, the requests are those of the operations that got a token, in
their order.

- `Operation.order?`: the errand of an operation, submissions included.
- `Errand.IsAbout`: what every errand makes of an answer.
- `Recorded`: a source of tokens with a record of its answers.
- `Client.perform_of_order`, `Client.perform_of_emptyBundle`: operations as equations.
- `Client.IsDisciplined`, `Client.IsInStep`: what is said of one operation and of a run.
- `Client.one_request_for_each_token`: the main statement.
-/

namespace LoanGateway

/-! ## Orders -/

namespace Errand

variable {α : Type}

/-- Hands in a bundle. -/
def submission (settings : BackendSettings) (bundle : Bundle) (resource : Resource) : Errand α where
  request := (Request.new .post (bundle.submissionUrl settings).text).withJson bundle.toJson
  finish reply := (Submission.receipt settings resource.absencePhrases reply).map .submitted

end Errand

namespace Operation

variable {α : Type}

/-- Whether an operation is a request whose body, if it has one, can be written. -/
def isSendable : Operation α → Bool
  | token => false
  | get .. => true
  | post _ body _ | put _ body _ => body.isOk
  | submit _ | submitFor _ _ => true

/-- Whether an operation hands in a bundle without messages. -/
def isEmptyBundle : Operation α → Bool
  | submit bundle | submitFor bundle _ => bundle.messages.isEmpty
  | _ => false

/-- The errand of an operation, if it has something to send. -/
def order? (settings : BackendSettings) (operation : Operation α) : Option (Errand α) :=
  match operation with
  | submit bundle =>
    if bundle.messages.isEmpty then none else some (.submission settings bundle bundle.resource)
  | submitFor bundle resource =>
    if bundle.messages.isEmpty then none else some (.submission settings bundle resource)
  | _ => (operation.errand? settings).bind Except.toOption

/-- An operation that can be sent has something to send, unless it hands in an empty bundle. -/
theorem exists_order (settings : BackendSettings) {operation : Operation α}
    (sendable : operation.isSendable = true) (filled : operation.isEmptyBundle = false) :
    ∃ errand, operation.order? settings = some errand := by
  cases operation with
  | token => cases sendable
  | get path resource decode => exact ⟨_, rfl⟩
  | post path body resource | put path body resource =>
    cases body with
    | ok value => exact ⟨_, rfl⟩
    | error reason => cases sendable
  | submit bundle | submitFor bundle resource =>
    exact ⟨_, if_neg (by simpa [isEmptyBundle] using filled)⟩

/-- An operation other than a submission has an order if it has an errand. -/
theorem errand?_of_order? {settings : BackendSettings} {operation : Operation α}
    {errand : Errand α} (other : operation.isSubmission = false)
    (order : operation.order? settings = some errand) :
    operation.errand? settings = some (.ok errand) := by
  have bound : (operation.errand? settings).bind Except.toOption = some errand := by
    cases operation with
    | submit bundle | submitFor bundle resource => cases other
    | _ => exact order
  obtain ⟨result, found, ok⟩ := Option.bind_eq_some_iff.mp bound
  cases result with
  | error e => cases ok
  | ok _ =>
    cases ok
    exact found

end Operation

/-! ## Results of orders -/

namespace Errand

variable {α : Type}

/-- What an errand makes of an answer is usual for a resource: a failure is turned into an error by
the phrases of the resource, and no other error comes out than one that the answer can mean. -/
structure IsAbout (errand : Errand α) (resource : Resource) : Prop where
  failed : ∀ {reply : Reply} {failure : ExchangeFailure}, reply.Fails failure →
    errand.finish reply = .error (Backend.failureVerdict resource.absencePhrases failure)
  explained : ∀ reply, Backend.Explains reply (errand.finish reply)

theorem isAbout_reading (settings : BackendSettings) (path : String) (resource : Resource)
    (decode : Json → Option α) : (reading settings path resource decode).IsAbout resource where
  failed fails := by
    show ((Client.accept resource.absencePhrases _).bind _).map _ = _
    rw [Client.accept_of_fails fails]
    rfl
  explained reply := by
    refine .map (.bind (Client.explains_accept _ reply) fun response accepted => ?_) _
    obtain ⟨same, _⟩ := Client.succeeds_of_accept accepted
    rw [same]
    exact Client.explains_readAnswer decode _ response

theorem isAbout_of_sending {settings : BackendSettings} {method : Method} {path : String}
    {body : Payload} {resource : Resource} {outcome : Response → Outcome α} {errand : Errand α}
    (h : sending settings method path body resource outcome = .ok errand) :
    errand.IsAbout resource := by
  unfold sending at h
  split at h
  · cases h
  · cases h
    refine ⟨fun fails => ?_, fun reply => .map (Client.explains_accept _ reply) outcome⟩
    show (Client.accept resource.absencePhrases _).map outcome = _
    rw [Client.accept_of_fails fails]
    rfl

theorem isAbout_submission (settings : BackendSettings) (bundle : Bundle) (resource : Resource) :
    (submission (α := α) settings bundle resource).IsAbout resource where
  failed fails := by
    show (Submission.receipt settings resource.absencePhrases _).map _ = _
    rw [Submission.receipt_of_fails fails]
    rfl
  explained reply := .map (Submission.explains_receipt settings _ reply) _

end Errand

namespace Operation

variable {α : Type}

/-- The resource that an operation is about. -/
def resource? : Operation α → Option Resource
  | token => none
  | get _ resource _ | post _ _ resource | put _ _ resource => some resource
  | submit bundle => some bundle.resource
  | submitFor _ resource => some resource

/-- What an operation makes of an answer is usual for its resource. -/
theorem isAbout_of_order {settings : BackendSettings} {operation : Operation α}
    {errand : Errand α} {resource : Resource} (order : operation.order? settings = some errand)
    (about : operation.resource? = some resource) : errand.IsAbout resource := by
  cases operation with
  | token => cases order
  | get path other decode =>
    cases about
    cases order
    exact Errand.isAbout_reading settings path resource decode
  | post path body other | put path body other =>
    cases about
    have found := errand?_of_order? rfl order
    exact Errand.isAbout_of_sending (Option.some.inj found)
  | submit bundle | submitFor bundle other =>
    cases about
    unfold order? at order
    dsimp only at order
    split at order
    · cases order
    · cases order
      exact Errand.isAbout_submission settings bundle _

/-- An operation with something to send is about a resource. -/
theorem exists_resource {settings : BackendSettings} {operation : Operation α} {errand : Errand α}
    (order : operation.order? settings = some errand) :
    ∃ resource, operation.resource? = some resource := by
  cases operation with
  | token => cases order
  | _ => exact ⟨_, rfl⟩

end Operation

/-- A result that is not a failed sign-in. -/
def IsSignedIn {β : Type} (result : Except GatewayError β) : Prop :=
  ∀ e, result ≠ .error (.authentication e)

/-- No answer of the backend counts as a failed sign-in. -/
theorem IsSignedIn.finish {β : Type} {settings : BackendSettings} {operation : Operation β}
    {errand : Errand β} (order : operation.order? settings = some errand) (reply : Reply) :
    IsSignedIn (errand.finish reply) := by
  intro e same
  obtain ⟨resource, about⟩ := Operation.exists_resource order
  have means := (Operation.isAbout_of_order order about).explained reply _ same
  cases means

/-! ## Operations as equations -/

namespace Client

variable {σ α : Type} [TokenSource σ]

/-- Carries out an errand with one exchange, whatever the answer says about the token. -/
def handIn (c : Client σ) (errand : Errand α) : Except GatewayError (Outcome α) × Client σ :=
  match (TokenSource.obtain c.source).1 with
  | .error e => (.error (.authentication e), c.asked)
  | .ok token =>
    let (reply, wire) := c.wire.send (errand.request.withBearer token)
    (errand.finish reply, { c.asked with wire })

theorem submitFor_of_filled {c : Client σ} {bundle : Bundle} (resource : Resource)
    (direct : c.desk = .direct) (filled : ¬ bundle.messages.isEmpty = true) :
    ((c.submitFor bundle resource).1.map .submitted, (c.submitFor bundle resource).2) =
      c.handIn (α := α) (.submission c.settings bundle resource) := by
  unfold submitFor handIn
  rw [if_neg filled, token_eq]
  cases (TokenSource.obtain c.source).1 with
  | error e => rfl
  | ok token =>
    obtain ⟨settings, wire, source, desk⟩ := c
    subst direct
    simp only [asked, Desk.submit, Bundle.submit, if_neg filled]
    rfl

/-- A client hands in bundles, and exchanges everything else. -/
theorem perform_of_order {c : Client σ} {operation : Operation α} {errand : Errand α}
    (direct : c.desk = .direct) (order : operation.order? c.settings = some errand) :
    c.perform operation =
      if operation.isSubmission then c.handIn errand else c.carryOut errand := by
  cases operation with
  | submit bundle | submitFor bundle resource =>
    unfold Operation.order? at order
    dsimp only at order
    split at order
    · cases order
    · rename_i filled
      cases order
      exact submitFor_of_filled _ direct filled
  | _ => exact perform_of_errand (Operation.errand?_of_order? rfl order)

/-- A bundle without messages is refused. -/
theorem perform_of_emptyBundle {c : Client σ} {operation : Operation α}
    (empty : operation.isEmptyBundle = true) :
    c.perform operation = (.error Submission.emptyBundle, c) := by
  cases operation with
  | submit bundle | submitFor bundle resource =>
    have none : bundle.messages.isEmpty = true := empty
    simp only [perform, submit, submitFor, if_pos none]
    rfl
  | _ => cases empty

/-- What an operation with something to send does to a client, and its result. -/
inductive Effect (c : Client σ) (errand : Errand α) :
    Except GatewayError (Outcome α) × Client σ → Prop
  | denied {e : SignInError} (obtained : (TokenSource.obtain c.source).1 = .error e) :
      Effect c errand (.error (.authentication e), c.asked)
  | granted {token : String} {after : Client σ}
      (obtained : (TokenSource.obtain c.source).1 = .ok token)
      (source : after.source = c.asked.source ∨
        after.source = TokenSource.invalidate c.asked.source)
      (wire : after.wire = (c.wire.send (errand.request.withBearer token)).2)
      (settings : after.settings = c.settings) (desk : after.desk = c.desk) :
      Effect c errand
        (errand.finish (c.wire.send (errand.request.withBearer token)).1, after)

theorem source_heed (c : Client σ) (reply : Reply) :
    (c.heed reply).source = c.source ∨ (c.heed reply).source = TokenSource.invalidate c.source := by
  unfold heed
  split
  · exact .inr rfl
  · exact .inl rfl

@[simp] theorem settings_heed (c : Client σ) (reply : Reply) :
    (c.heed reply).settings = c.settings := by
  unfold heed
  split <;> rfl

@[simp] theorem desk_heed (c : Client σ) (reply : Reply) : (c.heed reply).desk = c.desk := by
  unfold heed
  split <;> rfl

theorem effect_carryOut (c : Client σ) (errand : Errand α) :
    c.Effect errand (c.carryOut errand) := by
  unfold carryOut
  cases obtained : (TokenSource.obtain c.source).1 with
  | error e => exact .denied obtained
  | ok token =>
    exact .granted obtained (source_heed ..) (wire_heed ..) (settings_heed ..) (desk_heed ..)

theorem effect_handIn (c : Client σ) (errand : Errand α) : c.Effect errand (c.handIn errand) := by
  unfold handIn
  cases obtained : (TokenSource.obtain c.source).1 with
  | error e => exact .denied obtained
  | ok token => exact .granted obtained (.inl rfl) rfl rfl rfl

theorem effect_perform {c : Client σ} {operation : Operation α} {errand : Errand α}
    (direct : c.desk = .direct) (order : operation.order? c.settings = some errand) :
    c.Effect errand (c.perform operation) := by
  rw [perform_of_order direct order]
  split
  · exact effect_handIn c errand
  · exact effect_carryOut c errand

end Client

/-! ## Recorded sources -/

/-- A source of tokens and the answers that it has given, in order. -/
structure Recorded (σ : Type) where
  source : σ
  answers : List (Except SignInError String)

instance {σ : Type} [TokenSource σ] : TokenSource (Recorded σ) where
  obtain r :=
    let (answer, source) := TokenSource.obtain r.source
    (answer, ⟨source, r.answers ++ [answer]⟩)
  invalidate r := { r with source := TokenSource.invalidate r.source }

namespace Client

variable {σ α : Type}

/-- The same client with a record that is still empty. -/
def recorded (c : Client σ) : Client (Recorded σ) := { c with source := ⟨c.source, []⟩ }

/-- The same client without the record. -/
def forget (c : Client (Recorded σ)) : Client σ := { c with source := c.source.source }

/-- The answers that the source of a client has given. -/
def answers (c : Client (Recorded σ)) : List (Except SignInError String) := c.source.answers

theorem alike_forget (c : Client (Recorded σ)) :
    Alike (fun (r : Recorded σ) (s : σ) => r.source = s) c c.forget := ⟨rfl, rfl, rfl, rfl⟩

/-- A client that is alike to one with a record is that client without the record. -/
theorem forget_of_alikeWith {β : Type} {x : β × Client (Recorded σ)} {y : β × Client σ}
    (alike : AlikeWith (fun (r : Recorded σ) (s : σ) => r.source = s) x y) :
    (x.1, x.2.forget) = y := by
  obtain ⟨result, settings, wire, source, desk⟩ := alike
  refine Prod.ext result ?_
  show (⟨x.2.settings, x.2.wire, x.2.source.source, x.2.desk⟩ : Client σ) = _
  rw [settings, wire, source, desk]

variable [TokenSource σ]

/-- A source with a record cannot be told apart from the same source without it. -/
theorem isBisimulation_recorded :
    TokenSource.IsBisimulation fun (r : Recorded σ) (s : σ) => r.source = s where
  outcome same := by
    rw [← same]
    rfl
  obtain same := by
    rw [← same]
    rfl
  invalidate same := by
    rw [← same]
    rfl

/-- A client does the same whether its source keeps a record or not. -/
theorem forget_perform (c : Client (Recorded σ)) (operation : Operation α) :
    ((c.perform operation).1, (c.perform operation).2.forget) = c.forget.perform operation :=
  forget_of_alikeWith ((alike_forget c).perform isBisimulation_recorded operation)

theorem forget_performAll (c : Client (Recorded σ)) (operations : List (Operation α)) :
    ((c.performAll operations).1, (c.performAll operations).2.forget) =
      c.forget.performAll operations :=
  forget_of_alikeWith ((alike_forget c).performAll isBisimulation_recorded operations)

end Client

/-! ## Operations and their tokens -/

namespace Operation

variable {α : Type}

/-- The request is what the operation sends with the token. -/
def Sends (settings : BackendSettings) (operation : Operation α) (token : String)
    (request : Request) : Prop :=
  ∃ errand, operation.order? settings = some errand ∧ errand.request.withBearer token = request

/-- The operations that need a token. -/
def asking (operations : List (Operation α)) : List (Operation α) :=
  operations.filter fun operation => !operation.isEmptyBundle

/-- The operations that got a token, each with its token, if these are the answers to those that
need one. -/
def served (operations : List (Operation α)) (answers : List (Except SignInError String)) :
    List (Operation α × String) :=
  ((asking operations).zip answers).filterMap fun (operation, answer) =>
    answer.toOption.map (operation, ·)

theorem asking_append (first rest : List (Operation α)) :
    asking (first ++ rest) = asking first ++ asking rest := List.filter_append ..

theorem asking_of_emptyBundle {operation : Operation α} (empty : operation.isEmptyBundle = true) :
    asking [operation] = [] := by
  rw [asking, List.filter_singleton, empty]
  rfl

theorem asking_of_filled {operation : Operation α} (filled : operation.isEmptyBundle = false) :
    asking [operation] = [operation] := by
  rw [asking, List.filter_singleton, filled]
  rfl

theorem served_append {first rest : List (Operation α)}
    {answers others : List (Except SignInError String)}
    (each : answers.length = (asking first).length) :
    served (first ++ rest) (answers ++ others) = served first answers ++ served rest others := by
  rw [served, asking_append, List.zip_append each.symm, List.filterMap_append]
  rfl

end Operation

namespace Client

open Operation

variable {σ α : Type}

/-- What came between two states of a client: each of the operations that need a token got an
answer, and each that got a token sent a request with it. -/
structure Accounts (c : Client (Recorded σ)) (operations : List (Operation α))
    (d : Client (Recorded σ)) : Prop where
  settings : d.settings = c.settings
  desk : d.desk = c.desk
  traffic : ∃ answers requests, d.answers = c.answers ++ answers ∧
    d.wire.sent = c.wire.sent ++ requests ∧ answers.length = (asking operations).length ∧
    List.Forall₂ (fun s request => s.1.Sends c.settings s.2 request) (served operations answers)
      requests

theorem Accounts.append {c d e : Client (Recorded σ)} {first rest : List (Operation α)}
    (before : c.Accounts first d) (after : d.Accounts rest e) : c.Accounts (first ++ rest) e := by
  obtain ⟨answers, requests, answered, sent, each, own⟩ := before.traffic
  obtain ⟨answers', requests', answered', sent', each', own'⟩ := after.traffic
  refine ⟨after.settings.trans before.settings, after.desk.trans before.desk,
    answers ++ answers', requests ++ requests', ?_, ?_, ?_, ?_⟩
  · rw [answered', answered, List.append_assoc]
  · rw [sent', sent, List.append_assoc]
  · rw [asking_append, List.length_append, List.length_append, each, each']
  · rw [served_append each]
    rw [before.settings] at own'
    exact List.rel_append own own'

variable [TokenSource σ] {c : Client (Recorded σ)} {operation : Operation α}
  {operations : List (Operation α)}

/-- An operation with something to send makes one call for a token. -/
theorem answers_of_effect {errand : Errand α}
    {done : Except GatewayError (Outcome α) × Client (Recorded σ)}
    (effect : c.Effect errand done) :
    done.2.answers = c.answers ++ [(TokenSource.obtain c.source).1] := by
  cases effect with
  | denied obtained => rfl
  | granted obtained source wire settings desk =>
    -- a source that is told of a refused token is not asked again
    rcases source with source | source
    all_goals
      unfold answers
      rw [source]
      rfl

theorem accounts_perform (direct : c.desk = .direct) (sendable : operation.isSendable = true) :
    c.Accounts [operation] (c.perform operation).2 := by
  cases empty : operation.isEmptyBundle with
  | true =>
    rw [perform_of_emptyBundle empty]
    refine ⟨rfl, rfl, [], [], (List.append_nil _).symm, (List.append_nil _).symm, ?_, ?_⟩
    · rw [asking_of_emptyBundle empty]
      rfl
    · rw [served, asking_of_emptyBundle empty]
      exact .nil
  | false =>
    obtain ⟨errand, order⟩ := operation.exists_order c.settings sendable empty
    have effect := effect_perform direct order
    have answered := answers_of_effect effect
    have asks := asking_of_filled empty
    generalize c.perform operation = done at effect answered
    cases effect with
    | denied obtained =>
      rw [obtained] at answered
      refine ⟨rfl, rfl, _, [], answered, (List.append_nil _).symm, by rw [asks]; rfl, ?_⟩
      rw [served, asks]
      exact .nil
    | granted obtained source wire settings desk =>
      rw [obtained] at answered
      refine ⟨settings, desk, _, _, answered, congrArg Wire.sent wire, by rw [asks]; rfl, ?_⟩
      rw [served, asks]
      exact .cons ⟨errand, order, rfl⟩ .nil

theorem accounts_performAll (direct : c.desk = .direct)
    (sendable : ∀ operation ∈ operations, operation.isSendable = true) :
    c.Accounts operations (c.performAll operations).2 := by
  -- the settings and the desk are the same for the rest of the run, so its accounts can be added
  induction operations generalizing c with
  | nil =>
    exact ⟨rfl, rfl, [], [], (List.append_nil _).symm, (List.append_nil _).symm, rfl, .nil⟩
  | cons operation rest ih =>
    obtain ⟨own, others⟩ := List.forall_mem_cons.mp sendable
    have first := accounts_perform direct own
    exact first.append (ih (first.desk.trans direct) others)

/-! ## The main statement -/

/-- What holds of an operation of a client, and of the same operation with a record of the source.
-/
structure IsDisciplined (c : Client σ) (operation : Operation α) : Prop where
  /-- The record changes nothing. -/
  same : ((c.recorded.perform operation).1, (c.recorded.perform operation).2.forget) =
    c.perform operation
  /-- An empty bundle is refused without a call for a token. -/
  empty : operation.isEmptyBundle = true →
    (c.perform operation).1 = .error Submission.emptyBundle ∧
      (c.recorded.perform operation).2.answers = [] ∧
      (c.perform operation).2.wire.sent = c.wire.sent
  /-- Anything else makes one call for a token. -/
  called : operation.isEmptyBundle = false →
    (c.recorded.perform operation).2.answers = [(TokenSource.obtain c.source).1]
  /-- Without a token nothing is sent. -/
  denied : ∀ e, (c.recorded.perform operation).2.answers = [.error e] →
    (c.perform operation).2.wire.sent = c.wire.sent
  /-- With a token one request is sent, and it carries the token. -/
  granted : ∀ token, (c.recorded.perform operation).2.answers = [.ok token] →
    ∃ request, (c.perform operation).2.wire.sent = c.wire.sent ++ [request] ∧
      operation.Sends c.settings token request ∧ request.bearer = some token
  /-- The operation fails with the error of the source, and with no other error of this kind. -/
  authentication : ∀ e, (c.perform operation).1 = .error (.authentication e) ↔
    (c.recorded.perform operation).2.answers = [.error e]

/-- What holds of a run of operations of a client, and of the same run with a record of the
source. -/
structure IsInStep (c : Client σ) (operations : List (Operation α)) : Prop where
  /-- The record changes nothing. -/
  same : ((c.recorded.performAll operations).1, (c.recorded.performAll operations).2.forget) =
    c.performAll operations
  /-- There is one call for a token for each operation that needs one. -/
  calls : (c.recorded.performAll operations).2.answers.length = (asking operations).length
  /-- The requests are those of the operations that got a token, in their order. -/
  requests : ∃ requests, (c.performAll operations).2.wire.sent = c.wire.sent ++ requests ∧
    List.Forall₂ (fun s request => s.1.Sends c.settings s.2 request)
      (served operations (c.recorded.performAll operations).2.answers) requests

theorem isDisciplined_of_emptyBundle {c : Client σ} (empty : operation.isEmptyBundle = true) :
    c.IsDisciplined operation where
  same := forget_perform c.recorded operation
  empty _ := by
    rw [perform_of_emptyBundle empty, perform_of_emptyBundle empty]
    exact ⟨rfl, rfl, rfl⟩
  called filled := by
    rw [empty] at filled
    cases filled
  denied e answered := by
    rw [perform_of_emptyBundle empty] at answered
    cases answered
  granted token answered := by
    rw [perform_of_emptyBundle empty] at answered
    cases answered
  authentication e := by
    rw [perform_of_emptyBundle empty, perform_of_emptyBundle empty]
    exact ⟨nofun, nofun⟩

theorem isDisciplined_of_order {c : Client σ} {errand : Errand α} (direct : c.desk = .direct)
    (filled : operation.isEmptyBundle = false)
    (order : operation.order? c.settings = some errand) : c.IsDisciplined operation := by
  have called : (c.recorded.perform operation).2.answers = [(TokenSource.obtain c.source).1] :=
    answers_of_effect (effect_perform (c := c.recorded) direct order)
  have effect := effect_perform direct order
  refine ⟨forget_perform c.recorded operation, ?_, fun _ => called, ?_, ?_, ?_⟩
  · intro empty
    rw [filled] at empty
    cases empty
  all_goals
    rw [called]
    generalize c.perform operation = done at effect
  · intro e answered
    cases effect with
    | denied obtained => rfl
    | granted obtained =>
      rw [obtained] at answered
      cases answered
  · intro token answered
    cases effect with
    | denied obtained =>
      rw [obtained] at answered
      cases answered
    | granted obtained source wire =>
      rw [obtained] at answered
      cases answered
      exact ⟨_, congrArg Wire.sent wire, ⟨errand, order, rfl⟩, rfl⟩
  · intro e
    cases effect with
    | denied obtained =>
      rw [obtained]
      constructor
      · rintro ⟨⟩
        rfl
      · rintro ⟨⟩
        rfl
    | granted obtained =>
      -- the result is made of the answer, and no answer counts as a failed sign-in
      rw [obtained]
      exact ⟨fun same => absurd same (IsSignedIn.finish order _ e), nofun⟩

/-- Every operation that can be sent makes exactly one call for a token, sends exactly one request
if it gets one and none otherwise, and fails with an error of the source exactly if the source gave
it; an operation on an empty bundle does none of this. Over a run, the requests are those of the
operations that got a token, in their order. -/
theorem one_request_for_each_token (σ α : Type) [TokenSource σ] :
    (∀ (c : Client σ) (operation : Operation α),
        c.desk = .direct → operation.isSendable = true → c.IsDisciplined operation) ∧
      ∀ (c : Client σ) (operations : List (Operation α)),
        c.desk = .direct → (∀ operation ∈ operations, operation.isSendable = true) →
          c.IsInStep operations := by
  constructor
  · intro c operation direct sendable
    cases filled : operation.isEmptyBundle with
    | true => exact isDisciplined_of_emptyBundle filled
    | false =>
      obtain ⟨errand, order⟩ := operation.exists_order c.settings sendable filled
      exact isDisciplined_of_order direct filled order
  · intro c operations direct sendable
    have same := forget_performAll c.recorded operations
    obtain ⟨_, _, answers, requests, answered, sent, each, own⟩ :=
      accounts_performAll (c := c.recorded) direct sendable
    have given : (c.recorded.performAll operations).2.answers = answers := answered
    have wire : (c.performAll operations).2.wire = (c.recorded.performAll operations).2.wire :=
      congrArg (fun done => done.2.wire) same.symm
    refine ⟨same, by rw [given, each], requests, by rw [wire, sent]; rfl, ?_⟩
    rw [given]
    exact own

end Client

namespace Sample

/-- A client that is refused a token once and gets one from then on. -/
def newcomer : Client TokenScript where
  settings := backend
  wire := .ofReplies [.ok (.new 204 ""), .error (.connectionFailed "refused")]
  source := (TokenScript.ofToken "abc").queue [.error .tokenMissing]
  desk := .direct

/-- An empty bundle, a reading, a replacement and a bundle with a message. -/
def workday : List (Operation Json) :=
  [.submit (.ofMessages []), .get "Deal" .deal some, .put "Deal" (.ok .null) .deal, .submit bundle]

end Sample

namespace Client

/-- A reading of a client that is refused a token, and a run in which two of four operations get
one. -/
theorem workday_in_step :
    let reading : Operation Json := .get "Deal" .deal some
    Sample.newcomer.desk = .direct ∧ reading.isSendable = true ∧
      (∀ operation ∈ Sample.workday, operation.isSendable = true) ∧
        Sample.newcomer.IsDisciplined reading ∧ Sample.newcomer.IsInStep Sample.workday := by
  intro reading
  have sendable : ∀ operation ∈ Sample.workday, operation.isSendable = true := by
    simp [Sample.workday, Operation.isSendable, Except.isOk, Except.toBool]
  obtain ⟨each, run⟩ := one_request_for_each_token TokenScript Json
  exact ⟨rfl, rfl, sendable, each _ _ rfl rfl, run _ _ rfl sendable⟩

end Client

end LoanGateway
