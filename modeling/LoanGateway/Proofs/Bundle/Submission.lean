import LoanGateway.Bundle.Submission
import LoanGateway.Proofs.Http.Headers
import LoanGateway.Proofs.Json.Lookup
import LoanGateway.Proofs.Url.Form

/-!
# What submitting a bundle means

A bundle with messages is sent once, and the answer alone decides what comes of it. Warnings go
along with an answer and decide nothing.

- `Submission.IsLocated`, `Submission.IsInBody`: where an answer holds an identifier.
- `Submission.Identifies`: the identifier of an answer.
- `Bundle.Submits`: the request that submits a bundle.
- `Submission.SameButWarnings`: answers that differ in their warnings only.
- `Bundle.submit_means`: what is sent and what comes of it, for any bundle and any answer.
-/

namespace LoanGateway

open Json

namespace Submission

/-! ## Identifiers -/

/-- The identifier in the first address of an answer: the last segment that is not empty of the
address, taken relative to the base address. -/
def IsLocated (base : Url) (response : Response) (i : String) : Prop :=
  ∃ location, response.header? "location" = some location ∧ Text.trimString location ≠ "" ∧
    ∃ u front back, base.join? (Text.trimString location) = some u ∧
      u.segments? = some (front ++ i.toList :: back) ∧ i ≠ "" ∧ ∀ s ∈ back, s = []

/-- The identifier in a body: the value of the field, which is a text that is not blank or a number.
The last field of the name counts. -/
def IsInBody (body i : String) : Prop :=
  ∃ members v, parse? body = some (.object members) ∧
    (valuesOf identifierField members).getLast? = some v ∧
      ((v = .string i ∧ Text.isBlankText i = false) ∨
        ∃ n : Number, v = .number n ∧ i = String.ofList n.text)

/-- The identifier of an answer: the one in its address, or else the one in its body. -/
def Identifies (base : Url) (response : Response) (i : String) : Prop :=
  IsLocated base response i ∨ ((∀ j, ¬ IsLocated base response j) ∧ IsInBody response.body i)

/-- Only empty lists stand behind the last one that is not empty. -/
theorem getLast?_filter_not_isEmpty {α : Type} {l : List (List α)} {a : List α} :
    (l.filter (!·.isEmpty)).getLast? = some a ↔
      ∃ front back, l = front ++ a :: back ∧ a ≠ [] ∧ ∀ s ∈ back, s = [] := by
  constructor
  · intro last
    -- from the end: an empty list joins those behind, any other one is the last that is not empty
    induction l using List.reverseRecOn with
    | nil => exact nomatch last
    | append_singleton l s ih =>
      rw [List.filter_append] at last
      cases s with
      | nil =>
        rw [List.filter_cons_of_neg (by simp), List.filter_nil, List.append_nil] at last
        obtain ⟨front, back, rfl, full, empty⟩ := ih last
        refine ⟨front, back ++ [[]], by simp, full, ?_⟩
        exact List.forall_mem_append.mpr ⟨empty, List.forall_mem_singleton.mpr rfl⟩
      | cons c s =>
        rw [List.filter_cons_of_pos (by simp), List.filter_nil, List.getLast?_concat] at last
        obtain rfl := Option.some.inj last
        exact ⟨l, [], rfl, List.cons_ne_nil c s, List.forall_mem_nil _⟩
  · rintro ⟨front, back, rfl, full, empty⟩
    have none : back.filter (!·.isEmpty) = [] :=
      List.filter_eq_nil_iff.mpr fun s mem => by simp [empty s mem]
    rw [List.filter_append, List.filter_cons_of_pos (by simp [full]), none, List.getLast?_concat]

theorem locationIdentifier?_eq_some_iff {base : Url} {location i : String} :
    Backend.locationIdentifier? base location = some i ↔ Text.trimString location ≠ "" ∧
      ∃ u front back, base.join? (Text.trimString location) = some u ∧
        u.segments? = some (front ++ i.toList :: back) ∧ i ≠ "" ∧ ∀ s ∈ back, s = [] := by
  have segment (u : Url) : u.lastSegment? = some i ↔ ∃ front back,
      u.segments? = some (front ++ i.toList :: back) ∧ i ≠ "" ∧ ∀ s ∈ back, s = [] := by
    have text (a : List Char) : String.ofList a = i ↔ a = i.toList := by
      rw [← String.toList_inj, String.toList_ofList]
    rw [Url.lastSegment?, Option.map_eq_some_iff]
    simp only [text, exists_eq_right, Option.bind_eq_some_iff, getLast?_filter_not_isEmpty]
    constructor
    · rintro ⟨_, segments, front, back, rfl, full, empty⟩
      exact ⟨front, back, segments, by simpa using full, empty⟩
    · rintro ⟨front, back, segments, full, empty⟩
      exact ⟨_, segments, front, back, rfl, by simpa using full, empty⟩
  rw [Backend.locationIdentifier?]
  by_cases blank : Text.trimString location = ""
  · simp [blank]
  · rw [if_neg (by simpa using blank), and_iff_right blank, Option.bind_eq_some_iff]
    simp only [segment, exists_and_left]

/-- The field of a body is looked up in its members: the last one of the name counts. -/
theorem bodyIdentifier?_eq_some_iff {body i : String} :
    Backend.bodyIdentifier? identifierField body = some i ↔ IsInBody body i := by
  have value (v : Json) : Backend.identifierOf? v.canonical = some i ↔
      (v = .string i ∧ Text.isBlankText i = false) ∨
        ∃ n : Number, v = .number n ∧ i = String.ofList n.text := by
    cases v with
    | string s =>
      show (if Text.isBlankText s then none else some s) = some i ↔ _
      by_cases blank : Text.isBlankText s = true
      · rw [if_pos blank]
        constructor
        · exact nofun
        · rintro (⟨⟨⟩, not_blank⟩ | ⟨n, same, _⟩)
          · exact absurd blank (by simp [not_blank])
          · exact nomatch same
      · rw [if_neg blank]
        constructor
        · rintro ⟨⟩
          exact .inl ⟨rfl, by simpa using blank⟩
        · rintro (⟨⟨⟩, _⟩ | ⟨n, same, _⟩)
          · rfl
          · exact nomatch same
    | number n =>
      show some (String.ofList n.text) = some i ↔ _
      simp [eq_comm (a := i)]
    | _ => simp [canonical, Backend.identifierOf?]
  -- the body is brought in order before it is looked at, which keeps the last value of each name
  have member (members : List (String × Json)) :
      (sortMembers (canonicalMembers members)).lookup identifierField =
        (valuesOf identifierField members).getLast?.map canonical := by
    rw [lookup_sortMembers, canonicalMembers_eq_map, valuesOf_map, List.getLast?_map]
  rw [Backend.bodyIdentifier?, IsInBody]
  cases read : parse? body with
  | none => simp
  | some v =>
    cases v with
    | object members =>
      simp only [Option.map_some, canonical, member, Option.bind_map, Option.bind_eq_some_iff,
        Function.comp_apply, value, Option.some.injEq, Json.object.injEq]
      constructor
      · rintro ⟨v, last, is⟩
        exact ⟨members, v, rfl, last, is⟩
      · rintro ⟨_, v, rfl, last, is⟩
        exact ⟨v, last, is⟩
    | _ => simp [canonical]

/-- The identifier in the first address of an answer is found if there is one. -/
theorem located_eq_some_iff {base : Url} {response : Response} {i : String} :
    (response.header? "location").bind (Backend.locationIdentifier? base) = some i ↔
      IsLocated base response i := by
  rw [Option.bind_eq_some_iff]
  simp only [locationIdentifier?_eq_some_iff]
  rfl

/-- The identifier of an answer is found if it has one. -/
theorem identifier?_eq_some_iff {settings : BackendSettings} {response : Response} {i : String} :
    identifier? settings response = some i ↔ Identifies settings.baseUrl response i := by
  rw [identifier?, Identifies, ← located_eq_some_iff, ← bodyIdentifier?_eq_some_iff]
  simp only [← located_eq_some_iff]
  cases (response.header? "location").bind (Backend.locationIdentifier? settings.baseUrl) with
  | none => simp
  | some j => simp

/-! ## Answers -/

/-- What may come of an answer. A success gives a receipt exactly if the answer has an identifier,
and the warning of the receipt is the first one of the answer. -/
def IsOutcome (settings : BackendSettings) (phrases : List String) :
    Reply → Except GatewayError Receipt → Prop
  | .error fault, result => result = .error (.internal fault.message)
  | .ok response, result =>
    if 200 ≤ response.status ∧ response.status < 300 then
      (∀ receipt, result = .ok receipt ↔
        Identifies settings.baseUrl response receipt.identifier ∧
          receipt.warning = response.header? warningHeader) ∧
      ((∀ i, ¬ Identifies settings.baseUrl response i) → result = .error identifierMissing)
    else result = .error (Backend.verdict response.status response.body phrases)

theorem isOutcome_receipt (settings : BackendSettings) (phrases : List String) (reply : Reply) :
    IsOutcome settings phrases reply (receipt settings phrases reply) := by
  cases reply with
  | error fault => rfl
  | ok response =>
    rw [IsOutcome, receipt, Reply.accepted]
    by_cases success : 200 ≤ response.status ∧ response.status < 300
    · have accepted : response.isSuccess = true := by simpa [Response.isSuccess] using success
      rw [if_pos success, if_pos accepted]
      dsimp only
      cases found : identifier? settings response with
      | none =>
        have missing (i : String) : ¬ Identifies settings.baseUrl response i := by
          rw [← identifier?_eq_some_iff, found]
          exact nofun
        exact ⟨fun r => ⟨nofun, fun h => absurd h.1 (missing _)⟩, fun _ => rfl⟩
      | some j =>
        simp only [← identifier?_eq_some_iff, found]
        refine ⟨fun r => ?_, fun none => absurd rfl (none j)⟩
        constructor
        · rintro ⟨⟩
          exact ⟨rfl, rfl⟩
        · rintro ⟨same, warning⟩
          exact congrArg Except.ok (by rw [Option.some.inj same, ← warning])
    · have refused : ¬ response.isSuccess = true := by simpa [Response.isSuccess] using success
      rw [if_neg success, if_neg refused]
      rfl

/-- The warning of a receipt is the first one of the answer. -/
theorem warning_of_receipt_eq_ok {settings : BackendSettings} {phrases : List String}
    {response : Response} {r : Receipt}
    (got : receipt settings phrases (.ok response) = .ok r) :
    r.warning = response.header? warningHeader := by
  have outcome := isOutcome_receipt settings phrases (.ok response)
  rw [got, IsOutcome] at outcome
  split at outcome
  · exact ((outcome.1 r).mp rfl).2
  · exact nomatch outcome

/-- Two answers differ in their warnings only: some are added, left out or moved. -/
structure SameButWarnings (r r' : Response) : Prop where
  status : r.status = r'.status
  body : r.body = r'.body
  headers : r.headers.filter (fun h => !Response.sameName h.1 warningHeader) =
    r'.headers.filter fun h => !Response.sameName h.1 warningHeader

/-- Warnings do not change the values of other headers. -/
theorem header?_eq_of_sameButWarnings {r r' : Response} (same : SameButWarnings r r')
    {name : String} (other : Response.sameName name warningHeader = false) :
    r.header? name = r'.header? name := by
  -- the headers of another name all pass the filter that takes the warnings out
  have kept (r : Response) : r.header? name =
      (((r.headers.filter fun h => !Response.sameName h.1 warningHeader).filter
        fun h => Response.sameName h.1 name).map (·.2)).head? := by
    rw [Response.header?, Response.headerValues, List.filter_filter]
    refine congrArg (fun l => (List.map _ l).head?) (List.filter_congr fun h _ => ?_)
    show Response.sameName h.1 name =
      (Response.sameName h.1 name && !Response.sameName h.1 warningHeader)
    by_cases this : Response.sameName h.1 name = true
    · have apart : Response.sameName h.1 warningHeader = false := by
        rw [Response.sameName, beq_iff_eq] at this
        rwa [Response.sameName, this]
      rw [this, apart]
      rfl
    · rw [(Bool.not_eq_true _).mp this]
      rfl
  rw [kept, kept, same.headers]

/-- Warnings do not change what comes of an answer, but for the warning itself. -/
theorem receipt_map_eq {settings : BackendSettings} {phrases : List String} {r r' : Response}
    (same : SameButWarnings r r') :
    (receipt settings phrases (.ok r)).map (·.identifier) =
      (receipt settings phrases (.ok r')).map (·.identifier) := by
  have identifiers : identifier? settings r = identifier? settings r' := by
    rw [identifier?, identifier?, header?_eq_of_sameButWarnings same (by decide), same.body]
  have successes : r.isSuccess = r'.isSuccess := by
    rw [Response.isSuccess, Response.isSuccess, same.status]
  rw [receipt, receipt, Reply.accepted, Reply.accepted, successes, same.status, same.body]
  cases r'.isSuccess with
  | false => rfl
  | true =>
    simp only [if_true, identifiers]
    cases identifier? settings r' <;> rfl

end Submission

namespace Bundle

/-! ## Submissions -/

/-- The request that submits a bundle: to the resource that takes bundles, with the queue as a
further pair of the query if there is one. -/
structure Submits (b : Bundle) (settings : BackendSettings) (token : String) (request : Request) :
    Prop where
  method : request.method = .post
  url : ∃ query, request.url = ({ settings.urlFor Submission.path with query } : Url).text ∧
    (b.queue = none → query = (settings.urlFor Submission.path).query) ∧
    Url.pairs (query.getD []) = Url.pairs ((settings.urlFor Submission.path).query.getD []) ++
      b.queue.toList.map fun queue => (some Submission.queueParameter.toList, some queue.toList)
  headers : request.headers = [("content-type", "application/json")]
  bearer : request.bearer = some token
  body : request.body = some b.text
  timeout : request.timeout = none

variable {settings : BackendSettings} {b : Bundle} {token : String} {phrases : List String}

theorem submits_submission : b.Submits settings token (b.submission settings token) := by
  refine ⟨rfl, ?_, Request.headers_withJson List.not_mem_nil, rfl, rfl, rfl⟩
  · show ∃ query, (b.submissionUrl settings).text = _ ∧ _
    rw [submissionUrl]
    cases b.queue with
    | none => exact ⟨_, rfl, fun _ => rfl, (List.append_nil _).symm⟩
    | some queue => exact ⟨_, rfl, nofun, Url.pairs_addPair ..⟩

/-- Submitting a bundle without messages fails and sends nothing. A bundle with messages is sent
once; the answer to it decides what comes of it, and its warnings only which warning goes along. -/
theorem submit_means (settings : BackendSettings) (b : Bundle) (token : String)
    (phrases : List String) (w : Wire) :
    (b.messages = [] → b.submit settings token phrases w = (.error Submission.emptyBundle, w)) ∧
      (b.messages ≠ [] → ∃ request result, b.Submits settings token request ∧
        b.submit settings token phrases w = (result, ⟨w.replies.tail, w.sent ++ [request]⟩) ∧
          Submission.IsOutcome settings phrases (w.replies.head?.getD Wire.exhausted) result) ∧
      ∀ (w' : Wire) (r r' : Response), w.replies.head? = some (.ok r) →
        w'.replies.head? = some (.ok r') → Submission.SameButWarnings r r' →
          (b.submit settings token phrases w).1.map (·.identifier) =
              (b.submit settings token phrases w').1.map (·.identifier) ∧
            (∀ receipt, (b.submit settings token phrases w).1 = .ok receipt →
              receipt.warning = r.header? Submission.warningHeader) ∧
            ∀ receipt, (b.submit settings token phrases w').1 = .ok receipt →
              receipt.warning = r'.header? Submission.warningHeader := by
  have sent (full : b.messages ≠ []) (w : Wire) : b.submit settings token phrases w =
      (Submission.receipt settings phrases (w.replies.head?.getD Wire.exhausted),
        ⟨w.replies.tail, w.sent ++ [b.submission settings token]⟩) := by
    rw [submit, if_neg (by simpa using full)]
    rfl
  have unsent (empty : b.messages = []) (w : Wire) :
      b.submit settings token phrases w = (.error Submission.emptyBundle, w) := by
    rw [submit, if_pos (by simpa using empty)]
  refine ⟨fun empty => unsent empty w, fun full => ?_, fun w' r r' first second same => ?_⟩
  · exact ⟨_, _, submits_submission, sent full w, Submission.isOutcome_receipt ..⟩
  · by_cases empty : b.messages = []
    · rw [unsent empty, unsent empty]
      exact ⟨rfl, nofun, nofun⟩
    · rw [sent empty, sent empty, first, second]
      have warning (r : Response) (receipt : Receipt)
          (got : Submission.receipt settings phrases (.ok r) = .ok receipt) :
          receipt.warning = r.header? Submission.warningHeader :=
        Submission.warning_of_receipt_eq_ok got
      exact ⟨Submission.receipt_map_eq same, warning r, warning r'⟩

end Bundle

namespace Sample

/-- Settings with a path, and a bundle for a queue whose name a query cannot hold as it is. -/
def depot : BackendSettings where
  baseUrl := ⟨"https".toList, some ⟨[], [], some (.domain "acbs.example.com".toList), none⟩,
    .rooted ["api".toList, "v1".toList], none, none⟩
  timeout := ⟨30⟩
  maxRedirects := 5

def parcel : Bundle :=
  { Bundle.ofMessages [.facilityCode ⟨"0030000321", "100", "C", ⟨2024, 5, 3, by decide⟩, []⟩] with
    queue := some "A&B 1" }

/-- The bundle as it is sent. The queue is no part of it. -/
def parcelText : String :=
  "\x7b\"PortfolioIdentifier\":\"E1\",\"InitialBundleStatusCode\":3," ++
  "\"InitiatingUserName\":\"APIUKEF\",\"UseAPIUserIndicator\":false," ++
  "\"BundleMessageList\":[\x7b\"$type\":\"FacilityCodeValueTransaction\"," ++
  "\"FacilityIdentifier\":\"0030000321\",\"LenderType\":\x7b\"LenderTypeCode\":\"100\"\x7d," ++
  "\"FacilityTransactionCodeValue\":\x7b\"FacilityTransactionCodeValueCode\":\"C\"\x7d," ++
  "\"EffectiveDate\":\"2024-05-03T00:00:00Z\"\x7d]\x7d"

set_option maxRecDepth 2000 in
theorem text_parcel : parcel.text = parcelText := by cbv

/-- Two answers with warnings in different places. -/
def warned : Response :=
  ⟨201, [("location", "../v1/Bundle/17/"), ("processing-warning", "late")], ""⟩

def warnedTwice : Response :=
  ⟨201, [("Processing-Warning", "early"), ("location", "../v1/Bundle/17/"),
    ("processing-warning", "late")], ""⟩

end Sample

namespace Bundle

/-- A bundle for a queue is sent as it is written, its identifier is read from the address of the
answer, and another warning does not change it. -/
theorem parcel_is_submitted :
    Submission.SameButWarnings Sample.warned Sample.warnedTwice ∧
      (∃ request, Sample.parcel.Submits Sample.depot "t" request ∧
        request.body = some Sample.parcelText ∧
        Sample.parcel.submit Sample.depot "t" [] ⟨[.ok Sample.warned], []⟩ =
          (.ok ⟨"17", some "late"⟩, ⟨[], [request]⟩)) ∧
      (Sample.parcel.submit Sample.depot "t" [] ⟨[.ok Sample.warnedTwice], []⟩).1.map
        (·.identifier) = .ok "17" := by
  have same : Submission.SameButWarnings Sample.warned Sample.warnedTwice :=
    ⟨rfl, rfl, by decide⟩
  have located : Submission.IsLocated Sample.depot.baseUrl Sample.warned "17" := by
    refine ⟨"../v1/Bundle/17/", by decide, by decide, ?_⟩
    let path : Url.Path := .rooted ["v1".toList, "Bundle".toList, "17".toList, []]
    refine ⟨{ Sample.depot.baseUrl with path }, ["v1".toList, "Bundle".toList], [[]], ?_⟩
    exact ⟨by decide +kernel, rfl, by decide, List.forall_mem_singleton.mpr rfl⟩
  obtain ⟨_, sends, warnings⟩ :=
    submit_means Sample.depot Sample.parcel "t" [] ⟨[.ok Sample.warned], []⟩
  obtain ⟨request, result, submits, run, outcome⟩ := sends (List.cons_ne_nil _ _)
  have first : result = .ok ⟨"17", some "late"⟩ :=
    (outcome.1 ⟨"17", some "late"⟩).mpr ⟨.inl located, by decide⟩
  have second := (warnings ⟨[.ok Sample.warnedTwice], []⟩ _ _ rfl rfl same).1
  rw [run, first] at second
  have body : request.body = some Sample.parcelText :=
    submits.body.trans (congrArg some Sample.text_parcel)
  exact ⟨same, ⟨request, submits, body, by rw [run, first]; rfl⟩, second.symm⟩

end Bundle

end LoanGateway
