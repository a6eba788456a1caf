import LoanGateway.Proofs.Backend.Decision
import LoanGateway.Proofs.Client.Refusal
import LoanGateway.Proofs.Session.Rounds

/-!
# What reading a resource gives

A reading gets one answer. A success with a value gives what the value is decoded to, and any other
answer is judged by its status and its body, a success too. Bodies are looked at twice on that way,
once for a value and once for the verdict.

- `Client.Reads`: what the reading of an answer gives.
- `Client.get_eq_iff_reads`: a reading gives what its answer is read as.
- `Client.HasValue`, `Client.SaysAbsent`, `Client.SaysBad`: what an answer says.
- `Client.reading_by_answer`: the main statement.
- `Client.quoted_as_plain`: a quoted text and the plain one mean the same.
-/

namespace LoanGateway.Client

open Backend

variable {σ α : Type} {decode : Json → Option α} {phrases : List String} {reply : Reply}
  {response : Response} {result : Except GatewayError α}

/-! ## Answers -/

/-- What the reading of an answer gives. -/
inductive Reads (decode : Json → Option α) (phrases : List String) :
    Reply → Except GatewayError α → Prop
  | fault (fault : TransportFault) :
      Reads decode phrases (.error fault) (.error (.internal fault.message))
  | value {response : Response} {v : Json} {a : α} (succeeds : Reply.Succeeds (.ok response) response)
      (is : Body.IsFrom response.body (.structured v)) (decoded : decode v = some a) :
      Reads decode phrases (.ok response) (.ok a)
  | rejected {response : Response} {v : Json} (succeeds : Reply.Succeeds (.ok response) response)
      (is : Body.IsFrom response.body (.structured v)) (decoded : decode v = none) :
      Reads decode phrases (.ok response) (.error (.internal unexpectedAnswer))
  /-- An answer without a value is judged, whether it is a success or not. -/
  | judged {response : Response} {e : GatewayError}
      (no_value : ∀ v, Reply.Succeeds (.ok response) response →
        ¬ Body.IsFrom response.body (.structured v))
      (decides : Decides phrases response.body response.status e) :
      Reads decode phrases (.ok response) (.error e)

/-- A success without a value is judged. -/
theorem readAnswer_of_no_value (no_value : ∀ v, ¬ Body.IsFrom response.body (.structured v)) :
    readAnswer decode phrases response =
      .error (verdict response.status response.body phrases) := by
  unfold readAnswer
  split
  · rename_i v read
    exact absurd (Body.read_eq_iff_isFrom.mp read) (no_value v)
  · rfl

theorem Reads.eq (reads : Reads decode phrases reply result) :
    (accept phrases reply).bind (readAnswer decode phrases) = result := by
  cases reads with
  | fault fault =>
    rw [accept_of_fails (.unanswered fault)]
    rfl
  | value succeeds is decoded =>
    rw [accept_of_succeeds succeeds]
    show readAnswer decode phrases _ = _
    rw [readAnswer, Body.read_eq_iff_isFrom.mpr is]
    dsimp only
    rw [decoded]
  | rejected succeeds is decoded =>
    rw [accept_of_succeeds succeeds]
    show readAnswer decode phrases _ = _
    rw [readAnswer, Body.read_eq_iff_isFrom.mpr is]
    dsimp only
    rw [decoded]
  | @judged response e no_value decides =>
    -- a success is judged by the reading, and any other answer by the exchange before it
    by_cases status : 200 ≤ response.status ∧ response.status < 300
    · have succeeds : Reply.Succeeds (.ok response) response := ⟨rfl, status⟩
      rw [accept_of_succeeds succeeds]
      show readAnswer decode phrases response = _
      rw [readAnswer_of_no_value fun v => no_value v succeeds, decides.verdict_eq]
    · have fails : Reply.Fails (.ok response) (.refused response.status response.body) :=
        .refused (by omega)
      rw [accept_of_fails fails, ← decides.verdict_eq]
      rfl

/-- Every answer is read as something. -/
theorem exists_reads (decode : Json → Option α) (phrases : List String) (reply : Reply) :
    ∃ result, Reads decode phrases reply result := by
  cases reply with
  | error fault => exact ⟨_, .fault fault⟩
  | ok response =>
    by_cases value : Reply.Succeeds (.ok response) response ∧
        ∃ v, Body.IsFrom response.body (.structured v)
    · obtain ⟨succeeds, v, is⟩ := value
      cases decoded : decode v with
      | none => exact ⟨_, .rejected succeeds is decoded⟩
      | some a => exact ⟨_, .value succeeds is decoded⟩
    · obtain ⟨e, decides⟩ := exists_decides phrases response.body response.status
      exact ⟨_, .judged (fun v succeeds is => value ⟨succeeds, v, is⟩) decides⟩

variable [TokenSource σ] {c : Client σ} {path token : String} {resource : Resource}

/-- A reading with a token gives what its answer is read as, and nothing else. -/
theorem get_eq_iff_reads (obtained : (TokenSource.obtain c.source).1 = .ok token) :
    (c.get path resource decode).1 = result ↔
      Reads decode resource.absencePhrases c.wire.next result := by
  have answered : (c.get path resource decode).1 =
      (accept resource.absencePhrases c.wire.next).bind
        (readAnswer decode resource.absencePhrases) := by
    unfold get
    dsimp only
    rw [exchange_eq, obtained]
    dsimp only
    rw [Wire.send_eq]
  rw [answered]
  constructor
  · rintro rfl
    obtain ⟨result, reads⟩ := exists_reads decode resource.absencePhrases c.wire.next
    rw [reads.eq]
    exact reads
  · exact Reads.eq

/-! ## What answers say -/

/-- The answer is a success with a value that is decoded to `a`. -/
def HasValue (decode : Json → Option α) (reply : Reply) (a : α) : Prop :=
  ∃ response v, reply.Succeeds response ∧ Body.IsFrom response.body (.structured v) ∧
    decode v = some a

/-- The answer says that there is no such resource: by `null`, or by a text with a phrase in it. -/
def SaysAbsent (phrases : List String) (reply : Reply) : Prop :=
  ∃ response, reply = .ok response ∧
    (response.status = 200 ∧ Body.IsFrom response.body .null ∨
      response.status = 400 ∧ ∃ s, Body.IsFrom response.body (.text s) ∧ Holds phrases s)

/-- The answer is about a bad request. -/
def SaysBad (reply : Reply) : Prop := ∃ response, reply = .ok response ∧ response.status = 400

/-- No success has this status. -/
theorem not_succeeds_of_bad (status : response.status = 400) :
    ¬ Reply.Succeeds (.ok response) response := by
  intro succeeds
  have most := succeeds.2.2
  omega

theorem reads_ok_iff {a : α} : Reads decode phrases reply (.ok a) ↔ HasValue decode reply a := by
  constructor
  · intro reads
    cases reads with
    | value succeeds is decoded => exact ⟨_, _, succeeds, is, decoded⟩
  · rintro ⟨response, v, ⟨rfl, status⟩, is, decoded⟩
    exact .value ⟨rfl, status⟩ is decoded

theorem reads_notFound_iff :
    (∃ detail, Reads decode phrases reply (.error (.notFound detail))) ↔
      SaysAbsent phrases reply := by
  constructor
  · rintro ⟨detail, reads⟩
    cases reads with
    | judged _ decides => exact ⟨_, rfl, decides_notFound_iff.mp ⟨detail, decides⟩⟩
  · rintro ⟨response, rfl, absent⟩
    obtain ⟨detail, decides⟩ := decides_notFound_iff.mpr absent
    refine ⟨detail, .judged (fun v succeeds is => ?_) decides⟩
    rcases absent with ⟨_, null⟩ | ⟨status, _⟩
    · exact nomatch is.unique null
    · exact not_succeeds_of_bad status succeeds

theorem reads_badRequest_iff :
    (∃ detail, Reads decode phrases reply (.error (.badRequest detail))) ↔
      SaysBad reply ∧ ¬ SaysAbsent phrases reply := by
  constructor
  · rintro ⟨detail, reads⟩
    cases reads with
    | judged _ decides =>
      obtain ⟨status, none_holds⟩ := decides_badRequest_iff.mp ⟨detail, decides⟩
      refine ⟨⟨_, rfl, status⟩, ?_⟩
      rintro ⟨other, same, absent⟩
      obtain rfl := Except.ok.inj same
      rcases absent with ⟨success, _⟩ | ⟨_, holds⟩
      · omega
      · exact none_holds holds
  · rintro ⟨⟨response, rfl, status⟩, not_absent⟩
    obtain ⟨detail, decides⟩ := decides_badRequest_iff.mpr
      ⟨status, fun holds => not_absent ⟨response, rfl, .inr ⟨status, holds⟩⟩⟩
    exact ⟨detail, .judged (fun _ succeeds _ => not_succeeds_of_bad status succeeds) decides⟩

/-- An answer is read as one thing. -/
theorem Reads.unique {result' : Except GatewayError α} (reads : Reads decode phrases reply result)
    (reads' : Reads decode phrases reply result') : result = result' :=
  reads.eq.symm.trans reads'.eq

/-- What is left is a fault. -/
theorem reads_internal_iff :
    (∃ detail, Reads decode phrases reply (.error (.internal detail))) ↔
      (∀ a, ¬ HasValue decode reply a) ∧ ¬ SaysAbsent phrases reply ∧ ¬ SaysBad reply := by
  constructor
  · rintro ⟨detail, reads⟩
    have not_absent : ¬ SaysAbsent phrases reply := by
      intro absent
      obtain ⟨_, other⟩ := reads_notFound_iff.mpr absent
      cases reads.unique other
    refine ⟨?_, not_absent, ?_⟩
    · intro a value
      cases reads.unique (reads_ok_iff.mpr value)
    · intro bad
      obtain ⟨_, other⟩ := reads_badRequest_iff.mpr ⟨bad, not_absent⟩
      cases reads.unique other
  · rintro ⟨no_value, not_absent, not_bad⟩
    obtain ⟨result, reads⟩ := exists_reads decode phrases reply
    cases result with
    | ok a => exact absurd (reads_ok_iff.mp reads) (no_value a)
    | error e =>
      cases e with
      | notFound detail => exact absurd (reads_notFound_iff.mp ⟨detail, reads⟩) not_absent
      | badRequest detail => exact absurd (reads_badRequest_iff.mp ⟨detail, reads⟩).1 not_bad
      | internal detail => exact ⟨detail, reads⟩
      | authentication error =>
        cases reads with
        | judged _ decides => exact absurd decides (not_decides_authentication error)

/-! ## The main statement -/

/-- With a token, a reading gives a value exactly if the answer is a success with a value, it finds
nothing exactly if the answer says so, and it is a bad request exactly by its status otherwise. In all
other cases there is a fault of the backend. -/
theorem reading_by_answer (obtained : (TokenSource.obtain c.source).1 = .ok token)
    (path : String) (resource : Resource) (decode : Json → Option α) :
    (∀ a, (c.get path resource decode).1 = .ok a ↔ HasValue decode c.wire.next a) ∧
      ((∃ detail, (c.get path resource decode).1 = .error (.notFound detail)) ↔
        SaysAbsent resource.absencePhrases c.wire.next) ∧
      ((∃ detail, (c.get path resource decode).1 = .error (.badRequest detail)) ↔
        SaysBad c.wire.next ∧ ¬ SaysAbsent resource.absencePhrases c.wire.next) ∧
      ((∃ detail, (c.get path resource decode).1 = .error (.internal detail)) ↔
        (∀ a, ¬ HasValue decode c.wire.next a) ∧
          ¬ SaysAbsent resource.absencePhrases c.wire.next ∧ ¬ SaysBad c.wire.next) := by
  simp only [get_eq_iff_reads obtained]
  exact ⟨fun _ => reads_ok_iff, reads_notFound_iff, reads_badRequest_iff, reads_internal_iff⟩

/-- Only `true` and `false` are values of a flag. Where any value will do, a number is read as what it
stands for, however it is written. -/
theorem flags_are_read_by_answer :
    let flag : Json → Option Bool := fun | .bool b => some b | _ => none
    ((Sample.client [.ok (.new 200 "true")]).get "Deal" .deal flag).1 = .ok true ∧
      (∃ detail, ((Sample.client [.ok (.new 201 "null")]).get "Deal" .deal flag).1 =
        .error (.internal detail)) ∧
      ∃ amount : Json,
        ((Sample.client [.ok (.new 200 " -12.50e1\n")]).get "Deal" .deal some).1 = .ok amount ∧
          amount.text = "-125.0" := by
  intro flag
  have signedIn (replies : List Reply) :
      (TokenSource.obtain (Sample.client replies).source).1 = .ok "abc" := rfl
  have read : Body.read "true" = .structured (.bool true) := rfl
  have null : Body.read "null" = .null := rfl
  refine ⟨?_, ?_, ?_⟩
  · obtain ⟨ok_iff, _⟩ := reading_by_answer (signedIn [.ok (.new 200 "true")]) "Deal" .deal flag
    exact (ok_iff true).mpr
      ⟨_, _, ⟨rfl, by decide, by decide⟩, Body.read_eq_iff_isFrom.mp read, rfl⟩
  · obtain ⟨_, _, _, internal_iff⟩ :=
      reading_by_answer (signedIn [.ok (.new 201 "null")]) "Deal" .deal flag
    refine internal_iff.mpr ⟨?_, ?_, ?_⟩
    · rintro a ⟨_, v, ⟨⟨⟩, _⟩, is, _⟩
      exact nomatch null.symm.trans (Body.read_eq_iff_isFrom.mpr is)
    · rintro ⟨_, ⟨⟩, ⟨status, _⟩ | ⟨status, _⟩⟩
      · exact absurd status (by decide)
      · exact absurd status (by decide)
    · rintro ⟨_, ⟨⟩, status⟩
      exact absurd status (by decide)
  · obtain ⟨ok_iff, _⟩ :=
      reading_by_answer (signedIn [.ok (.new 200 " -12.50e1\n")]) "Deal" .deal some
    have number : (Body.read " -12.50e1\n").value?.map Json.text = some "-125.0" := by
      decide +kernel
    obtain ⟨amount, value, written⟩ := Option.map_eq_some_iff.mp number
    have is := Body.read_eq_iff_isFrom.mp (Body.value?_eq_some_iff.mp value)
    exact ⟨amount, (ok_iff amount).mpr ⟨_, amount, ⟨rfl, by decide, by decide⟩, is, rfl⟩, written⟩

/-! ## Quoted texts -/

/-- The client when the next answer is already there. -/
def answeredBy (c : Client σ) (response : Response) : Client σ :=
  { c with wire := { c.wire with replies := .ok response :: c.wire.replies } }

/-- What is answered with a text cannot be read. It is judged if there is a token. -/
theorem get_answeredBy_text (c : Client σ) (response : Response) {s : String}
    (text : Body.read response.body = .text s) (path : String) (resource : Resource)
    (decode : Json → Option α) :
    ((c.answeredBy response).get path resource decode).1 =
      match (TokenSource.obtain c.source).1 with
      | .ok _ => .error (verdict response.status response.body resource.absencePhrases)
      | .error error => .error (.authentication error) := by
  cases obtained : (TokenSource.obtain c.source).1 with
  | ok token =>
    have signedIn : (TokenSource.obtain (c.answeredBy response).source).1 = .ok token := obtained
    refine (get_eq_iff_reads signedIn).mpr (.judged ?_ (verdict_eq_iff_decides.mp rfl))
    intro v _ is
    exact nomatch text.symm.trans (Body.read_eq_iff_isFrom.mpr is)
  | error error =>
    have refused : (TokenSource.obtain (c.answeredBy response).source).1 = .error error := obtained
    unfold get
    dsimp only
    rw [exchange_eq, refused]
    rfl

/-- A text that is not a JSON text and any JSON string that stands for it mean the same: the verdicts
are the same, and a reading fails with the same error, whatever the status. -/
theorem quoted_as_plain {s quoted : String} (unread : Json.parse? s = none)
    (is : Json.IsQuoted s quoted) :
    (∀ status phrases, verdict status quoted phrases = verdict status s phrases) ∧
      ∀ {σ α : Type} [TokenSource σ] (c : Client σ) (path : String) (resource : Resource)
        (decode : Json → Option α) (status : Nat) (headers : List (String × String)),
        ∃ e, ((c.answeredBy ⟨status, headers, quoted⟩).get path resource decode).1 = .error e ∧
          ((c.answeredBy ⟨status, headers, s⟩).get path resource decode).1 = .error e := by
  have same : Body.read quoted = Body.read s := by
    rw [Body.read_of_isQuoted is, Body.read_of_unread unread]
  have verdicts (status : Nat) (phrases : List String) :
      verdict status quoted phrases = verdict status s phrases := by
    unfold verdict
    rw [same]
  refine ⟨verdicts, ?_⟩
  intro σ α _ c path resource decode status headers
  rw [get_answeredBy_text c ⟨status, headers, quoted⟩ (Body.read_of_isQuoted is),
    get_answeredBy_text c ⟨status, headers, s⟩ (Body.read_of_unread unread)]
  dsimp only
  rw [verdicts]
  cases (TokenSource.obtain c.source).1 with
  | ok token => exact ⟨_, rfl, rfl⟩
  | error error => exact ⟨_, rfl, rfl⟩

/-- A text with its characters escaped in different ways, between blanks. -/
theorem escaped_as_plain :
    let s := "No\t😀"
    let quoted := " \"N\\u006F\\t\\uD83D\\ude00\"\n"
    verdict 400 quoted ["No"] = verdict 400 s ["No"] ∧
      ∃ e, (((Sample.client []).answeredBy (.new 200 quoted)).get "Deal" .deal some).1 = .error e ∧
        (((Sample.client []).answeredBy (.new 200 s)).get "Deal" .deal some).1 = .error e := by
  have unread : Json.parse? "No\t😀" = none := rfl
  have denotes : Json.Denotes "N\\u006F\\t\\uD83D\\ude00".toList "No\t😀".toList :=
    .plain (by decide) (by decide) (by decide)
      (.unit rfl (.escape rfl (.pair (by decide) rfl rfl .nothing)))
  have before : Json.IsSpaces [' '] := by simp [Json.IsSpaces, Json.isSpace]
  have after : Json.IsSpaces ['\n'] := by simp [Json.IsSpaces, Json.isSpace]
  have is : Json.IsQuoted "No\t😀" " \"N\\u006F\\t\\uD83D\\ude00\"\n" :=
    .between before denotes after
  obtain ⟨verdicts, readings⟩ := quoted_as_plain unread is
  exact ⟨verdicts 400 ["No"], readings (Sample.client []) "Deal" .deal some 200 []⟩

end LoanGateway.Client
