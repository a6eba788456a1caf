import LoanGateway.Proofs.Checks
import LoanGateway.Proofs.Json.Lookup
import LoanGateway.Session.Handshake

/-!
# Bodies that hold a token

The answer to a request for a token is a JSON text with the token in its only field. The field may be
missing, and what it holds may be no token.

- `TokenAnswer.IsField`: what the field can hold.
- `TokenAnswer.IsOf`: the bodies of an answer; `TokenAnswer.ofText_eq_ok_iff`: they are those that are
  read.
- `Handshake.HoldsToken`, `Handshake.LacksToken`: the bodies with a token, and all the others.
-/

namespace LoanGateway

open Json

/-! ## Well-formed members -/

theorem Json.Draft.membersWellFormed_iff {members : List (Option String × Draft)} :
    Draft.membersWellFormed members = true ↔ ∀ m ∈ members, m.2.isWellFormed = true := by
  induction members with
  | nil => simp [Draft.membersWellFormed]
  | cons m rest ih =>
    rw [Draft.membersWellFormed, Bool.and_eq_true, ih, List.forall_mem_cons]

namespace TokenAnswer

/-! ## The field -/

/-- What the field can hold, among the values under its name. It may be missing. -/
inductive IsField : List Draft → Option String → Prop
  | missing : IsField [] none
  | null : IsField [.null] none
  | text (s : String) : IsField [.string (some s)] (some s)

/-- An answer is an object that holds the field once at most, or an array with nothing but the field. -/
inductive Holds : Draft → Option String → Prop
  | object {members : List (Option String × Draft)} {token : Option String} {closed : Bool}
      (named : ∀ m ∈ members, m.1.isSome = true)
      (held : IsField (valuesOf field (Draft.namedMembers members)) token) :
      Holds (.object members closed) token
  | array {items : List Draft} {token : Option String} {closed : Bool} (held : IsField items token) :
      Holds (.array items closed) token

/-- The bodies of an answer: JSON texts that hold the field. -/
structure IsOf (body : String) (answer : TokenAnswer) : Prop where
  ended : (Document.ofText body).ended = true
  wellFormed : (Document.ofText body).root.isWellFormed = true
  holds : Holds (Document.ofText body).root answer.idToken

variable {members : List (Option String × Draft)} {token : Option String} {closed : Bool}

theorem readOptional_eq_ok_iff {d : Draft} :
    Draft.readOptional Draft.readText d = .ok token ↔ IsField [d] token := by
  constructor
  · intro read
    rcases d with _ | _ | _ | ⟨_ | s⟩ | _ | _ | _
    case null =>
      obtain rfl := Except.ok.inj read
      exact .null
    case string.some =>
      obtain rfl := Except.ok.inj read
      exact .text s
    all_goals exact nomatch read
  · intro held
    cases held with
    | null => rfl
    | text s => rfl

/-- A field that comes once at most is read from the values under its name. -/
theorem isField_iff {drafts : List (String × Draft)} :
    IsField (valuesOf field drafts) token ↔
      ((valuesOf field drafts).length ≤ 1 ∧
        ∀ d ∈ valuesOf field drafts, ∃ t, IsField [d] t) ∧
      match drafts.lookup field with
      | some d => IsField [d] token
      | none => token = none := by
  rw [lookup_eq_head?]
  constructor
  · intro held
    cases values : valuesOf field drafts with
    | nil =>
      rw [values] at held
      cases held
      exact ⟨⟨Nat.zero_le 1, nofun⟩, rfl⟩
    | cons d rest =>
      rw [values] at held
      cases held with
      | null => exact ⟨⟨Nat.le_refl 1, List.forall_mem_singleton.mpr ⟨_, .null⟩⟩, .null⟩
      | text s => exact ⟨⟨Nat.le_refl 1, List.forall_mem_singleton.mpr ⟨_, .text s⟩⟩, .text s⟩
  · rintro ⟨⟨once, _⟩, first⟩
    rcases eq_nil_or_singleton once with none | ⟨d, only⟩
    · rw [none] at first ⊢
      obtain rfl : token = Option.none := first
      exact .missing
    · rw [only] at first ⊢
      exact first

/-- The members pass if the field comes once at most and holds a text or nothing, and all other values
are complete. -/
theorem checkMembers_eq_ok_iff {drafts : List (String × Draft)} :
    checkMembers
        (fun name =>
          if name = field then some (accepts (Draft.readOptional Draft.readText)) else none)
        Draft.skip [] drafts = .ok () ↔
      ((valuesOf field drafts).length ≤ 1 ∧ ∀ d ∈ valuesOf field drafts, ∃ t, IsField [d] t) ∧
        ∀ m ∈ drafts, m.1 ≠ field → m.2.isWellFormed = true := by
  rw [checkMembers_eq_ok_iff_fields]
  simp [accepts, map_eq_ok_iff, readOptional_eq_ok_iff, Draft.skip]

theorem ofMembers_eq_ok_iff {drafts : List (String × Draft)} :
    ofMembers drafts closed = .ok ⟨token⟩ ↔
      closed = true ∧ (∀ m ∈ drafts, m.1 ≠ field → m.2.isWellFormed = true) ∧
        IsField (valuesOf field drafts) token := by
  rw [ofMembers]
  dsimp only
  rw [isField_iff, bind_eq_ok_iff]
  cases closed with
  | false => simp [throw, throwThe, MonadExceptOf.throw, bind, Except.bind]
  | true =>
    rw [if_neg (by simp)]
    constructor
    · rintro ⟨_, passed, first⟩
      obtain ⟨once, others⟩ := checkMembers_eq_ok_iff.mp passed
      refine ⟨rfl, others, once, ?_⟩
      cases found : drafts.lookup field with
      | none =>
        rw [found] at first
        exact (congrArg TokenAnswer.idToken (Except.ok.inj first)).symm
      | some d =>
        rw [found] at first
        obtain ⟨_, read, same⟩ := bind_eq_ok_iff.mp first
        obtain rfl := congrArg TokenAnswer.idToken (Except.ok.inj same)
        exact readOptional_eq_ok_iff.mp read
    · rintro ⟨_, others, once, first⟩
      refine ⟨(), checkMembers_eq_ok_iff.mpr ⟨once, others⟩, ?_⟩
      cases found : drafts.lookup field with
      | none =>
        rw [found] at first
        obtain rfl : token = none := first
        rfl
      | some d =>
        rw [found] at first
        exact bind_eq_ok_iff.mpr ⟨token, readOptional_eq_ok_iff.mpr first, rfl⟩

theorem isWellFormed_of_isField {drafts : List Draft} (held : IsField drafts token) :
    ∀ d ∈ drafts, d.isWellFormed = true := by
  cases held with
  | missing => exact nofun
  | null => exact List.forall_mem_singleton.mpr rfl
  | text s => exact List.forall_mem_singleton.mpr rfl

/-- A member without a name is as good as an incomplete one. -/
theorem wellFormed_others_iff
    (held : IsField (valuesOf field (Draft.namedMembers members)) token) :
    (∀ m ∈ Draft.namedMembers members, m.1 ≠ field → m.2.isWellFormed = true) ↔
      (∀ m ∈ members, m.1.isSome = true) ∧ Draft.membersWellFormed members = true := by
  rw [Draft.membersWellFormed_iff]
  constructor
  · intro others
    have complete (m : Option String × Draft) (mem : m ∈ members) :
        m.1.isSome = true ∧ m.2.isWellFormed = true := by
      obtain ⟨name?, d⟩ := m
      cases name? with
      | none =>
        have unnamed : ("", .broken) ∈ Draft.namedMembers members :=
          List.mem_map.mpr ⟨_, mem, rfl⟩
        exact nomatch others _ unnamed (by decide)
      | some name =>
        have mem : (name, d) ∈ Draft.namedMembers members := List.mem_map.mpr ⟨_, mem, rfl⟩
        refine ⟨rfl, ?_⟩
        by_cases own : name = field
        · subst own
          exact isWellFormed_of_isField held d (mem_valuesOf.mpr mem)
        · exact others _ mem own
    exact ⟨fun m mem => (complete m mem).1, fun m mem => (complete m mem).2⟩
  · rintro ⟨named, complete⟩ _ mem _
    obtain ⟨⟨name?, d⟩, own, rfl⟩ := List.mem_map.mp mem
    cases name? with
    | none => exact absurd (named _ own) Bool.false_ne_true
    | some name => exact complete _ own

/-- The items of an array are read as the field. -/
theorem readItems_eq_ok_iff {items : List Draft} :
    (do
      let (token, rest) ← Draft.readItem closed (Draft.readOptional Draft.readText) items
      Draft.readEnd closed rest
      return ⟨token⟩ : Decoded TokenAnswer) = .ok ⟨token⟩ ↔
      closed = true ∧ items ≠ [] ∧ IsField items token := by
  rw [bind_eq_ok_iff]
  cases items with
  | nil => simp [Draft.readItem]
  | cons d rest =>
    simp only [Draft.readItem, map_eq_ok_iff, readOptional_eq_ok_iff]
    constructor
    · rintro ⟨_, ⟨t, held, rfl⟩, others⟩
      obtain ⟨_, ends, same⟩ := bind_eq_ok_iff.mp others
      obtain rfl := congrArg TokenAnswer.idToken (Except.ok.inj same)
      obtain ⟨none, closed⟩ : rest = [] ∧ closed = true := by
        simpa [Draft.readEnd] using ends
      exact ⟨closed, nofun, none ▸ held⟩
    · rintro ⟨rfl, _, held⟩
      cases held with
      | null => exact ⟨_, ⟨_, .null, rfl⟩, rfl⟩
      | text s => exact ⟨_, ⟨_, .text s, rfl⟩, rfl⟩

/-- An answer is read from what is complete and holds it. -/
theorem ofDraft_eq_ok_iff {d : Draft} {answer : TokenAnswer} :
    ofDraft d = .ok answer ↔ d.isWellFormed = true ∧ Holds d answer.idToken := by
  obtain ⟨token⟩ := answer
  cases d with
  | object members closed =>
    rw [ofDraft, ofMembers_eq_ok_iff, Draft.isWellFormed, Bool.and_eq_true]
    constructor
    · rintro ⟨closed, others, held⟩
      obtain ⟨named, complete⟩ := (wellFormed_others_iff held).mp others
      exact ⟨⟨closed, complete⟩, .object named held⟩
    · rintro ⟨⟨closed, complete⟩, holds⟩
      cases holds with
      | object named held =>
        exact ⟨closed, (wellFormed_others_iff held).mpr ⟨named, complete⟩, held⟩
  | array items closed =>
    rw [Draft.isWellFormed, Bool.and_eq_true]
    by_cases empty : items = [] ∧ closed = true
    · obtain ⟨rfl, rfl⟩ := empty
      constructor
      · intro read
        obtain rfl := congrArg TokenAnswer.idToken (Except.ok.inj read)
        exact ⟨⟨rfl, rfl⟩, .array .missing⟩
      · rintro ⟨_, holds⟩
        cases holds with
        | array held =>
          cases held
          rfl
    · rw [ofDraft, readItems_eq_ok_iff]
      · constructor
        · rintro ⟨closed, _, held⟩
          have complete : Draft.itemsWellFormed items = true := by cases held <;> rfl
          exact ⟨⟨closed, complete⟩, .array held⟩
        · rintro ⟨⟨closed, _⟩, holds⟩
          cases holds with
          | array held => exact ⟨closed, fun none => empty ⟨none, closed⟩, held⟩
      · rintro rfl rfl
        exact empty ⟨rfl, rfl⟩
  | _ =>
    constructor
    · exact nofun
    · rintro ⟨_, ⟨⟩⟩

theorem ofText_eq_ok_iff {body : String} {answer : TokenAnswer} :
    ofText body = .ok answer ↔ IsOf body answer := by
  rw [ofText, readDocument, bind_eq_ok_iff]
  simp only [ofDraft_eq_ok_iff]
  constructor
  · rintro ⟨_, ⟨wellFormed, holds⟩, last⟩
    split at last
    · next ended =>
      obtain rfl := Except.ok.inj last
      exact ⟨ended, wellFormed, holds⟩
    · exact nomatch last
  · rintro ⟨ended, wellFormed, holds⟩
    exact ⟨answer, ⟨wellFormed, holds⟩, if_pos ended⟩

end TokenAnswer

/-! ## The token -/

namespace TokenAnswer

theorem isToken_iff {s : String} :
    isToken s = true ↔ s ≠ "" ∧ s ≠ "null" ∧ s ≠ "undefined" := by
  simp [isToken, and_assoc]

theorem token?_eq_some_iff {answer : TokenAnswer} {token : String} :
    answer.token? = some token ↔ ∃ text, answer = ⟨some text⟩ ∧ Text.trimString text = token ∧
      token ≠ "" ∧ token ≠ "null" ∧ token ≠ "undefined" := by
  obtain ⟨token?⟩ := answer
  rw [TokenAnswer.token?, Option.filter_eq_some_iff, Option.map_eq_some_iff, isToken_iff]
  constructor
  · rintro ⟨⟨text, rfl, trimmed⟩, is⟩
    exact ⟨text, rfl, trimmed, is⟩
  · rintro ⟨text, ⟨⟩, trimmed, is⟩
    exact ⟨⟨text, rfl, trimmed⟩, is⟩

end TokenAnswer

namespace Handshake

open TokenAnswer (IsOf)

/-- A body holds a token: its field is a text that is more than blanks and not a word for nothing. -/
def HoldsToken (body token : String) : Prop :=
  ∃ text, IsOf body ⟨some text⟩ ∧ Text.trimString text = token ∧
    token ≠ "" ∧ token ≠ "null" ∧ token ≠ "undefined"

/-- A body without a token: it is none of an answer, its field is missing or `null`, or the text in its
field is blank or a word for nothing. -/
inductive LacksToken (body : String) : Prop
  | unread (unread : ∀ answer, ¬ IsOf body answer)
  | missing (read : IsOf body ⟨none⟩)
  | word {text : String} (read : IsOf body ⟨some text⟩)
      (nothing : Text.trimString text = "" ∨ Text.trimString text = "null" ∨
        Text.trimString text = "undefined")

theorem tokenOfBody?_eq_some_iff {body token : String} :
    tokenOfBody? body = some token ↔ HoldsToken body token := by
  unfold tokenOfBody? HoldsToken
  simp only [← TokenAnswer.ofText_eq_ok_iff]
  cases TokenAnswer.ofText body with
  | error e => simp
  | ok answer =>
    rw [TokenAnswer.token?_eq_some_iff]
    simp

theorem tokenOfBody?_eq_none_iff {body : String} :
    tokenOfBody? body = none ↔ LacksToken body := by
  unfold tokenOfBody?
  cases read : TokenAnswer.ofText body with
  | error e =>
    refine iff_of_true rfl (.unread fun answer is => ?_)
    exact nomatch read.symm.trans (TokenAnswer.ofText_eq_ok_iff.mpr is)
  | ok answer =>
    have is := TokenAnswer.ofText_eq_ok_iff.mp read
    have only {other : TokenAnswer} (also : IsOf body other) : answer = other :=
      Except.ok.inj (read.symm.trans (TokenAnswer.ofText_eq_ok_iff.mpr also))
    obtain ⟨_ | text⟩ := answer
    · exact iff_of_true rfl (.missing is)
    · have word : TokenAnswer.token? ⟨some text⟩ = none ↔ Text.trimString text = "" ∨
          Text.trimString text = "null" ∨ Text.trimString text = "undefined" := by
        simp [TokenAnswer.token?, TokenAnswer.isToken_iff, or_iff_not_imp_left]
      rw [word]
      constructor
      · exact .word is
      · intro lacks
        cases lacks with
        | unread unread => exact absurd is (unread _)
        | missing none => exact nomatch only none
        | word read nothing =>
          cases only read
          exact nothing

end Handshake

end LoanGateway
