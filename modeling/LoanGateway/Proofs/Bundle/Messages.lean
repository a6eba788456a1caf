import LoanGateway.Bundle.Decoding
import LoanGateway.Bundle.Encoding
import LoanGateway.Proofs.Calendar.RoundTrip
import LoanGateway.Proofs.Checks
import LoanGateway.Proofs.Json.Members

/-!
# Written messages

What is read from the object that a message is written as. All kinds are written alike, so the kinds
are told apart only where the fields of a message are collected.

- `Message.amounts`, `Message.dates`: the values of a message that may be lost in writing.
- `Message.IsWritable`: the amounts are numbers, and no further attribute takes the name of a field.
- `Message.IsReread`: a message and what becomes of it when its dates are read back.
- `Message.ofMembers_eq_ok_iff`, `Message.ofDraft_eq_ok_iff`: what is read from a written message.
- `Message.IsReread.eq_of_agrees`: if that is equal to the message, it is the message.
- `Message.numbers_isProper`: the numbers of a written message are in range.
-/

namespace LoanGateway

open Json

/-! ## Field values -/

namespace FieldType

theorem readText_string (s : String) : readText (.string s) = .ok s := rfl

theorem readAmount_ofFloat_iff {x y : Float} :
    readAmount (ofFloat x) = .ok y ↔ x.isFinite = true ∧ x = y := by
  unfold ofFloat
  by_cases finite : x.isFinite
  · simp [finite, readAmount, Number.toFloat]
  · simp [finite, readAmount]

theorem readDate_text_iff {d d' : Date} :
    readDate (.string d.text) = .ok d' ↔ Date.parse d.text = .ok d' := by
  rw [readDate]
  cases Date.parse d.text <;> simp [Except.mapError]

@[simp] theorem readCode_object (inner s : String) :
    readCode inner (.object [(inner, .string s)]) = .ok s := by
  simp [readCode, checkMembers, readField, accepts, readText, bind, Except.bind,
    Except.map]

end FieldType

namespace MessageKind

/-- The checks of the fields of a kind. -/
def check? (k : MessageKind) (name : String) : Option (Json → Decoded Unit) :=
  (k.fields.lookup name).map fun type => accepts type.read

theorem check?_isSome (k : MessageKind) (name : String) :
    (k.check? name).isSome = k.hasField name := Option.isSome_map

theorem hasField_iff {k : MessageKind} {name : String} :
    k.hasField name = true ↔ name ∈ k.fields.map (·.1) := by
  rw [hasField, List.lookup_isSome_iff, List.mem_map]
  constructor
  · rintro ⟨field, mem, same⟩
    exact ⟨field, mem, (eq_of_beq same).symm⟩
  · rintro ⟨field, mem, rfl⟩
    exact ⟨field, mem, beq_self_eq_true _⟩

theorem nodup_fields (k : MessageKind) : (k.fields.map (·.1)).Nodup := by
  cases k <;> decide

end MessageKind

namespace Message

/-! ## The members of a message -/

/-- The amounts of a message. -/
def amounts : Message → List Float
  | newLoan m => [m.amount]
  | facilityAmount m => [m.amount]
  | facilityCode _ => []
  | loanAdvance m => [m.amount]
  | feeAmount m => [m.amount]

/-- The dates of a message. -/
def dates : Message → List Date
  | newLoan m => [m.effective, m.maturity]
  | facilityAmount m => [m.effective]
  | facilityCode m => [m.effective]
  | loanAdvance m => [m.effective]
  | feeAmount m => [m.effective]

variable {m m' : Message}

/-- A message is written with the fields of its kind. -/
theorem map_ownMembers (m : Message) : m.ownMembers.map (·.1) = m.kind.fields.map (·.1) := by
  cases m <;> rfl

theorem hasField_of_mem {name : String} (mem : name ∈ m.ownMembers.map (·.1)) :
    m.kind.hasField name = true :=
  MessageKind.hasField_iff.mpr (map_ownMembers m ▸ mem)

/-- No field comes twice if no further attribute takes the name of one. -/
theorem nodup_fieldNames_iff :
    (fieldNames m.kind.check? (m.ownMembers ++ m.additional)).Nodup ↔
      ∀ name ∈ m.additional.map (·.1), m.kind.hasField name = false := by
  have own : fieldNames m.kind.check? m.ownMembers = m.kind.fields.map (·.1) := by
    rw [fieldNames, List.filter_eq_self.mpr, map_ownMembers]
    intro name mem
    rw [MessageKind.check?_isSome, hasField_of_mem mem]
  have split : fieldNames m.kind.check? (m.ownMembers ++ m.additional) =
      m.kind.fields.map (·.1) ++ fieldNames m.kind.check? m.additional := by
    rw [← own]
    simp [fieldNames]
  rw [split]
  constructor
  · intro nodup name mem
    -- the name would stand among the fields and once more among the further attributes
    by_contra field
    rw [Bool.not_eq_false] at field
    have twice : name ∈ fieldNames m.kind.check? m.additional :=
      List.mem_filter.mpr ⟨mem, (m.kind.check?_isSome name).trans field⟩
    exact (List.nodup_append.mp nodup).2.2 name (MessageKind.hasField_iff.mp field) name twice rfl
  · intro apart
    have none : fieldNames m.kind.check? m.additional = [] := by
      refine List.filter_eq_nil_iff.mpr fun name mem => ?_
      rw [MessageKind.check?_isSome, apart name mem]
      exact Bool.false_ne_true
    rw [none, List.append_nil]
    exact m.kind.nodup_fields

/-- The checks of a written message. -/
theorem checkMembers_written_iff :
    checkMembers m.kind.check? (fun _ => .ok ()) [] (m.ownMembers ++ m.additional) = .ok () ↔
      (∀ x ∈ m.amounts, x.isFinite = true) ∧
        (∀ d ∈ m.dates, ∃ d', Date.parse d.text = .ok d') ∧
          ∀ name ∈ m.additional.map (·.1), m.kind.hasField name = false := by
  have others : (∀ name ∈ m.additional.map (·.1), m.kind.hasField name = false) →
      ∀ a ∈ m.additional, (m.kind.check? a.1).getD (fun _ => .ok ()) a.2 = .ok () := by
    intro apart a mem
    have none : m.kind.check? a.1 = none := by
      rw [← Option.not_isSome_iff_eq_none, MessageKind.check?_isSome,
        apart a.1 (List.mem_map_of_mem mem)]
      exact Bool.false_ne_true
    rw [none]
    rfl
  have own : (∀ a ∈ m.ownMembers, (m.kind.check? a.1).getD (fun _ => .ok ()) a.2 = .ok ()) ↔
      (∀ x ∈ m.amounts, x.isFinite = true) ∧ ∀ d ∈ m.dates, ∃ d', Date.parse d.text = .ok d' := by
    cases m <;>
      simp [ownMembers, textMember, dateMember, amountMember, codeMember, kind,
        MessageKind.check?, MessageKind.fields, accepts, map_eq_ok_iff, amounts, dates,
        FieldType.read, FieldType.readAmount_ofFloat_iff, FieldType.readDate_text_iff,
        FieldType.readText, List.lookup_cons]
    -- the date is checked first where it is written first
    all_goals exact and_comm
  rw [checkMembers_eq_ok_iff, nodup_fieldNames_iff, List.forall_mem_append, own]
  constructor
  · rintro ⟨⟨⟨numbers, days⟩, _⟩, apart, _⟩
    exact ⟨numbers, days, apart⟩
  · rintro ⟨numbers, days, apart⟩
    exact ⟨⟨⟨numbers, days⟩, others apart⟩, apart, fun _ _ => List.not_mem_nil⟩

/-! ## Messages that are read back -/

/-- A message that can be read back: its amounts are numbers, and no further attribute takes the name
of a field or of the kind. -/
structure IsWritable (m : Message) : Prop where
  amounts : ∀ x ∈ m.amounts, x.isFinite = true
  names : ∀ name ∈ m.additional.map (·.1), name ≠ kindField ∧ m.kind.hasField name = false

/-- The second message is the first one with its dates as they are read from their texts. -/
def IsReread : Message → Message → Prop
  | newLoan m, m' => ∃ effective maturity, Date.parse m.effective.text = .ok effective ∧
      Date.parse m.maturity.text = .ok maturity ∧ newLoan { m with effective, maturity } = m'
  | facilityAmount m, m' => ∃ effective, Date.parse m.effective.text = .ok effective ∧
      facilityAmount { m with effective } = m'
  | facilityCode m, m' => ∃ effective, Date.parse m.effective.text = .ok effective ∧
      facilityCode { m with effective } = m'
  | loanAdvance m, m' => ∃ effective, Date.parse m.effective.text = .ok effective ∧
      loanAdvance { m with effective } = m'
  | feeAmount m, m' => ∃ effective, Date.parse m.effective.text = .ok effective ∧
      feeAmount { m with effective } = m'

/-- A message is itself after reading if the years of its dates have at most four digits. -/
theorem isReread_self_iff : m.IsReread m ↔ ∀ d ∈ m.dates, 0 ≤ d.year ∧ d.year ≤ 9999 := by
  simp only [← Date.parse_text_iff]
  cases m with
  | newLoan m =>
    rw [dates, List.forall_mem_cons, List.forall_mem_singleton]
    constructor
    · rintro ⟨effective, maturity, first, second, same⟩
      have days : [effective, maturity] = [m.effective, m.maturity] := congrArg dates same
      obtain ⟨rfl, rfl⟩ : effective = m.effective ∧ maturity = m.maturity := by simpa using days
      exact ⟨first, second⟩
    · rintro ⟨first, second⟩
      exact ⟨_, _, first, second, rfl⟩
  | _ m =>
    rw [dates, List.forall_mem_singleton]
    constructor
    · rintro ⟨effective, first, same⟩
      have days : [effective] = [m.effective] := congrArg dates same
      obtain rfl := List.singleton_inj.mp days
      exact first
    · exact fun first => ⟨_, first, rfl⟩

/-- If what is read is equal to the message, it is the message. -/
theorem IsReread.eq_of_agrees (read : m.IsReread m') (same : m'.agrees m = true) : m' = m := by
  cases m with
  | newLoan m =>
    obtain ⟨effective, maturity, _, _, rfl⟩ := read
    simp only [agrees, Bool.and_eq_true, beq_iff_eq] at same
    simp [same]
  | _ =>
    obtain ⟨effective, _, rfl⟩ := read
    simp only [agrees, Bool.and_eq_true, beq_iff_eq] at same
    simp [same]

/-- A message without amounts that are no numbers is equal to itself. -/
theorem agrees_self (finite : ∀ x ∈ m.amounts, x.isFinite = true)
    (proper : ∀ n ∈ (Json.object m.additional).numbers, n.IsProper) : m.agrees m = true := by
  have rest : agreeMembers m.additional m.additional = true :=
    Json.agrees_self (v := .object m.additional) proper
  cases m with
  | facilityCode m => simpa [agrees, additional] using rest
  | _ m =>
    have number := Number.beq_self_of_isFinite (finite m.amount (List.mem_singleton.mpr rfl))
    simpa [agrees, number, additional] using rest

/-- Further attributes that are no fields are kept as they are. -/
theorem additional_written (canonical : (Json.object m.additional).IsCanonical)
    (apart : ∀ name ∈ m.additional.map (·.1), m.kind.hasField name = false) :
    m.kind.additional (m.ownMembers ++ m.additional) = m.additional := by
  have none : m.ownMembers.filter (fun a => !m.kind.hasField a.1) = [] :=
    List.filter_eq_nil_iff.mpr fun a mem => by
      simp [hasField_of_mem (List.mem_map_of_mem mem)]
  have all : m.additional.filter (fun a => !m.kind.hasField a.1) = m.additional :=
    List.filter_eq_self.mpr fun a mem => by simp [apart a.1 (List.mem_map_of_mem mem)]
  have kept := canonical_of_isCanonical canonical
  rw [Json.canonical] at kept
  rw [MessageKind.additional, List.filter_append, none, all, List.nil_append]
  exact Json.object.inj kept

/-- What is read from the members of a message that pass their checks. -/
theorem ofMembers_of_passed (canonical : (Json.object m.additional).IsCanonical)
    (passed : checkMembers m.kind.check? (fun _ => .ok ()) [] (m.ownMembers ++ m.additional) =
      .ok ()) :
    ofMembers m.kind (m.ownMembers ++ m.additional) = .ok m' ↔
      (∀ x ∈ m.amounts, x.isFinite = true) ∧ m.IsReread m' := by
  obtain ⟨finite, _, apart⟩ := checkMembers_written_iff.mp passed
  have kept := additional_written canonical apart
  unfold ofMembers
  change (checkMembers m.kind.check? _ _ _ >>= _) = _ ↔ _
  rw [passed, kept]
  cases m <;>
    simp [ownMembers, textMember, dateMember, amountMember, codeMember, readField_cons, kind,
      -bind_pure_comp, bind_eq_ok_iff, pure, Except.pure, FieldType.readText_string,
      FieldType.readDate_text_iff, FieldType.readAmount_ofFloat_iff, IsReread, amounts, additional]
  -- a date that is read before the amount stands in front of the fact about the amount
  all_goals simp only [and_left_comm, exists_and_left]

theorem IsReread.exists_parse (reread : m.IsReread m') :
    ∀ d ∈ m.dates, ∃ d', Date.parse d.text = .ok d' := by
  cases m with
  | newLoan m =>
    obtain ⟨effective, maturity, first, second, _⟩ := reread
    exact List.forall_mem_cons.mpr ⟨⟨_, first⟩, List.forall_mem_singleton.mpr ⟨_, second⟩⟩
  | _ m =>
    obtain ⟨effective, first, _⟩ := reread
    exact List.forall_mem_singleton.mpr ⟨_, first⟩

/-- What is read from the members of a message. -/
theorem ofMembers_eq_ok_iff (canonical : (Json.object m.additional).IsCanonical) :
    ofMembers m.kind (m.ownMembers ++ m.additional) = .ok m' ↔
      (∀ x ∈ m.amounts, x.isFinite = true) ∧
        (∀ name ∈ m.additional.map (·.1), m.kind.hasField name = false) ∧ m.IsReread m' := by
  constructor
  · intro read
    have passed : checkMembers m.kind.check? (fun _ => .ok ()) []
        (m.ownMembers ++ m.additional) = .ok () := by
      obtain ⟨_, passed, _⟩ := bind_eq_ok_iff.mp read
      exact passed
    obtain ⟨_, _, apart⟩ := checkMembers_written_iff.mp passed
    obtain ⟨finite, reread⟩ := (ofMembers_of_passed canonical passed).mp read
    exact ⟨finite, apart, reread⟩
  · rintro ⟨finite, apart, reread⟩
    have passed := checkMembers_written_iff.mpr ⟨finite, reread.exists_parse, apart⟩
    exact (ofMembers_of_passed canonical passed).mpr ⟨finite, reread⟩

/-! ## The object of a message -/

theorem readKind_name (k : MessageKind) : readKind (.string (some k.name)) = .ok k := by
  simp [readKind, Draft.readText, bind, Except.bind, pure, Except.pure]

/-- The kind stands in front of the members, so a further attribute with its name is refused. -/
theorem splitKind_eq_ok_iff {room : Nat} {k : MessageKind} {members : List (String × Json)}
    {s : Option MessageKind × List (String × Json)}
    (fits : ∀ a ∈ members, a.2.depth ≤ room) :
    splitKind room (some k) (members.map fun a => (a.1, Draft.ofJson a.2)) = .ok s ↔
      kindField ∉ members.map (·.1) ∧ (some k, members) = s := by
  induction members generalizing s with
  | nil => simp [splitKind]
  | cons a rest ih =>
    obtain ⟨first, others⟩ := List.forall_mem_cons.mp fits
    rw [List.map_cons, List.map_cons, splitKind]
    -- the kind is known already, so another member of its name is one too many
    by_cases same : a.1 = kindField
    · simp [same]
    · have value : Draft.readJson room (.ofJson a.2) = .ok a.2 := by
        rw [Draft.readJson, Draft.json?_ofJson first]
      rw [if_neg same, value]
      simp [-bind_pure_comp, bind_eq_ok_iff, ih others, pure, Except.pure, Ne.symm same]

/-- What is read from a written message. -/
theorem ofDraft_eq_ok_iff {room : Nat} (canonical : (Json.object m.additional).IsCanonical)
    (fits : m.toJson.depth ≤ room + 1) :
    ofDraft (room + 1) (.ofJson m.toJson) = .ok m' ↔ m.IsWritable ∧ m.IsReread m' := by
  have inside : ∀ a ∈ m.ownMembers ++ m.additional, a.2.depth ≤ room :=
    (List.forall_mem_cons.mp (depth_object_le_iff.mp fits)).2
  have own : kindField ∉ m.ownMembers.map (·.1) := by
    intro mem
    have none : m.kind.hasField kindField = false := by cases m.kind <;> rfl
    exact absurd (hasField_of_mem mem) (by simp [none])
  have free_iff : kindField ∉ (m.ownMembers ++ m.additional).map (·.1) ↔
      kindField ∉ m.additional.map (·.1) := by
    rw [List.map_append, List.mem_append, not_or, and_iff_right own]
  have split {s : Option MessageKind × List (String × Json)} :
      splitKind room none (Draft.namedMembers
          (Draft.ofMembers (textMember kindField m.kind.name :: m.ownMembers ++ m.additional))) =
        .ok s ↔ kindField ∉ m.additional.map (·.1) ∧
          (some m.kind, m.ownMembers ++ m.additional) = s := by
    have rest := splitKind_eq_ok_iff (s := s) (k := m.kind) inside
    rw [free_iff] at rest
    rw [← rest, Draft.ofMembers_eq_map, Draft.namedMembers, List.map_map, List.cons_append,
      List.map_cons]
    change (readKind (.string (some m.kind.name)) >>= _) = _ ↔ _
    rw [readKind_name]
    rfl
  rw [toJson, Draft.ofJson, ofDraft, ofObject, bind_eq_ok_iff]
  simp only [split]
  constructor
  · rintro ⟨_, ⟨free, rfl⟩, read⟩
    obtain ⟨finite, apart, reread⟩ := (ofMembers_eq_ok_iff canonical).mp read
    refine ⟨⟨finite, fun name mem => ⟨?_, apart name mem⟩⟩, reread⟩
    rintro rfl
    exact free mem
  · rintro ⟨⟨finite, names⟩, reread⟩
    refine ⟨_, ⟨fun mem => (names _ mem).1 rfl, rfl⟩, ?_⟩
    exact (ofMembers_eq_ok_iff canonical).mpr ⟨finite, fun name mem => (names name mem).2, reread⟩

/-- The numbers of a written message are in range if those of its further attributes are. -/
theorem numbers_isProper (proper : ∀ n ∈ (Json.object m.additional).numbers, n.IsProper) :
    ∀ n ∈ m.toJson.numbers, n.IsProper := by
  have fraction (x : Float) : ∀ n ∈ (ofFloat x).numbers, n.IsProper := by
    unfold ofFloat
    split
    · next finite => exact List.forall_mem_singleton.mpr finite
    · exact List.forall_mem_nil _
  have own : ∀ a ∈ m.ownMembers, ∀ n ∈ a.2.numbers, n.IsProper := by
    cases m <;> simp [ownMembers, textMember, codeMember, dateMember, amountMember, numbers,
      numbersOfMembers]
    all_goals exact fraction _
  intro n mem
  obtain ⟨a, mem_a, mem_n⟩ := mem_numbers_object.mp mem
  rcases List.mem_cons.mp mem_a with rfl | mem_a
  · exact absurd mem_n List.not_mem_nil
  rcases List.mem_append.mp mem_a with mem_a | mem_a
  · exact own a mem_a n mem_n
  · exact proper n (mem_numbers_object.mpr ⟨a, mem_a, mem_n⟩)

end Message

end LoanGateway
