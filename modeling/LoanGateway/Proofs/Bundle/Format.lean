import LoanGateway.Proofs.Bundle.Messages
import LoanGateway.Proofs.Json.Lookup

/-!
# The format of messages

A message is read from an object that names a kind once and has each field of that kind once, with a
value of the type of the field. Nothing else is asked of the object: its members may come in any
order, and the members that are no fields are kept.

- `FieldType.Holds`: the values that a field is written with.
- `Message.ownValues`: the fields of a message, with their types and values.
- `Message.IsFrom`: the members that a message is read from.
- `MessageKind.Describes`: the members that a message of the kind is read from.
- `Message.ofDraft_eq_ok_iff_isFrom`: what drafts give a message.
- `Message.read_exactly_from_format`: what texts and values give one.
-/

namespace LoanGateway

open Json

/-! ## Fields -/

namespace FieldType

/-- A value that stands for a value of a field. A code is written as an object that has the inner
field once, or as an array with nothing but the text. -/
def Holds : (type : FieldType) → Json → type.Value → Prop
  | text, v, s => v = .string s
  | amount, v, x => ∃ n : Number, v = .number n ∧ n.toFloat = x
  | date, v, d => ∃ s, v = .string s ∧ Date.parse s = .ok d
  | code inner, v, s =>
    (∃ members, v = .object members ∧ valuesOf inner members = [.string s]) ∨
      v = .array [.string s]

theorem readText_eq_ok_iff {v : Json} {s : String} : readText v = .ok s ↔ v = .string s := by
  cases v <;> simp [readText]

theorem readAmount_eq_ok_iff {v : Json} {x : Float} :
    readAmount v = .ok x ↔ ∃ n : Number, v = .number n ∧ n.toFloat = x := by
  cases v <;> simp [readAmount]

theorem readDate_eq_ok_iff {v : Json} {d : Date} :
    readDate v = .ok d ↔ ∃ s, v = .string s ∧ Date.parse s = .ok d := by
  cases v with
  | string s =>
    rw [readDate]
    cases parsed : Date.parse s <;> simp [parsed, Except.mapError]
  | _ => simp [readDate]

end FieldType

/-- A field that comes once is read from its only value. -/
theorem readField_eq_ok_iff {α β : Type} {members : List (String × α)} {name : String}
    {read : α → Decoded β} {b : β} (once : (valuesOf name members).length ≤ 1) :
    readField members name read = .ok b ↔ ∃ a, valuesOf name members = [a] ∧ read a = .ok b := by
  rw [readField, lookup_eq_head?]
  rcases eq_nil_or_singleton once with none | ⟨a, only⟩
  · simp [none]
  · simp [only]

namespace FieldType

theorem readCode_eq_ok_iff {inner : String} {v : Json} {s : String} :
    readCode inner v = .ok s ↔
      (∃ members, v = .object members ∧ valuesOf inner members = [.string s]) ∨
        v = .array [.string s] := by
  cases v with
  | object members =>
    have passed : checkMembers (fun name => if name = inner then some (accepts readText) else none)
          (fun _ => .ok ()) [] members = .ok () ↔
        (valuesOf inner members).length ≤ 1 ∧
          ∀ v ∈ valuesOf inner members, ∃ s, v = .string s := by
      rw [checkMembers_eq_ok_iff_valuesOf]
      simp [accepts, map_eq_ok_iff, readText_eq_ok_iff]
    rw [readCode, bind_eq_ok_iff]
    constructor
    · rintro ⟨_, all, read⟩
      have once := (passed.mp all).1
      obtain ⟨v, only, value⟩ := (readField_eq_ok_iff once).mp read
      exact .inl ⟨members, rfl, by rw [only, readText_eq_ok_iff.mp value]⟩
    · rintro (⟨_, same, only⟩ | same)
      · obtain rfl := Json.object.inj same
        have once : (valuesOf inner members).length ≤ 1 := by rw [only]; exact Nat.le_refl 1
        refine ⟨(), passed.mpr ⟨once, ?_⟩, (readField_eq_ok_iff once).mpr ⟨_, only, rfl⟩⟩
        rw [only]
        exact List.forall_mem_singleton.mpr ⟨s, rfl⟩
      · cases same
  | array items =>
    cases items with
    | nil => simp [readCode]
    | cons first rest =>
      cases rest with
      | nil => simp [readCode, bind_eq_ok_iff, readText_eq_ok_iff, pure, Except.pure]
      | cons second rest =>
        simp [readCode, bind_eq_ok_iff, throw, throwThe, MonadExceptOf.throw]
  | _ => simp [readCode]

/-- A field is read from the values that stand for values of its type. -/
theorem read_eq_ok_iff {type : FieldType} {v : Json} {x : type.Value} :
    type.read v = .ok x ↔ type.Holds v x := by
  cases type with
  | text => exact readText_eq_ok_iff
  | amount => exact readAmount_eq_ok_iff
  | date => exact readDate_eq_ok_iff
  | code inner => exact readCode_eq_ok_iff

end FieldType

namespace MessageKind

variable {k : MessageKind} {members : List (String × Json)}

/-- The checks of a kind are those of its fields. -/
theorem check?_eq_some_iff {name : String} {check : Json → Decoded Unit} :
    k.check? name = some check ↔ ∃ type, (name, type) ∈ k.fields ∧ accepts type.read = check := by
  rw [check?, Option.map_eq_some_iff]
  simp only [lookup_eq_some_iff_mem k.nodup_fields]

/-- The members that are no fields are kept with the last value of each name, in the order of the
names. -/
theorem eq_additional_iff {kept : Attributes} :
    kept = k.additional members ↔ (kept.map (·.1)).Pairwise (· < ·) ∧
      ∀ name, kept.lookup name =
        if k.hasField name = true then none
        else (valuesOf name members).getLast?.map canonical := by
  have values (name : String) :
      (valuesOf name (canonicalMembers (members.filter fun a => !k.hasField a.1))).getLast? =
        if k.hasField name = true then none
        else (valuesOf name members).getLast?.map canonical := by
    have fields : valuesOf name (members.filter fun a => !k.hasField a.1) =
        if (!k.hasField name) = true then valuesOf name members else [] :=
      valuesOf_filter (fun name => !k.hasField name) name members
    rw [canonicalMembers_eq_map, valuesOf_map, fields, List.getLast?_map]
    by_cases field : k.hasField name = true
    · simp [field]
    · simp [field]
  rw [additional]
  refine eq_sortMembers_iff.trans ?_
  simp only [values]

end MessageKind

namespace Message

/-! ## The members of an object -/

/-- The fields of a message, with their types and values. -/
def ownValues : Message → List (String × Σ type : FieldType, type.Value)
  | newLoan m =>
    [("FacilityIdentifier", ⟨.text, m.facility⟩), ("BorrowerPartyIdentifier", ⟨.text, m.borrower⟩),
      ("Currency", ⟨.code "CurrencyCode", m.currency⟩), ("LoanAmount", ⟨.amount, m.amount⟩),
      ("EffectiveDate", ⟨.date, m.effective⟩), ("MaturityDate", ⟨.date, m.maturity⟩)]
  | facilityAmount m =>
    [("FacilityIdentifier", ⟨.text, m.facility⟩),
      ("LenderType", ⟨.code "LenderTypeCode", m.lenderType⟩),
      ("FacilityTransactionType", ⟨.code "TypeCode", m.transactionType⟩),
      ("EffectiveDate", ⟨.date, m.effective⟩), ("AmountAmount", ⟨.amount, m.amount⟩)]
  | facilityCode m =>
    [("FacilityIdentifier", ⟨.text, m.facility⟩),
      ("LenderType", ⟨.code "LenderTypeCode", m.lenderType⟩),
      ("FacilityTransactionCodeValue", ⟨.code "FacilityTransactionCodeValueCode", m.code⟩),
      ("EffectiveDate", ⟨.date, m.effective⟩)]
  | loanAdvance m =>
    [("LoanIdentifier", ⟨.text, m.loan⟩),
      ("TransactionType", ⟨.code "TypeCode", m.transactionType⟩),
      ("EffectiveDate", ⟨.date, m.effective⟩), ("LoanAdvanceAmount", ⟨.amount, m.amount⟩)]
  | feeAmount m =>
    [("FacilityIdentifier", ⟨.text, m.facility⟩),
      ("LenderType", ⟨.code "LenderTypeCode", m.lenderType⟩),
      ("SegmentIdentifier", ⟨.text, m.segment⟩), ("EffectiveDate", ⟨.date, m.effective⟩),
      ("FeeAmount", ⟨.amount, m.amount⟩)]

/-- A message has the fields of its kind. -/
theorem map_ownValues (m : Message) : m.ownValues.map (fun f => (f.1, f.2.1)) = m.kind.fields := by
  cases m <;> rfl

/-- The members that a message is read from. What is no field is kept: the last value of every
name. -/
structure IsFrom (m : Message) (members : List (String × Json)) : Prop where
  kind : valuesOf kindField members = [.string m.kind.name]
  own : ∀ f ∈ m.ownValues, ∃ v, valuesOf f.1 members = [v] ∧ f.2.1.Holds v f.2.2
  ordered : (m.additional.map (·.1)).Pairwise (· < ·)
  additional : ∀ name, m.additional.lookup name =
    if name = kindField ∨ m.kind.hasField name = true then none
    else (valuesOf name members).getLast?.map canonical

end Message

/-- The members that a message of the kind is read from: the kind is named once, and each field
comes once, with a value of its type. -/
structure MessageKind.Describes (k : MessageKind) (members : List (String × Json)) : Prop where
  kind : valuesOf Message.kindField members = [.string k.name]
  own : ∀ f ∈ k.fields, ∃ x v, valuesOf f.1 members = [v] ∧ f.2.Holds v x

namespace Message

variable {m : Message} {members : List (String × Json)}

/-- The fields of a message are read one by one. -/
theorem ofMembers_eq_ok_iff_readField {k : MessageKind} :
    ofMembers k members = .ok m ↔
      checkMembers k.check? (fun _ => .ok ()) [] members = .ok () ∧ m.kind = k ∧
        (∀ f ∈ m.ownValues, readField members f.1 f.2.1.read = .ok f.2.2) ∧
          m.additional = k.additional members := by
  unfold ofMembers
  change (checkMembers k.check? _ _ _ >>= _) = _ ↔ _
  rw [bind_eq_ok_iff]
  constructor
  · rintro ⟨_, passed, read⟩
    refine ⟨passed, ?_⟩
    -- every kind has fields of its own, which are read in their order
    cases k with
    | newLoan =>
      simp only [bind_eq_ok_iff] at read
      obtain ⟨_, facility, _, borrower, _, currency, _, amount, _, effective, _, maturity, same⟩ :=
        read
      obtain rfl := Except.ok.inj same
      refine ⟨rfl, ?_, rfl⟩
      simp [ownValues, FieldType.read, facility, borrower, currency, amount, effective, maturity]
    | facilityAmount =>
      simp only [bind_eq_ok_iff] at read
      obtain ⟨_, facility, _, lenderType, _, transactionType, _, effective, _, amount, same⟩ := read
      obtain rfl := Except.ok.inj same
      refine ⟨rfl, ?_, rfl⟩
      simp [ownValues, FieldType.read, facility, lenderType, transactionType, effective, amount]
    | facilityCode =>
      simp only [bind_eq_ok_iff] at read
      obtain ⟨_, facility, _, lenderType, _, code, _, effective, same⟩ := read
      obtain rfl := Except.ok.inj same
      refine ⟨rfl, ?_, rfl⟩
      simp [ownValues, FieldType.read, facility, lenderType, code, effective]
    | loanAdvance =>
      simp only [bind_eq_ok_iff] at read
      obtain ⟨_, loan, _, transactionType, _, effective, _, amount, same⟩ := read
      obtain rfl := Except.ok.inj same
      refine ⟨rfl, ?_, rfl⟩
      simp [ownValues, FieldType.read, loan, transactionType, effective, amount]
    | feeAmount =>
      simp only [bind_eq_ok_iff] at read
      obtain ⟨_, facility, _, lenderType, _, segment, _, effective, _, amount, same⟩ := read
      obtain rfl := Except.ok.inj same
      refine ⟨rfl, ?_, rfl⟩
      simp [ownValues, FieldType.read, facility, lenderType, segment, effective, amount]
  · rintro ⟨passed, rfl, own, rest⟩
    refine ⟨(), passed, ?_⟩
    rw [← rest]
    cases m <;>
      simp only [ownValues, FieldType.read, List.forall_mem_cons] at own <;>
      simp [own, kind, additional, bind, Except.bind, pure, Except.pure]

/-- A message of a kind is read from members with each field once. -/
theorem ofMembers_eq_ok_iff_holds {k : MessageKind} :
    ofMembers k members = .ok m ↔ m.kind = k ∧
      (∀ f ∈ m.ownValues, ∃ v, valuesOf f.1 members = [v] ∧ f.2.1.Holds v f.2.2) ∧
        m.additional = k.additional members := by
  rw [ofMembers_eq_ok_iff_readField, checkMembers_eq_ok_iff_valuesOf]
  constructor
  · rintro ⟨passed, rfl, own, rest⟩
    refine ⟨rfl, fun f mem => ?_, rest⟩
    have field : (f.1, f.2.1) ∈ m.kind.fields :=
      m.map_ownValues ▸ List.mem_map_of_mem (f := fun f => (f.1, f.2.1)) mem
    have once := (passed f.1 _ (MessageKind.check?_eq_some_iff.mpr ⟨_, field, rfl⟩)).1
    obtain ⟨v, only, read⟩ := (readField_eq_ok_iff once).mp (own f mem)
    exact ⟨v, only, FieldType.read_eq_ok_iff.mp read⟩
  · rintro ⟨rfl, own, rest⟩
    -- every check is that of a field, and every field has a value in the message
    refine ⟨fun name check is => ?_, rfl, fun f mem => ?_, rest⟩
    · obtain ⟨type, field, rfl⟩ := MessageKind.check?_eq_some_iff.mp is
      rw [← m.map_ownValues] at field
      obtain ⟨f, mem, same⟩ := List.mem_map.mp field
      obtain ⟨rfl, rfl⟩ := Prod.mk.inj same
      obtain ⟨v, only, holds⟩ := own f mem
      rw [only]
      refine ⟨Nat.le_refl 1, List.forall_mem_singleton.mpr ?_⟩
      exact map_eq_ok_iff.mpr ⟨_, FieldType.read_eq_ok_iff.mpr holds, rfl⟩
    · obtain ⟨v, only, holds⟩ := own f mem
      have once : (valuesOf f.1 members).length ≤ 1 := by
        rw [only]
        exact Nat.le_refl 1
      exact (readField_eq_ok_iff once).mpr ⟨v, only, FieldType.read_eq_ok_iff.mpr holds⟩

/-! ## The kind -/

theorem readText_eq_ok_iff {d : Draft} {s : String} :
    d.readText = .ok s ↔ d = .ofJson (.string s) := by
  rcases d with _ | _ | _ | ⟨_ | _⟩ | _ | _ | _ <;> simp [Draft.readText, Draft.ofJson]

theorem ofName?_eq_some_iff {name : String} {k : MessageKind} :
    MessageKind.ofName? name = some k ↔ name = k.name := by
  constructor
  · intro found
    rw [MessageKind.ofName?] at found
    exact (eq_of_beq (List.find?_some found :)).symm
  · rintro rfl
    exact k.ofName?_name

/-- The kind is read from a text, its name. -/
theorem readKind_eq_ok_iff {d : Draft} {k : MessageKind} :
    readKind d = .ok k ↔ d = .ofJson (.string k.name) := by
  rw [readKind, bind_eq_ok_iff]
  constructor
  · rintro ⟨name, text, known⟩
    cases is : MessageKind.ofName? name with
    | none => simp [is, throw, throwThe, MonadExceptOf.throw] at known
    | some _ =>
      simp only [is, pure, Except.pure, Except.ok.injEq] at known
      obtain rfl := ofName?_eq_some_iff.mp (known ▸ is)
      exact readText_eq_ok_iff.mp text
  · rintro rfl
    exact ⟨k.name, rfl, by simp [pure, Except.pure]⟩

theorem readJson_eq_ok_iff {room : Nat} {d : Draft} {v : Json} :
    d.readJson room = .ok v ↔ d = .ofJson v ∧ v.depth ≤ room := by
  rw [← Draft.json?_eq_some_iff, Draft.readJson]
  cases d.json? room <;> simp

/-- The members are drafts of values that fit. They name a kind once if none is known and not at all
if one is, and the other members are left. -/
def IsSplit (room : Nat) (kind? : Option MessageKind) (drafts : List (String × Draft))
    (s : Option MessageKind × List (String × Json)) : Prop :=
  ∃ (members : List (String × Json)) (kinds : List MessageKind),
    drafts = members.map (fun a => (a.1, Draft.ofJson a.2)) ∧ (∀ a ∈ members, a.2.depth ≤ room) ∧
      valuesOf kindField members = kinds.map (fun k => Json.string k.name) ∧
        kind?.toList ++ kinds = s.1.toList ∧ s.2 = members.filter fun a => a.1 ≠ kindField

section Split

variable {room : Nat} {kind? : Option MessageKind} {d : Draft} {rest : List (String × Draft)}
  {s : Option MessageKind × List (String × Json)}

theorem isSplit_nil : IsSplit room kind? [] s ↔ (kind?, []) = s := by
  constructor
  · rintro ⟨members, kinds, none, _, named, known, left⟩
    obtain rfl := List.map_eq_nil_iff.mp none.symm
    obtain rfl := List.map_eq_nil_iff.mp named.symm
    have same : kind? = s.1 := by simpa using congrArg List.head? known
    exact Prod.ext same left.symm
  · rintro rfl
    exact ⟨[], [], rfl, List.forall_mem_nil _, rfl, List.append_nil _, rfl⟩

/-- A member that names the kind is one too many if the kind is known. -/
theorem isSplit_kind : IsSplit room kind? ((kindField, d) :: rest) s ↔
    kind? = none ∧ ∃ k : MessageKind, d = .ofJson (.string k.name) ∧
      IsSplit room (some k) rest s := by
  constructor
  · rintro ⟨members, kinds, drafts, fit, named, known, left⟩
    obtain ⟨a, members, rfl, first, rfl⟩ := List.map_eq_cons_iff.mp drafts.symm
    obtain ⟨here, rfl⟩ := Prod.mk.inj first
    rw [valuesOf_cons, if_pos here] at named
    obtain ⟨k, kinds, rfl, value, others⟩ := List.map_eq_cons_iff.mp named.symm
    rw [List.filter_cons_of_neg (by simp [here])] at left
    cases kind? with
    | some _ => rcases s with ⟨_ | _, _⟩ <;> simp at known
    | none =>
      exact ⟨rfl, k, by rw [value], members, kinds, rfl, (List.forall_mem_cons.mp fit).2,
        others.symm, known, left⟩
  · rintro ⟨rfl, k, rfl, members, kinds, rfl, fit, named, known, left⟩
    refine ⟨(kindField, .string k.name) :: members, k :: kinds, rfl,
      List.forall_mem_cons.mpr ⟨Nat.zero_le _, fit⟩, ?_, known, ?_⟩
    · rw [valuesOf_cons, if_pos rfl, named]
      rfl
    · rw [left, List.filter_cons_of_neg (by simp)]

/-- Any other member is left. -/
theorem isSplit_other {name : String} (other : name ≠ kindField) :
    IsSplit room kind? ((name, d) :: rest) s ↔ ∃ v : Json, (d = .ofJson v ∧ v.depth ≤ room) ∧
      ∃ t, IsSplit room kind? rest t ∧ (t.1, (name, v) :: t.2) = s := by
  constructor
  · rintro ⟨members, kinds, drafts, fit, named, known, left⟩
    obtain ⟨a, members, rfl, first, rfl⟩ := List.map_eq_cons_iff.mp drafts.symm
    obtain ⟨rfl, rfl⟩ := Prod.mk.inj first
    obtain ⟨v_fits, fit⟩ := List.forall_mem_cons.mp fit
    rw [valuesOf_cons, if_neg other] at named
    rw [List.filter_cons_of_pos (by simpa using other)] at left
    exact ⟨a.2, ⟨rfl, v_fits⟩, (s.1, members.filter fun a => a.1 ≠ kindField),
      ⟨members, kinds, rfl, fit, named, known, rfl⟩, Prod.ext rfl left.symm⟩
  · rintro ⟨v, ⟨rfl, v_fits⟩, t, ⟨members, kinds, rfl, fit, named, known, left⟩, rfl⟩
    refine ⟨(name, v) :: members, kinds, rfl, List.forall_mem_cons.mpr ⟨v_fits, fit⟩, ?_, known, ?_⟩
    · rw [valuesOf_cons, if_neg other, named]
    · rw [List.filter_cons_of_pos (by simpa using other), ← left]

/-- The kind is taken out of the members if they name one at most. -/
theorem splitKind_eq_ok_iff_isSplit {drafts : List (String × Draft)} :
    splitKind room kind? drafts = .ok s ↔ IsSplit room kind? drafts s := by
  -- a kind that is found is known to the rest, so the induction is for any known kind
  induction drafts generalizing kind? s with
  | nil => rw [splitKind, isSplit_nil, Except.ok.injEq]
  | cons a rest ih =>
    obtain ⟨name, d⟩ := a
    rw [splitKind]
    by_cases same : name = kindField
    · subst same
      rw [if_pos rfl, isSplit_kind]
      cases kind? with
      | some k => simp
      | none => simp [bind_eq_ok_iff, readKind_eq_ok_iff, ih]
    · rw [if_neg same, isSplit_other same]
      simp only [bind_eq_ok_iff, readJson_eq_ok_iff, ih, pure, Except.pure, Except.ok.injEq]

end Split

/-! ## Objects and texts -/

/-- The members that are left have the values that they had. -/
theorem valuesOf_left (name : String) (members : List (String × Json)) :
    valuesOf name (members.filter fun a => a.1 ≠ kindField) =
      if name = kindField then [] else valuesOf name members := by
  have kept := valuesOf_filter (fun name => name ≠ kindField) name members
  by_cases same : name = kindField
  · rw [if_pos same]
    rwa [if_neg (by simpa using same)] at kept
  · rw [if_neg same]
    rwa [if_pos (by simpa using same)] at kept

theorem ne_kindField_of_hasField {k : MessageKind} {name : String}
    (field : k.hasField name = true) : name ≠ kindField := by
  rintro rfl
  have none : k.hasField kindField = false := by cases k <;> rfl
  exact Bool.false_ne_true (none.symm.trans field)

/-- The further attributes of an object: what is left beside the kind and the fields. -/
theorem eq_additional_left_iff {k : MessageKind} {kept : Attributes} :
    kept = k.additional (members.filter fun a => a.1 ≠ kindField) ↔
      (kept.map (·.1)).Pairwise (· < ·) ∧ ∀ name, kept.lookup name =
        if name = kindField ∨ k.hasField name = true then none
        else (valuesOf name members).getLast?.map canonical := by
  have values (name : String) : (if k.hasField name = true then none else
        (valuesOf name (members.filter fun a => a.1 ≠ kindField)).getLast?.map canonical) =
      if name = kindField ∨ k.hasField name = true then none
      else (valuesOf name members).getLast?.map canonical := by
    rw [valuesOf_left]
    by_cases field : k.hasField name = true
    · rw [if_pos field, if_pos (.inr field)]
    · by_cases same : name = kindField
      · simp [same]
      · simp [same, field]
  rw [MessageKind.eq_additional_iff]
  simp only [values]

/-- What is left beside the kind has to give the message. -/
theorem isFrom_iff : m.IsFrom members ↔ valuesOf kindField members = [.string m.kind.name] ∧
    ofMembers m.kind (members.filter fun a => a.1 ≠ kindField) = .ok m := by
  -- no field is named like the kind, so taking the kind out leaves the values of the fields
  have own (f) (mem : f ∈ m.ownValues) :
      valuesOf f.1 (members.filter fun a => a.1 ≠ kindField) = valuesOf f.1 members := by
    have field : f.1 ∈ m.kind.fields.map (·.1) := by
      rw [← m.map_ownValues, List.map_map]
      exact List.mem_map_of_mem (f := Prod.fst) mem
    rw [valuesOf_left, if_neg (ne_kindField_of_hasField (MessageKind.hasField_iff.mpr field))]
  rw [ofMembers_eq_ok_iff_holds]
  constructor
  · intro is
    exact ⟨is.kind, rfl, fun f mem => own f mem ▸ is.own f mem,
      eq_additional_left_iff.mpr ⟨is.ordered, is.additional⟩⟩
  · rintro ⟨kind, -, each, rest⟩
    obtain ⟨ordered, additional⟩ := eq_additional_left_iff.mp rest
    exact ⟨kind, fun f mem => own f mem ▸ each f mem, ordered, additional⟩

/-- A message is read from an object that is closed, with the kind and the fields. -/
theorem ofObject_eq_ok_iff_isFrom {room : Nat} {drafts : List (String × Draft)} {closed : Bool} :
    ofObject room drafts closed = .ok m ↔ closed = true ∧ ∃ members : List (String × Json),
      drafts = members.map (fun a => (a.1, Draft.ofJson a.2)) ∧
        (∀ a ∈ members, a.2.depth ≤ room) ∧ m.IsFrom members := by
  rw [ofObject, bind_eq_ok_iff]
  simp only [splitKind_eq_ok_iff_isSplit]
  constructor
  · rintro ⟨⟨kind?, left⟩, ⟨members, kinds, drafts, fit, named, known, left_eq⟩, read⟩
    cases closed with
    | false => cases read
    | true =>
      cases kind? with
      | none => cases read
      | some k =>
        have read : ofMembers k left = .ok m := read
        obtain rfl : m.kind = k := (ofMembers_eq_ok_iff_holds.mp read).1
        refine ⟨rfl, members, drafts, fit, isFrom_iff.mpr ⟨?_, left_eq ▸ read⟩⟩
        rw [named, show kinds = [m.kind] from known]
        rfl
  · rintro ⟨rfl, members, drafts, fit, is⟩
    obtain ⟨kind, read⟩ := isFrom_iff.mp is
    exact ⟨(some m.kind, members.filter fun a => a.1 ≠ kindField),
      ⟨members, [m.kind], drafts, fit, kind, rfl, rfl⟩, read⟩

/-- Names are texts, and nothing else of an object is met by a reader. -/
theorem namedMembers_eq_iff {drafts : List (Option String × Draft)} :
    Draft.namedMembers drafts = members.map (fun a => (a.1, Draft.ofJson a.2)) ↔
      drafts = Draft.ofMembers members := by
  have no_draft (v : Json) : Draft.broken ≠ .ofJson v := by cases v <;> nofun
  rw [Draft.ofMembers_eq_map]
  induction drafts generalizing members with
  | nil => cases members <;> simp [Draft.namedMembers]
  | cons a rest ih =>
    obtain ⟨name?, d⟩ := a
    cases members with
    | nil => simp [Draft.namedMembers]
    | cons b members =>
      have others := @ih members
      rw [Draft.namedMembers] at others ⊢
      simp only [List.map_cons, List.cons.injEq, others]
      cases name? with
      | none => simp [no_draft]
      | some name => simp

/-- Arrays give no message. -/
theorem ofArray_ne_ok {room : Nat} {closed : Bool} {items : List Draft} :
    ofArray room closed items ≠ .ok m := by
  intro read
  cases items with
  | nil => exact nomatch read
  | cons first rest =>
    obtain ⟨_, _, read⟩ := bind_eq_ok_iff.mp read
    obtain ⟨_, _, read⟩ := bind_eq_ok_iff.mp read
    exact nomatch read

/-- A message is read from the draft of an object that it is from. -/
theorem ofDraft_eq_ok_iff_isFrom {room : Nat} {d : Draft} :
    ofDraft room d = .ok m ↔ ∃ members : List (String × Json),
      d = .ofJson (.object members) ∧ (Json.object members).depth ≤ room ∧ m.IsFrom members := by
  cases d with
  | object drafts closed =>
    cases room with
    | zero => simp [ofDraft, depth]
    | succ room =>
      rw [ofDraft, ofObject_eq_ok_iff_isFrom]
      simp only [namedMembers_eq_iff, depth_object_le_iff, Draft.ofJson, Draft.object.injEq]
      constructor
      · rintro ⟨rfl, members, same, fit, is⟩
        exact ⟨members, ⟨same, rfl⟩, fit, is⟩
      · rintro ⟨members, ⟨same, rfl⟩, fit, is⟩
        exact ⟨rfl, members, same, fit, is⟩
  | array items closed =>
    cases room with
    | zero => simp [ofDraft, Draft.ofJson]
    | succ room => simp [ofDraft, Draft.ofJson, ofArray_ne_ok]
  | _ => simp [ofDraft, Draft.ofJson]

/-- A message is read from the texts of the objects that it is from. -/
theorem ofText_eq_ok_iff_isFrom {text : String} :
    ofText text = .ok m ↔
      ∃ members, parse? text = some (.object members) ∧ m.IsFrom members := by
  rw [ofText, readDocument, bind_eq_ok_iff]
  simp only [ofDraft_eq_ok_iff_isFrom, parse?_eq_some_iff]
  generalize Document.ofText text = document
  obtain ⟨root, ended⟩ := document
  constructor
  · rintro ⟨_, ⟨members, rfl, fits, is⟩, done⟩
    cases ended with
    | false => exact nomatch done
    | true =>
      obtain rfl := Except.ok.inj done
      exact ⟨members, ⟨rfl, fits⟩, is⟩
  · rintro ⟨members, ⟨same, fits⟩, is⟩
    obtain ⟨rfl, rfl⟩ := Document.mk.inj same
    exact ⟨m, ⟨members, rfl, fits, is⟩, rfl⟩

/-- A message is read from the objects that it is from, if they nest no deeper than the limit. -/
theorem ofJson_eq_ok_iff_isFrom {v : Json} :
    ofJson v = .ok m ↔
      v.depth ≤ nestingLimit ∧ ∃ members, v = .object members ∧ m.IsFrom members := by
  rw [ofJson, ofDraft_eq_ok_iff_isFrom]
  simp only [Draft.ofJson_inj]
  constructor
  · rintro ⟨members, rfl, fits, is⟩
    exact ⟨fits, members, rfl, is⟩
  · rintro ⟨fits, members, rfl, is⟩
    exact ⟨members, rfl, fits, is⟩

/-! ## Members in any order -/

/-- Some message has given values of its fields. -/
theorem exists_ownValues {k : MessageKind} {P : String → (type : FieldType) → type.Value → Prop}
    (each : ∀ f ∈ k.fields, ∃ x, P f.1 f.2 x) (rest : Attributes) :
    ∃ m : Message, m.kind = k ∧ (∀ f ∈ m.ownValues, P f.1 f.2.1 f.2.2) ∧ m.additional = rest := by
  cases k with
  | newLoan =>
    simp only [MessageKind.fields, List.forall_mem_cons] at each
    obtain ⟨⟨facility, p₁⟩, ⟨borrower, p₂⟩, ⟨currency, p₃⟩, ⟨amount, p₄⟩, ⟨effective, p₅⟩,
      ⟨maturity, p₆⟩, _⟩ := each
    exact ⟨newLoan ⟨facility, borrower, currency, amount, effective, maturity, rest⟩, rfl,
      by simp [ownValues, p₁, p₂, p₃, p₄, p₅, p₆], rfl⟩
  | facilityAmount =>
    simp only [MessageKind.fields, List.forall_mem_cons] at each
    obtain ⟨⟨facility, p₁⟩, ⟨lenderType, p₂⟩, ⟨transactionType, p₃⟩, ⟨effective, p₄⟩, ⟨amount, p₅⟩,
      _⟩ := each
    exact ⟨facilityAmount ⟨facility, lenderType, transactionType, effective, amount, rest⟩, rfl,
      by simp [ownValues, p₁, p₂, p₃, p₄, p₅], rfl⟩
  | facilityCode =>
    simp only [MessageKind.fields, List.forall_mem_cons] at each
    obtain ⟨⟨facility, p₁⟩, ⟨lenderType, p₂⟩, ⟨code, p₃⟩, ⟨effective, p₄⟩, _⟩ := each
    exact ⟨facilityCode ⟨facility, lenderType, code, effective, rest⟩, rfl,
      by simp [ownValues, p₁, p₂, p₃, p₄], rfl⟩
  | loanAdvance =>
    simp only [MessageKind.fields, List.forall_mem_cons] at each
    obtain ⟨⟨loan, p₁⟩, ⟨transactionType, p₂⟩, ⟨effective, p₃⟩, ⟨amount, p₄⟩, _⟩ := each
    exact ⟨loanAdvance ⟨loan, transactionType, effective, amount, rest⟩, rfl,
      by simp [ownValues, p₁, p₂, p₃, p₄], rfl⟩
  | feeAmount =>
    simp only [MessageKind.fields, List.forall_mem_cons] at each
    obtain ⟨⟨facility, p₁⟩, ⟨lenderType, p₂⟩, ⟨segment, p₃⟩, ⟨effective, p₄⟩, ⟨amount, p₅⟩, _⟩ :=
      each
    exact ⟨feeAmount ⟨facility, lenderType, segment, effective, amount, rest⟩, rfl,
      by simp [ownValues, p₁, p₂, p₃, p₄, p₅], rfl⟩

/-- Some message is from the members if they describe one. -/
theorem exists_isFrom_iff : (∃ m : Message, m.IsFrom members) ↔
    ∃ k : MessageKind, k.Describes members := by
  constructor
  · rintro ⟨m, is⟩
    refine ⟨m.kind, is.kind, fun field mem => ?_⟩
    rw [← m.map_ownValues] at mem
    obtain ⟨f, own, rfl⟩ := List.mem_map.mp mem
    exact ⟨f.2.2, is.own f own⟩
  · rintro ⟨k, named, each⟩
    obtain ⟨m, rfl, own, rest⟩ := exists_ownValues (k := k)
      (P := fun name type x => ∃ v, valuesOf name members = [v] ∧ type.Holds v x) each
      (k.additional (members.filter fun a => a.1 ≠ kindField))
    obtain ⟨ordered, additional⟩ := eq_additional_left_iff.mp rest
    exact ⟨m, named, own, ordered, additional⟩

/-- No further attribute takes the name of the kind or of a field. -/
theorem IsFrom.apart (is : m.IsFrom members) :
    ∀ name ∈ m.additional.map (·.1), name ≠ kindField ∧ m.kind.hasField name = false := by
  intro name mem
  obtain ⟨a, kept, rfl⟩ := List.mem_map.mp mem
  have nodup : (m.additional.map (·.1)).Nodup := is.ordered.imp fun lt => String.ne_of_lt lt
  have found : m.additional.lookup a.1 = some a.2 := (lookup_eq_some_iff_mem nodup).mpr kept
  rw [is.additional] at found
  by_contra taken
  rw [if_pos (by simpa [or_iff_not_imp_left] using taken)] at found
  exact nomatch found

/-- Members in another order are from the same messages if no name repeats. -/
theorem IsFrom.of_perm {others : List (String × Json)} (perm : members.Perm others)
    (once : (members.map (·.1)).Nodup) (is : m.IsFrom members) : m.IsFrom others := by
  have same (name : String) : valuesOf name others = valuesOf name members :=
    (valuesOf_of_perm perm once).symm
  constructor
  · exact (same kindField).trans is.kind
  · intro f mem
    rw [same]
    exact is.own f mem
  · exact is.ordered
  · intro name
    rw [same]
    exact is.additional name

theorem isFrom_iff_of_perm {others : List (String × Json)} (perm : members.Perm others)
    (once : (members.map (·.1)).Nodup) : m.IsFrom members ↔ m.IsFrom others :=
  ⟨.of_perm perm once, .of_perm perm.symm ((perm.map _).nodup_iff.mp once)⟩

/-- A message is read from a text or value exactly if that is an object which the message is from,
and there is such a message exactly if the object names a kind once and has each field of the kind
once, with a value of its type. What is kept beside the fields takes no name of theirs, and the
order of members does not matter if no name repeats. -/
theorem read_exactly_from_format :
    (∀ (text : String) (m : Message), ofText text = .ok m ↔
        ∃ members, parse? text = some (.object members) ∧ m.IsFrom members) ∧
      (∀ (v : Json) (m : Message), v.depth ≤ nestingLimit →
        (ofJson v = .ok m ↔ ∃ members, v = .object members ∧ m.IsFrom members)) ∧
      (∀ members : List (String × Json),
        (∃ m : Message, m.IsFrom members) ↔ ∃ k : MessageKind, k.Describes members) ∧
      (∀ (text : String) (m : Message), ofText text = .ok m →
        ∀ name ∈ m.additional.map (·.1), name ≠ kindField ∧ m.kind.hasField name = false) ∧
      ∀ (text other : String) (members others : List (String × Json)),
        parse? text = some (.object members) → parse? other = some (.object others) →
          members.Perm others → (members.map (·.1)).Nodup →
            ∀ m : Message, ofText text = .ok m ↔ ofText other = .ok m := by
  refine ⟨fun text m => ofText_eq_ok_iff_isFrom, fun v m fits => ?_,
    fun members => exists_isFrom_iff, fun text m read => ?_,
    fun text other members others first second perm once m => ?_⟩
  · rw [ofJson_eq_ok_iff_isFrom, and_iff_right fits]
  · obtain ⟨members, _, is⟩ := ofText_eq_ok_iff_isFrom.mp read
    exact is.apart
  · rw [ofText_eq_ok_iff_isFrom, ofText_eq_ok_iff_isFrom, first, second]
    simp only [Option.some.injEq, Json.object.injEq, exists_eq_left', isFrom_iff_of_perm perm once]

end Message

namespace Sample

/-- The members of a change of a code, with the kind behind them and a code in an array. -/
def changeMembers : List (String × Json) :=
  [("EffectiveDate", .string "2024-04-02T00:00:00Z"), ("Note", .array [.null]),
    ("LenderType", .array [.string "100"]),
    ("FacilityTransactionCodeValue",
      .object [("FacilityTransactionCodeValueCode", .string "C"), ("Note", .bool true)]),
    ("FacilityIdentifier", .string "0030000321"),
    ("$type", .string "FacilityCodeValueTransaction")]

/-- The change of a code with one further attribute. -/
def change : Message :=
  .facilityCode {
    facility := "0030000321"
    lenderType := "100"
    code := "C"
    effective := ⟨2024, 4, 2, by decide⟩
    additional := [("Note", .array [.null])] }

end Sample

namespace Message

/-- A change of a code is read with the kind behind its fields and in front of them. -/
theorem change_is_read_in_both_orders :
    parse? (Json.object Sample.changeMembers).text = some (.object Sample.changeMembers) ∧
      parse? (Json.object Sample.changeMembers.reverse).text =
        some (.object Sample.changeMembers.reverse) ∧
      (Sample.changeMembers.map (·.1)).Nodup ∧
      ofText (Json.object Sample.changeMembers).text = .ok Sample.change ∧
      ofText (Json.object Sample.changeMembers.reverse).text = .ok Sample.change := by
  have plain (v : Json) (none : v.numbers = []) : v.ReadsBack := by
    intro n mem
    rw [none] at mem
    exact absurd mem List.not_mem_nil
  have first : parse? (Json.object Sample.changeMembers).text =
      some (.object Sample.changeMembers) :=
    parse?_text (plain _ rfl) (by decide)
  have second : parse? (Json.object Sample.changeMembers.reverse).text =
      some (.object Sample.changeMembers.reverse) :=
    parse?_text (plain _ rfl) (by decide)
  have once : (Sample.changeMembers.map (·.1)).Nodup := by decide
  have is : Sample.change.IsFrom Sample.changeMembers := by
    obtain ⟨ordered, additional⟩ := eq_additional_left_iff.mp
      (show Sample.change.additional = MessageKind.facilityCode.additional
        (Sample.changeMembers.filter fun a => a.1 ≠ kindField) from rfl)
    refine ⟨rfl, ?_, ordered, additional⟩
    simp only [Sample.change, ownValues, List.forall_mem_cons]
    refine ⟨⟨_, rfl, rfl⟩, ⟨_, rfl, .inr rfl⟩, ⟨_, rfl, .inl ⟨_, rfl, rfl⟩⟩, ⟨_, rfl, _, rfl, ?_⟩,
      List.forall_mem_nil _⟩
    rfl
  obtain ⟨read, _, _, _, reorder⟩ := read_exactly_from_format
  have forward := (read _ Sample.change).mpr ⟨_, first, is⟩
  exact ⟨first, second, once, forward, (reorder _ _ _ _ first second (List.reverse_perm _).symm once
    Sample.change).mp forward⟩

end Message

end LoanGateway
