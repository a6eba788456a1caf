import LoanGateway.Proofs.Json.Recognition

/-!
# Texts beyond the reader

A text of the grammar can be more than a reader of values takes: it nests too deeply, a number in it
is too large, or the escapes of a string in it do not pair up. Nothing else keeps it from having a
value.

- `Draft.Exceeds`: the drafts with a part that is too much.
- `isBounded_of_spells`: nothing else counts in a part of a text.
- `parse?_eq_none_iff_exceeds`: the texts of the grammar that have no value.
- `parse?_eq_none_iff`: the texts that have no value, whether they are of the grammar or not.
-/

namespace LoanGateway.Json

/-- The draft is too much for a reader with room for some arrays and objects within one another. -/
inductive Draft.Exceeds : Nat → Draft → Prop
  /-- A number that is out of range. -/
  | number (room : Nat) : Exceeds room (.number none)
  /-- A string with a surrogate that stands alone. -/
  | string (room : Nat) : Exceeds room (.string none)
  /-- There is no room left for an array, nor for an object. -/
  | array (items : List Draft) (closed : Bool) : Exceeds 0 (.array items closed)
  | object (members : List (Option String × Draft)) (closed : Bool) :
      Exceeds 0 (.object members closed)
  | item {room : Nat} {items : List Draft} {closed : Bool} {d : Draft} (mem : d ∈ items)
      (exceeds : Exceeds room d) : Exceeds (room + 1) (.array items closed)
  | name {room : Nat} {members : List (Option String × Draft)} {closed : Bool} {d : Draft}
      (mem : (none, d) ∈ members) : Exceeds (room + 1) (.object members closed)
  | member {room : Nat} {members : List (Option String × Draft)} {closed : Bool}
      {name : Option String} {d : Draft} (mem : (name, d) ∈ members) (exceeds : Exceeds room d) :
      Exceeds (room + 1) (.object members closed)

namespace Draft

theorem exceeds_array_iff {room : Nat} {items : List Draft} {closed : Bool} :
    Exceeds (room + 1) (.array items closed) ↔ ∃ d ∈ items, Exceeds room d := by
  constructor
  · intro h
    cases h with
    | item mem exceeds => exact ⟨_, mem, exceeds⟩
  · rintro ⟨d, mem, exceeds⟩
    exact .item mem exceeds

theorem exceeds_object_iff {room : Nat} {members : List (Option String × Draft)} {closed : Bool} :
    Exceeds (room + 1) (.object members closed) ↔
      ∃ m ∈ members, m.1 = none ∨ Exceeds room m.2 := by
  constructor
  · intro h
    cases h with
    | name mem => exact ⟨_, mem, .inl rfl⟩
    | member mem exceeds => exact ⟨_, mem, .inr exceeds⟩
  · rintro ⟨⟨name, d⟩, mem, same | exceeds⟩
    · obtain rfl : name = none := same
      exact .name mem
    · exact .member mem exceeds

/-! ## Drafts without a value -/

theorem items?_eq_none_iff {room : Nat} {items : List Draft} :
    items? room items = none ↔ ∃ d ∈ items, json? room d = none := by
  induction items with
  | nil => simp [items?]
  | cons d rest ih =>
    rw [items?, List.exists_mem_cons_iff, ← ih]
    cases json? room d with
    | none => exact iff_of_true rfl (.inl rfl)
    | some v => cases items? room rest <;> simp

theorem members?_eq_none_iff {room : Nat} {members : List (Option String × Draft)} :
    members? room members = none ↔ ∃ m ∈ members, m.1 = none ∨ json? room m.2 = none := by
  induction members with
  | nil => simp [members?]
  | cons m rest ih =>
    obtain ⟨name, d⟩ := m
    rw [members?, List.exists_mem_cons_iff, ← ih]
    cases name with
    | none => exact iff_of_true rfl (.inl (.inl rfl))
    | some name =>
      cases json? room d with
      | none => exact iff_of_true rfl (.inl (.inr rfl))
      | some v => cases members? room rest <;> simp

/-- Whatever the room is, the draft has a value unless something in it is too much. -/
def IsBounded (d : Draft) : Prop := ∀ room, json? room d = none ↔ Exceeds room d

theorem isBounded_array {items : List Draft} (all : ∀ d ∈ items, IsBounded d) :
    IsBounded (.array items true) := by
  intro room
  cases room with
  | zero => exact iff_of_true rfl (.array items true)
  | succ room =>
    have inside : json? (room + 1) (.array items true) = none ↔ items? room items = none :=
      Option.map_eq_none_iff
    rw [inside, items?_eq_none_iff, exceeds_array_iff]
    exact exists_congr fun d => and_congr_right fun mem => all d mem room

theorem isBounded_object {members : List (Option String × Draft)}
    (all : ∀ m ∈ members, IsBounded m.2) : IsBounded (.object members true) := by
  intro room
  cases room with
  | zero => exact iff_of_true rfl (.object members true)
  | succ room =>
    have inside : json? (room + 1) (.object members true) = none ↔ members? room members = none :=
      Option.map_eq_none_iff
    rw [inside, members?_eq_none_iff, exceeds_object_iff]
    exact exists_congr fun m => and_congr_right fun mem => or_congr_right (all m mem room)

end Draft

/-! ## Texts without a value -/

/-- The drafts in a part of a text are bounded. -/
def Part.IsBounded : Part → Prop
  | .value d | .padded d => d.IsBounded
  | .member m => m.2.IsBounded
  | .items ds => ∀ d ∈ ds, d.IsBounded
  | .members ms => ∀ m ∈ ms, m.2.IsBounded

/-- What is spelled is complete, so that only its size counts. -/
theorem isBounded_of_spells {part : Part} {s : List Char} (spelled : Spells part s) :
    part.IsBounded := by
  -- what is spelled is closed and not broken, which leaves room, numbers and strings to count
  induction spelled with
  | null => exact fun room => ⟨nofun, nofun⟩
  | bool b => exact fun room => ⟨nofun, nofun⟩
  | @number literal =>
    intro room
    cases literal.value? with
    | none => exact iff_of_true rfl (.number room)
    | some n => exact ⟨nofun, nofun⟩
  | @string text =>
    intro room
    cases text with
    | none => exact iff_of_true rfl (.string room)
    | some s => exact ⟨nofun, nofun⟩
  | array _ ih => exact Draft.isBounded_array ih
  | object _ ih => exact Draft.isBounded_object ih
  | padded _ _ _ ih => exact ih
  | member _ _ _ _ ih => exact ih
  | noItems => exact List.forall_mem_nil _
  | noMembers => exact List.forall_mem_nil _
  | lastItem _ ih => exact List.forall_mem_singleton.mpr ih
  | lastMember _ ih => exact List.forall_mem_singleton.mpr ih
  | item _ _ ih ihRest => exact List.forall_mem_cons.mpr ⟨ih, ihRest⟩
  | moreMembers _ _ ih ihRest => exact List.forall_mem_cons.mpr ⟨ih, ihRest⟩

/-- A text of the grammar has no value exactly if something in it is too much for the reader. -/
theorem parse?_eq_none_iff_exceeds {d : Draft} {text : String} (is : IsText d text) :
    parse? text = none ↔ d.Exceeds nestingLimit := by
  have read : Document.ofText text = ⟨d, true⟩ := ofText_eq_iff_isText.mpr is
  rw [parse?, read]
  exact isBounded_of_spells is nestingLimit

/-- The text of a value is too much for the reader exactly if the value nests too deeply. -/
theorem exceeds_ofJson_iff {v : Json} {text : String} (is : IsText (.ofJson v) text) :
    (Draft.ofJson v).Exceeds nestingLimit ↔ nestingLimit < v.depth := by
  rw [← parse?_eq_none_iff_exceeds is, ← Nat.not_le, ← Option.not_isSome_iff_eq_none]
  refine not_congr ⟨fun some => ?_, fun fits => ?_⟩
  · obtain ⟨w, value⟩ := Option.isSome_iff_exists.mp some
    obtain ⟨isOther, fits⟩ := parse?_eq_some_iff_isText.mp value
    rwa [Draft.ofJson_inj.mp (is.unique isOther)]
  · rw [parse?_eq_some_iff_isText.mpr ⟨is, fits⟩]
    rfl

/-- A text has no value if it is not of the grammar, or if something in it is too much. -/
theorem parse?_eq_none_iff {text : String} :
    parse? text = none ↔ ∀ d, IsText d text → d.Exceeds nestingLimit := by
  constructor
  · intro unread d is
    exact (parse?_eq_none_iff_exceeds is).mp unread
  · intro all
    cases value : parse? text with
    | none => rfl
    | some v =>
      obtain ⟨is, _⟩ := parse?_eq_some_iff_isText.mp value
      rw [(parse?_eq_none_iff_exceeds is).mpr (all _ is)] at value
      cases value

end LoanGateway.Json
