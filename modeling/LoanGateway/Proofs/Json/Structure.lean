import LoanGateway.Json.Draft
import LoanGateway.Json.Printer

/-!
# The structure of values

Values nest, so what is said about all of them is proved along the nesting: for the items of an
array and the members of an object first.

- `Json.induction`: the principle.
- `Json.depth`, `Json.numbers`: how deep a value nests, and the numbers in it.
- `Draft.json?_ofJson`: a value that nests no deeper than allowed is the value of its draft.
- `Draft.json?_eq_some_iff`: a draft has no other value.
- `parse?_eq_some_iff`: the texts of a value.
-/

namespace LoanGateway.Json

/-- What holds of the simple values, and of an array or object if it holds of everything in it, holds
of all values. -/
@[elab_as_elim]
theorem induction {P : Json → Prop} (null : P .null) (bool : ∀ b, P (.bool b))
    (number : ∀ n, P (.number n)) (string : ∀ s, P (.string s))
    (array : ∀ items, (∀ v ∈ items, P v) → P (.array items))
    (object : ∀ members, (∀ m ∈ members, P m.2) → P (.object members)) (v : Json) : P v :=
  @Json.rec P (fun items => ∀ v ∈ items, P v) (fun members => ∀ m ∈ members, P m.2)
    (fun m => P m.2) null bool number string array object (fun _ mem => nomatch mem)
    (fun _ _ first rest => List.forall_mem_cons.mpr ⟨first, rest⟩) (fun _ mem => nomatch mem)
    (fun _ _ first rest => List.forall_mem_cons.mpr ⟨first, rest⟩) (fun _ _ value => value) v

/-! ## Parts of arrays and objects -/

@[simp] theorem printItems_eq_map (items : List Json) : printItems items = items.map print := by
  induction items with
  | nil => rfl
  | cons v rest ih => rw [printItems, ih, List.map_cons]

@[simp] theorem printMembers_eq_map (members : List (String × Json)) :
    printMembers members =
      members.map fun m => encodeString m.1.toList ++ ':' :: print m.2 := by
  induction members with
  | nil => rfl
  | cons m rest ih => rw [printMembers, ih, List.map_cons]

@[simp] theorem Draft.ofItems_eq_map (items : List Json) :
    Draft.ofItems items = items.map Draft.ofJson := by
  induction items with
  | nil => rfl
  | cons v rest ih => rw [Draft.ofItems, ih, List.map_cons]

@[simp] theorem Draft.ofMembers_eq_map (members : List (String × Json)) :
    Draft.ofMembers members = members.map fun m => (some m.1, Draft.ofJson m.2) := by
  induction members with
  | nil => rfl
  | cons m rest ih => rw [Draft.ofMembers, ih, List.map_cons]

/-! ## Depth -/

mutual

/-- How many arrays and objects stand inside one another. -/
def depth : Json → Nat
  | .array items => depthOfItems items + 1
  | .object members => depthOfMembers members + 1
  | _ => 0

def depthOfItems : List Json → Nat
  | [] => 0
  | v :: rest => max (depth v) (depthOfItems rest)

def depthOfMembers : List (String × Json) → Nat
  | [] => 0
  | (_, v) :: rest => max (depth v) (depthOfMembers rest)

end

theorem depthOfItems_le_iff {items : List Json} {room : Nat} :
    depthOfItems items ≤ room ↔ ∀ v ∈ items, v.depth ≤ room := by
  induction items with
  | nil => simp [depthOfItems]
  | cons v rest ih => rw [depthOfItems, Nat.max_le, ih, List.forall_mem_cons]

theorem depthOfMembers_le_iff {members : List (String × Json)} {room : Nat} :
    depthOfMembers members ≤ room ↔ ∀ m ∈ members, m.2.depth ≤ room := by
  induction members with
  | nil => simp [depthOfMembers]
  | cons m rest ih => rw [depthOfMembers, Nat.max_le, ih, List.forall_mem_cons]

/-- An array nests one deeper than its items. -/
theorem depth_array_le_iff {items : List Json} {room : Nat} :
    (Json.array items).depth ≤ room + 1 ↔ ∀ v ∈ items, v.depth ≤ room := by
  rw [depth, Nat.succ_le_succ_iff, depthOfItems_le_iff]

/-- An object nests one deeper than its members. -/
theorem depth_object_le_iff {members : List (String × Json)} {room : Nat} :
    (Json.object members).depth ≤ room + 1 ↔ ∀ m ∈ members, m.2.depth ≤ room := by
  rw [depth, Nat.succ_le_succ_iff, depthOfMembers_le_iff]

namespace Draft

theorem items?_map_ofJson {items : List Json} {room : Nat}
    (all : ∀ v ∈ items, json? room (ofJson v) = some v) :
    items? room (items.map ofJson) = some items := by
  induction items with
  | nil => rfl
  | cons v rest ih =>
    obtain ⟨first, others⟩ := List.forall_mem_cons.mp all
    simp [items?, first, ih others]

theorem members?_map_ofJson {members : List (String × Json)} {room : Nat}
    (all : ∀ m ∈ members, json? room (ofJson m.2) = some m.2) :
    members? room (members.map fun m => (some m.1, ofJson m.2)) = some members := by
  induction members with
  | nil => rfl
  | cons m rest ih =>
    obtain ⟨first, others⟩ := List.forall_mem_cons.mp all
    simp [members?, first, ih others]

/-- A value that nests no deeper than allowed is the value of its draft. -/
theorem json?_ofJson {v : Json} {room : Nat} (fits : v.depth ≤ room) :
    json? room (ofJson v) = some v := by
  induction v using Json.induction generalizing room with
  | null => rfl
  | bool b => rfl
  | number n => rfl
  | string s => rfl
  | array items ih =>
    cases room with
    | zero => exact absurd fits (Nat.not_succ_le_zero _)
    | succ room =>
      have inside := depth_array_le_iff.mp fits
      rw [ofJson, ofItems_eq_map, json?,
        items?_map_ofJson fun v mem => ih v mem (inside v mem)]
      rfl
  | object members ih =>
    cases room with
    | zero => exact absurd fits (Nat.not_succ_le_zero _)
    | succ room =>
      have inside := depth_object_le_iff.mp fits
      rw [ofJson, ofMembers_eq_map, json?,
        members?_map_ofJson fun m mem => ih m mem (inside m mem)]
      rfl

/-- Nothing but the draft of a value has the value, and it nests no deeper than allowed. -/
def IsOnlyDraft (v : Json) : Prop :=
  ∀ {room : Nat} {d : Draft}, json? room d = some v → d = ofJson v ∧ v.depth ≤ room

theorem eq_map_of_items? {items : List Json} {drafts : List Draft} {room : Nat}
    (all : ∀ v ∈ items, IsOnlyDraft v) (read : items? room drafts = some items) :
    drafts = items.map ofJson ∧ ∀ v ∈ items, v.depth ≤ room := by
  induction drafts generalizing items with
  | nil =>
    obtain rfl : [] = items := Option.some.inj read
    exact ⟨rfl, List.forall_mem_nil _⟩
  | cons d rest ih =>
    simp only [items?, Option.bind_eq_bind, Option.bind_eq_some_iff, Option.pure_def,
      Option.some.injEq] at read
    obtain ⟨v, first, others, second, rfl⟩ := read
    obtain ⟨v_only, others_only⟩ := List.forall_mem_cons.mp all
    obtain ⟨rfl, v_fits⟩ := v_only first
    obtain ⟨rfl, others_fit⟩ := ih others_only second
    exact ⟨rfl, List.forall_mem_cons.mpr ⟨v_fits, others_fit⟩⟩

theorem eq_map_of_members? {members : List (String × Json)}
    {drafts : List (Option String × Draft)} {room : Nat} (all : ∀ m ∈ members, IsOnlyDraft m.2)
    (read : members? room drafts = some members) :
    drafts = members.map (fun m => (some m.1, ofJson m.2)) ∧ ∀ m ∈ members, m.2.depth ≤ room := by
  induction drafts generalizing members with
  | nil =>
    obtain rfl : [] = members := Option.some.inj read
    exact ⟨rfl, List.forall_mem_nil _⟩
  | cons d rest ih =>
    obtain ⟨name?, d⟩ := d
    simp only [members?, Option.bind_eq_bind, Option.bind_eq_some_iff, Option.pure_def,
      Option.some.injEq] at read
    obtain ⟨name, rfl, v, first, others, second, rfl⟩ := read
    obtain ⟨v_only, others_only⟩ := List.forall_mem_cons.mp all
    obtain ⟨rfl, v_fits⟩ := v_only first
    obtain ⟨rfl, others_fit⟩ := ih others_only second
    exact ⟨rfl, List.forall_mem_cons.mpr ⟨v_fits, others_fit⟩⟩

theorem isOnlyDraft (v : Json) : IsOnlyDraft v := by
  induction v using Json.induction with
  | array items ih =>
    intro room d read
    cases d with
    | array drafts closed =>
      cases room with
      | zero => exact nomatch read
      | succ room =>
        cases closed with
        | false => exact nomatch read
        | true =>
          obtain ⟨_, inside, same⟩ := Option.map_eq_some_iff.mp read
          obtain rfl := Json.array.inj same
          obtain ⟨rfl, fit⟩ := eq_map_of_items? ih inside
          exact ⟨by rw [ofJson, ofItems_eq_map], depth_array_le_iff.mpr fit⟩
    | _ => cases room <;> simp [json?] at read
  | object members ih =>
    intro room d read
    cases d with
    | object drafts closed =>
      cases room with
      | zero => exact nomatch read
      | succ room =>
        cases closed with
        | false => exact nomatch read
        | true =>
          obtain ⟨_, inside, same⟩ := Option.map_eq_some_iff.mp read
          obtain rfl := Json.object.inj same
          obtain ⟨rfl, fit⟩ := eq_map_of_members? ih inside
          exact ⟨by rw [ofJson, ofMembers_eq_map], depth_object_le_iff.mpr fit⟩
    | _ => cases room <;> simp [json?] at read
  | _ =>
    intro room d read
    cases d <;> cases room <;> simp_all [json?, ofJson, depth]

/-- The drafts of a value: its own one, if the value nests no deeper than allowed. -/
theorem json?_eq_some_iff {d : Draft} {v : Json} {room : Nat} :
    json? room d = some v ↔ d = ofJson v ∧ v.depth ≤ room := by
  constructor
  · exact fun read => isOnlyDraft v read
  · rintro ⟨rfl, fits⟩
    exact json?_ofJson fits

/-- Different values have different drafts. -/
theorem ofJson_inj {v w : Json} : ofJson v = ofJson w ↔ v = w := by
  constructor
  · intro same
    have value : json? (max v.depth w.depth) (ofJson v) = some v :=
      json?_ofJson (Nat.le_max_left _ _)
    rw [same, json?_ofJson (Nat.le_max_right _ _)] at value
    exact (Option.some.inj value).symm
  · rintro rfl
    rfl

end Draft

/-- The texts of a value: nothing follows the value, and it nests no deeper than the limit. -/
theorem parse?_eq_some_iff {text : String} {v : Json} :
    parse? text = some v ↔
      Document.ofText text = ⟨Draft.ofJson v, true⟩ ∧ v.depth ≤ nestingLimit := by
  rw [parse?]
  generalize Document.ofText text = document
  obtain ⟨root, ended⟩ := document
  cases ended with
  | false => simp
  | true => simp [Draft.json?_eq_some_iff]

/-! ## Numbers -/

mutual

/-- The numbers in a value, in order. -/
def numbers : Json → List Number
  | .number n => [n]
  | .array items => numbersOfItems items
  | .object members => numbersOfMembers members
  | _ => []

def numbersOfItems : List Json → List Number
  | [] => []
  | v :: rest => numbers v ++ numbersOfItems rest

def numbersOfMembers : List (String × Json) → List Number
  | [] => []
  | (_, v) :: rest => numbers v ++ numbersOfMembers rest

end

theorem mem_numbers_array {n : Number} {items : List Json} :
    n ∈ (Json.array items).numbers ↔ ∃ v ∈ items, n ∈ v.numbers := by
  rw [numbers]
  induction items with
  | nil => simp [numbersOfItems]
  | cons v rest ih => simp [numbersOfItems, ih]

theorem mem_numbers_object {n : Number} {members : List (String × Json)} :
    n ∈ (Json.object members).numbers ↔ ∃ m ∈ members, n ∈ m.2.numbers := by
  rw [numbers]
  induction members with
  | nil => simp [numbersOfMembers]
  | cons m rest ih => simp [numbersOfMembers, ih]

end LoanGateway.Json
