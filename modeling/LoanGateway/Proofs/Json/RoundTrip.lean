import LoanGateway.Json.Reader
import LoanGateway.Proofs.Json.Recognition

/-!
# Written values are read back

A value is written without blanks between its parts. Its text is one of the grammar, so it is read
back, provided that each of its numbers is.

- `Json.ReadsBack`: the numbers of a value are read back.
- `spells_print`: the text of a value is spelled by the grammar.
- `Document.ofText_text`, `readDocument_text`: whole texts.
- `parse?_text`: the value of the text of a value.
-/

namespace LoanGateway.Json

/-- The numbers of a value are read back from their written forms. -/
def ReadsBack (v : Json) : Prop := ∀ n ∈ v.numbers, n.ReadsBack

/-! ## The text of a value is spelled -/

theorem spells_number {n : Number} (back : n.ReadsBack) : Spells (.value (.number (some n))) n.text := by
  obtain ⟨literal, scanned, value⟩ := back
  obtain ⟨t, whole, literal_is⟩ := NumberLiteral.exists_spells_of_scan scanned
  rw [List.append_nil] at whole
  rw [whole, ← value]
  exact .number literal_is

/-- The literal that is written for a text is a string of that text. -/
theorem spellsString_encode (text : String) :
    SpellsString (some text) (encodeString text.toList) := by
  obtain ⟨pieces, scanned, decoded⟩ := scanString_encode text.toList []
  obtain ⟨s, inside, whole⟩ := scanString_eq_some_iff.mp scanned
  have quoted := SpellsString.quoted inside
  rw [← List.append_cancel_right whole, decoded, Option.map_some, String.ofList_toList] at quoted
  exact quoted

/-- A value without blanks around it. -/
theorem Spells.bare {d : Draft} {s : List Char} (value : Spells (.value d) s) :
    Spells (.padded d) s := by
  have none : IsSpaces [] := List.forall_mem_nil _
  have padded := Spells.padded none value none
  rwa [List.append_nil] at padded

theorem spells_commaSeparated {items : List Json}
    (each : ∀ v ∈ items, Spells (.value (.ofJson v)) v.print) :
    Spells (.items (items.map .ofJson)) (commaSeparated (items.map print)) := by
  induction items with
  | nil => exact .noItems (List.forall_mem_nil _)
  | cons v items ih =>
    obtain ⟨first, others⟩ := List.forall_mem_cons.mp each
    cases items with
    | nil => exact .lastItem first.bare
    | cons w items => exact .item first.bare (ih others)

/-- A name and a value with nothing but a colon between them. -/
theorem spells_member {name : String} {v : Json} (value : Spells (.value (.ofJson v)) v.print) :
    Spells (.member (some name, .ofJson v)) (encodeString name.toList ++ ':' :: v.print) := by
  have none : IsSpaces [] := List.forall_mem_nil _
  exact .member none (spellsString_encode name) none value.bare

theorem spells_members_commaSeparated {members : List (String × Json)}
    (each : ∀ m ∈ members, Spells (.value (.ofJson m.2)) m.2.print) :
    Spells (.members (members.map fun m => (some m.1, .ofJson m.2)))
      (commaSeparated (members.map fun m => encodeString m.1.toList ++ ':' :: m.2.print)) := by
  induction members with
  | nil => exact .noMembers (List.forall_mem_nil _)
  | cons m members ih =>
    obtain ⟨first, others⟩ := List.forall_mem_cons.mp each
    cases members with
    | nil => exact .lastMember (spells_member first)
    | cons n members => exact .moreMembers (spells_member first) (ih others)

/-- The text of a value is a text of its draft. -/
theorem spells_print {v : Json} (back : v.ReadsBack) : Spells (.value (.ofJson v)) v.print := by
  induction v using Json.induction with
  | null => exact .null
  | bool b => cases b <;> exact .bool _
  | number n => exact spells_number (back n (List.mem_singleton.mpr rfl))
  | string s => exact .string (spellsString_encode s)
  | array items ih =>
    rw [Draft.ofJson, Draft.ofItems_eq_map, print, printItems_eq_map]
    refine .array (spells_commaSeparated fun v mem => ih v mem fun n mem_n => ?_)
    exact back n (mem_numbers_array.mpr ⟨v, mem, mem_n⟩)
  | object members ih =>
    rw [Draft.ofJson, Draft.ofMembers_eq_map, print, printMembers_eq_map]
    refine .object (spells_members_commaSeparated fun m mem => ih m mem fun n mem_n => ?_)
    exact back n (mem_numbers_object.mpr ⟨m, mem, mem_n⟩)

/-! ## Whole texts -/

/-- The text of a value is one of its texts. -/
theorem isText_text {v : Json} (back : v.ReadsBack) : IsText (.ofJson v) v.text := by
  unfold IsText
  rw [text, String.toList_ofList]
  exact (spells_print back).bare

/-- The text of a value is read as the draft of the value, with nothing behind it. -/
theorem Document.ofText_text {v : Json} (back : v.ReadsBack) :
    Document.ofText v.text = ⟨.ofJson v, true⟩ :=
  ofText_eq_iff_isText.mpr (isText_text back)

/-- A value that nests no deeper than allowed is the value of its text. -/
theorem parse?_text {v : Json} (back : v.ReadsBack) (fits : v.depth ≤ nestingLimit) :
    parse? v.text = some v := by
  unfold parse?
  rw [Document.ofText_text back]
  exact Draft.json?_ofJson fits

/-- A typed reader gets the draft of a value from its text. -/
theorem readDocument_text {α : Type} (read : Draft → Decoded α) {v : Json} (back : v.ReadsBack) :
    readDocument read v.text = read (.ofJson v) := by
  unfold readDocument
  rw [Document.ofText_text back]
  dsimp only
  cases read (.ofJson v) <;> rfl

end LoanGateway.Json
