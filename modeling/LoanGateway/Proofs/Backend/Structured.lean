import LoanGateway.Proofs.Backend.Decision
import LoanGateway.Proofs.Json.RoundTrip

/-!
# Phrases and structured bodies

Phrases are looked for in texts, and an array or object is none. A body that is an array or object by
the grammar is spared only if the reader has a value for it. One that is too much for the reader is
searched like a plain text, so a bad request becomes an absent resource if a phrase stands in it.

- `Draft.IsStructured`: the arrays and objects.
- `Body.isFrom_of_structured`: an array or object is read as one, or as a plain text.
- `Json.nest`: a value within some arrays.
- `Backend.phrases_spare_structured_iff`: the main statement.
-/

namespace LoanGateway

open Json

/-! ## Arrays and objects -/

/-- An array or object. -/
inductive Json.Draft.IsStructured : Draft → Prop
  | array (items : List Draft) (closed : Bool) : IsStructured (.array items closed)
  | object (members : List (Option String × Draft)) (closed : Bool) :
      IsStructured (.object members closed)

variable {d : Draft} {raw : String}

/-- An array or object is read as one, or it is too much for the reader and is read as a plain
text. -/
theorem Body.isFrom_of_structured (structured : d.IsStructured) (is : IsText d raw) :
    (¬ d.Exceeds nestingLimit ∧ ∃ v, IsFrom raw (.structured v)) ∨
      (d.Exceeds nestingLimit ∧ IsFrom raw (.text raw)) := by
  cases value : parse? raw with
  | none =>
    have exceeds := (parse?_eq_none_iff_exceeds is).mp value
    exact .inr ⟨exceeds, .plain (parse?_eq_none_iff.mp value)⟩
  | some v =>
    have within : ¬ d.Exceeds nestingLimit := by
      rw [← parse?_eq_none_iff_exceeds is, value]
      nofun
    obtain ⟨isValue, fits⟩ := parse?_eq_some_iff_isText.mp value
    obtain rfl := is.unique isValue
    refine .inl ⟨within, v.canonical, .structured is fits ?_ ?_⟩
    · rintro rfl
      cases structured
    · rintro s rfl
      cases structured

namespace Backend

/-- A structured body that the reader has a value for is a bad request. -/
theorem verdict_of_not_exceeds (structured : d.IsStructured) (is : IsText d raw)
    (within : ¬ d.Exceeds nestingLimit) (phrases : List String) :
    ∃ detail, verdict 400 raw phrases = .badRequest detail := by
  rcases Body.isFrom_of_structured structured is with ⟨_, v, from_value⟩ | ⟨exceeds, _⟩
  · exact ⟨_, Decides.verdict_eq (.bad from_value nofun)⟩
  · exact absurd exceeds within

/-- A structured body that is too much for the reader is searched. -/
theorem verdict_of_exceeds (structured : d.IsStructured) (is : IsText d raw)
    (exceeds : d.Exceeds nestingLimit) {phrases : List String} (holds : Holds phrases raw) :
    verdict 400 raw phrases = .notFound (some raw) := by
  rcases Body.isFrom_of_structured structured is with ⟨within, _⟩ | ⟨_, plain⟩
  · exact absurd exceeds within
  · exact Decides.verdict_eq (.absent plain holds)

end Backend

/-! ## Values within arrays -/

namespace Json

/-- A value within some arrays. -/
def nest (v : Json) : Nat → Json
  | 0 => v
  | count + 1 => .array [v.nest count]

theorem depth_nest (v : Json) (count : Nat) : (v.nest count).depth = v.depth + count := by
  induction count with
  | zero => rfl
  | succ count ih => rw [nest, depth, depthOfItems, depthOfItems, ih, Nat.max_zero, Nat.add_assoc]

theorem ReadsBack.nest {v : Json} (back : v.ReadsBack) (count : Nat) : (v.nest count).ReadsBack := by
  induction count with
  | zero => exact back
  | succ count ih =>
    intro n mem
    obtain ⟨w, mem_w, mem_n⟩ := mem_numbers_array.mp mem
    obtain rfl := List.mem_singleton.mp mem_w
    exact ih n mem_n

/-- What is written for the value is still there. -/
theorem infix_text_nest (v : Json) (count : Nat) :
    v.print <:+: (v.nest count).text.toList := by
  have same (w : Json) : w.text.toList = w.print := String.toList_ofList
  rw [same]
  induction count with
  | zero => exact List.infix_refl _
  | succ count ih =>
    have written : (v.nest (count + 1)).print = ['['] ++ (v.nest count).print ++ [']'] := rfl
    rw [written]
    exact ih.trans (List.infix_append _ _ _)

end Json

namespace Backend

/-! ## The main statement -/

/-- A body that is an array or object is a bad request whatever the phrases are, if and only if
nothing in it is too much for the reader. Otherwise it is an absent resource as soon as a phrase
stands in it. -/
theorem phrases_spare_structured_iff (structured : d.IsStructured) (is : IsText d raw) :
    ((∀ phrases, ∃ detail, verdict 400 raw phrases = .badRequest detail) ↔
        ¬ d.Exceeds nestingLimit) ∧
      (d.Exceeds nestingLimit → ∀ phrases, Holds phrases raw →
        verdict 400 raw phrases = .notFound (some raw)) := by
  constructor
  · constructor
    · intro spared exceeds
      -- as a phrase, the body stands in itself
      have holds : Holds [raw] raw := ⟨raw, List.mem_cons_self, List.infix_refl _⟩
      obtain ⟨detail, bad⟩ := spared [raw]
      rw [verdict_of_exceeds structured is exceeds holds] at bad
      cases bad
    · intro within phrases
      exact verdict_of_not_exceeds structured is within phrases
  · intro exceeds phrases holds
    exact verdict_of_exceeds structured is exceeds holds

end Backend

namespace Sample

/-- What is said about a facility, as a value. -/
def complaint : Json := .string "Facility does not exist"

theorem readsBack_complaint : complaint.ReadsBack := List.forall_mem_nil _

/-- The words stand in the text of the value, within however many arrays. -/
theorem holds_complaint (count : Nat) :
    Backend.Holds ["Facility does not exist"] (complaint.nest count).text := by
  have written : "Facility does not exist".toList <:+: complaint.print :=
    Text.occursIn_iff.mp (by decide)
  exact ⟨_, List.mem_cons_self, written.trans (infix_text_nest complaint count)⟩

end Sample

namespace Backend

open Sample

/-- What is said within 127 arrays is not searched. -/
theorem complaint_in_arrays_is_spared :
    ∃ detail, verdict 400 (complaint.nest 127).text ["Facility does not exist"] =
      .badRequest detail := by
  have structured : (Draft.ofJson (complaint.nest 127)).IsStructured := .array _ _
  have is := isText_text (readsBack_complaint.nest 127)
  obtain ⟨spared_iff, _⟩ := phrases_spare_structured_iff structured is
  refine spared_iff.mpr ?_ _
  rw [exceeds_ofJson_iff is, depth_nest]
  exact Nat.lt_irrefl _

/-- What is said within one more array is searched. -/
theorem complaint_in_more_arrays_is_searched :
    ¬ ∀ (d : Draft) (raw : String) (phrases : List String), d.IsStructured → IsText d raw →
      ∃ detail, verdict 400 raw phrases = .badRequest detail := by
  intro spared
  have is := isText_text (readsBack_complaint.nest 128)
  have exceeds : (Draft.ofJson (complaint.nest 128)).Exceeds nestingLimit := by
    rw [exceeds_ofJson_iff is, depth_nest]
    exact Nat.lt_succ_self _
  have absent := verdict_of_exceeds (.array _ _) is exceeds (holds_complaint 128)
  obtain ⟨detail, bad⟩ := spared _ _ ["Facility does not exist"] (.array _ _) is
  rw [absent] at bad
  cases bad

end Backend

end LoanGateway
