import LoanGateway.Http.Response
import LoanGateway.Proofs.Text.Lowercase

/-!
# Headers of responses

Headers are added under the full lowercase forms of their names, and they are looked up whatever the
case of the ASCII letters. The two agree for the names in which the lowercase mapping changes ASCII
letters only. Nothing is found under any other name.

- `Response.withHeaders`: several headers.
- `Response.valuesUnder`: the values that were added under a name, whatever its case.
- `Response.ChangesAscii`: the lowercase mapping changes ASCII letters of a name only.
- `Response.headerValues_withHeaders_iff`: which values are found.
-/

namespace LoanGateway.Response

/-- Adds headers one after the other. -/
def withHeaders (r : Response) (headers : List (String × String)) : Response :=
  headers.foldl (fun r entry => r.withHeader entry.1 entry.2) r

/-- The values that were added under names with the same lowercase form as this one, in order. -/
def valuesUnder (headers : List (String × String)) (name : String) : List String :=
  (headers.filter fun entry => Text.lowercaseString entry.1 = Text.lowercaseString name).map (·.2)

/-- The lowercase mapping changes ASCII letters of the name only. -/
def ChangesAscii (name : String) : Prop :=
  Text.lowercase name.toList = name.toList.map Char.toLower

instance (name : String) : Decidable (ChangesAscii name) := inferInstanceAs (Decidable (_ = _))

/-- Names of ASCII characters. -/
theorem changesAscii_of_ascii {name : String} (ascii : ∀ c ∈ name.toList, c.toNat < 0x80) :
    ChangesAscii name :=
  Text.lowercase_ascii ascii

/-! ## Adding and looking up -/

variable {headers : List (String × String)} {name key : String}

theorem headers_withHeaders (r : Response) (headers : List (String × String)) :
    (r.withHeaders headers).headers =
      r.headers ++ headers.map fun entry => (Text.lowercaseString entry.1, entry.2) := by
  induction headers generalizing r with
  | nil => exact (List.append_nil _).symm
  | cons first rest ih =>
    show ((r.withHeader first.1 first.2).withHeaders rest).headers = _
    rw [ih, List.map_cons, withHeader, List.append_assoc, List.singleton_append]

/-- A stored name is the one that is looked up if its lowercase form comes of replacing the capital ASCII
letters of that one. -/
theorem sameName_lowercaseString_iff :
    sameName (Text.lowercaseString key) name = true ↔
      Text.lowercase key.toList = name.toList.map Char.toLower := by
  rw [sameName, beq_iff_eq, Text.lowercaseString, String.toList_ofList, Text.map_toLower_lowercase]

theorem lowercaseString_inj {a b : String} :
    Text.lowercaseString a = Text.lowercaseString b ↔
      Text.lowercase a.toList = Text.lowercase b.toList :=
  String.ofList_inj

/-- Under a name whose lowercase form changes ASCII letters only, the names with this lowercase form are
found. -/
theorem sameName_of_changesAscii (ascii : ChangesAscii name) :
    sameName (Text.lowercaseString key) name = true ↔
      Text.lowercaseString key = Text.lowercaseString name := by
  rw [sameName_lowercaseString_iff, lowercaseString_inj, ascii]

/-- Under any other name no name is found. -/
theorem not_sameName_of_not_changesAscii (other : ¬ ChangesAscii name) :
    ¬ sameName (Text.lowercaseString key) name = true := by
  rw [sameName_lowercaseString_iff]
  exact fun same => other (Text.lowercase_eq_map_toLower_iff.mpr ⟨_, same⟩)

/-- The values under a name among headers that were added to none. -/
theorem headerValues_withHeaders (status : Nat) (body : String) :
    ((new status body).withHeaders headers).headerValues name =
      if ChangesAscii name then valuesUnder headers name else [] := by
  have found : ((new status body).withHeaders headers).headerValues name =
      (headers.filter fun entry => sameName (Text.lowercaseString entry.1) name).map (·.2) := by
    rw [headerValues, headers_withHeaders]
    show ((headers.map _).filter _).map _ = _
    rw [List.filter_map, List.map_map]
    rfl
  rw [found]
  split
  · next ascii =>
    have same : (fun entry : String × String => sameName (Text.lowercaseString entry.1) name) =
        fun entry => decide (Text.lowercaseString entry.1 = Text.lowercaseString name) := by
      funext entry
      exact Bool.eq_iff_iff.mpr ((sameName_of_changesAscii ascii).trans decide_eq_true_iff.symm)
    rw [same, valuesUnder]
  · next other =>
    have none : headers.filter (fun entry => sameName (Text.lowercaseString entry.1) name) = [] :=
      List.filter_eq_nil_iff.mpr fun entry _ => not_sameName_of_not_changesAscii other
    rw [none, List.map_nil]

/-- Headers that were added one after the other are found under a name in order, and the first one as the
header of this name, if the lowercase mapping changes ASCII letters of the name only. Nothing is found
under any other name. So exactly the values that were added under a name, whatever its case, are found if
and only if the mapping changes its ASCII letters only or there are no such values. Names of ASCII characters
are of this kind. -/
theorem headerValues_withHeaders_iff (status : Nat) (body : String)
    (headers : List (String × String)) (name : String) :
    let r := (new status body).withHeaders headers
    r.headerValues name = (if ChangesAscii name then valuesUnder headers name else []) ∧
      r.header? name = (if ChangesAscii name then (valuesUnder headers name).head? else none) ∧
      (r.headerValues name = valuesUnder headers name ↔
        ChangesAscii name ∨ valuesUnder headers name = []) ∧
      ((∀ c ∈ name.toList, c.toNat < 0x80) → ChangesAscii name) := by
  intro r
  have found : r.headerValues name = if ChangesAscii name then valuesUnder headers name else [] :=
    headerValues_withHeaders status body
  refine ⟨found, ?_, ?_, changesAscii_of_ascii⟩
  · rw [header?, found]
    split <;> rfl
  · rw [found]
    split
    · next ascii => exact ⟨fun _ => .inl ascii, fun _ => rfl⟩
    · next other => exact ⟨fun none => .inr none.symm, fun none => (none.resolve_left other).symm⟩

/-- A header whose name begins with a capital letter outside ASCII is not found under its own name. -/
theorem accented_header_is_not_found :
    let headers := [("Écran", "1")]
    valuesUnder headers "Écran" = ["1"] ∧
      ((new 200 "").withHeaders headers).headerValues "Écran" = [] ∧
      ((new 200 "").withHeaders headers).header? "Écran" = none := by
  decide +kernel

end LoanGateway.Response
