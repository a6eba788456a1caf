import LoanGateway.Text.Lowercase

/-!
# Lowercase texts

A text that was mapped to lowercase is not changed by the mapping any more, because no run of the
mapping leads into another one. So replacing the capital ASCII letters of a text gives the lowercase
form of some text only if it gives that of the text itself.

- `ShiftRun.avoids`: the code points that one run maps to are not mapped by another one.
- `IsSmall`: a character that the mapping leaves alone wherever it stands.
- `isSmall_of_mem_lowercase`: a lowercase form holds such characters only.
- `lowercase_eq_map_toLower_iff`: when the mapping changes ASCII letters only.
-/

namespace LoanGateway.Text

/-! ## Runs that do not meet -/

/-- Whether the code points that one run maps to are not mapped by another one: they lie outside it, or
between the code points of every other place that it maps. -/
def ShiftRun.avoids (run other : ShiftRun) : Bool :=
  Nat.blt (run.image run.last) other.first || Nat.blt other.last (run.image run.first) ||
    Nat.beq other.stride 2 && (Nat.beq run.stride 2 || Nat.beq run.first run.last) &&
      Nat.beq ((run.image run.first - other.first) % 2) 1

theorem ShiftRun.covers_iff {run : ShiftRun} {n : Nat} :
    run.covers n = true ↔
      run.first ≤ n ∧ n ≤ run.last ∧ (n - run.first) % run.stride = 0 := by
  simp [covers, and_assoc]

theorem ShiftRun.not_covers_image {run other : ShiftRun} (avoids : run.avoids other = true) {n : Nat}
    (covers : run.covers n = true) : ¬ other.covers (run.image n) = true := by
  intro meets
  obtain ⟨first, last, place⟩ := covers_iff.mp covers
  obtain ⟨first', last', place'⟩ := covers_iff.mp meets
  simp only [ShiftRun.avoids, Bool.or_eq_true, Bool.and_eq_true, Nat.blt_eq, Nat.beq_eq] at avoids
  unfold image at first' last' place' avoids
  rcases avoids with (below | above) | ⟨⟨stride', stride | single⟩, odd⟩
  · omega
  · omega
  · rw [stride] at place
    rw [stride'] at place'
    omega
  · rw [stride'] at place'
    omega

/-- No run of the mapping leads into another one, nor to the dotted capital I. -/
theorem lowercaseRuns_avoid : (lowercaseRuns.all fun run =>
    run.avoids ⟨0x130, 0x130, 1, 0⟩ && lowercaseRuns.all run.avoids) = true := by
  decide +kernel

/-! ## Small characters -/

/-- A character that the mapping leaves alone wherever it stands. -/
def IsSmall (c : Char) : Prop := lowercaseChar c = [c] ∧ c.toNat ≠ 0x3A3

instance (c : Char) : Decidable (IsSmall c) := inferInstanceAs (Decidable (_ ∧ _))

/-- The mapping covers the capital ASCII letters and the capital sigma. -/
theorem exists_covers_capital : ∀ n ∈ 0x3A3 :: List.range' 0x41 26,
    ∃ run ∈ lowercaseRuns, run.covers n = true := by
  decide +kernel

theorem toLower_eq_self {c : Char} (small : ¬ (0x41 ≤ c.toNat ∧ c.toNat < 0x41 + 26)) :
    c.toLower = c :=
  dif_neg fun capital => small ⟨capital.1, Nat.lt_succ_of_le capital.2⟩

theorem lowercaseChar_of_undotted {c : Char} (wide : ¬ c.toNat < 0x80) (undotted : c.toNat ≠ 0x130) :
    lowercaseChar c = [lowercaseSimple c] := by
  rw [lowercaseChar, if_neg wide, if_neg undotted]

theorem lowercaseSimple_of_not_covers {c : Char}
    (uncovered : ∀ run ∈ lowercaseRuns, ¬ run.covers c.toNat = true) : lowercaseSimple c = c := by
  rw [lowercaseSimple, List.find?_eq_none.mpr uncovered]

/-- What no run covers is small, the dotted capital I apart. -/
theorem isSmall_of_not_covers {c : Char}
    (uncovered : ∀ run ∈ lowercaseRuns, ¬ run.covers c.toNat = true) (undotted : c.toNat ≠ 0x130) :
    IsSmall c := by
  have no_capital : c.toNat ∉ 0x3A3 :: List.range' 0x41 26 := fun mem => by
    obtain ⟨run, listed, covers⟩ := exists_covers_capital _ mem
    exact uncovered run listed covers
  rw [List.mem_cons, List.mem_range'_1, not_or] at no_capital
  refine ⟨?_, no_capital.1⟩
  by_cases ascii : c.toNat < 0x80
  · rw [lowercaseChar, if_pos ascii, toLower_eq_self no_capital.2]
  · rw [lowercaseChar_of_undotted ascii undotted, lowercaseSimple_of_not_covers uncovered]

theorem isSmall_toLower {c : Char} (ascii : c.toNat < 0x80) : IsSmall c.toLower := by
  have small : ∀ n < 0x80, IsSmall (Char.ofNat n).toLower := by decide +kernel
  rw [← c.ofNat_toNat]
  exact small c.toNat ascii

/-- A number that is no code point stands for the first character. -/
theorem toNat_ofNat_or (n : Nat) : (Char.ofNat n).toNat = n ∨ Char.ofNat n = Char.ofNat 0 := by
  by_cases valid : n.isValidChar
  · left
    rw [Char.ofNat, dif_pos valid]
    rfl
  · right
    rw [Char.ofNat, dif_neg valid]
    rfl

/-- What a run maps to is small. -/
theorem isSmall_image {run : ShiftRun} (listed : run ∈ lowercaseRuns) {n : Nat}
    (covers : run.covers n = true) : IsSmall (Char.ofNat (run.image n)) := by
  rcases toNat_ofNat_or (run.image n) with same | first
  · have avoid := List.all_eq_true.mp lowercaseRuns_avoid run listed
    obtain ⟨dotted, others⟩ := Bool.and_eq_true_iff.mp avoid
    refine isSmall_of_not_covers (fun other mem => ?_) fun at_dotted => ?_
    · rw [same]
      exact ShiftRun.not_covers_image (List.all_eq_true.mp others other mem) covers
    · rw [same] at at_dotted
      apply ShiftRun.not_covers_image dotted covers
      rw [at_dotted]
      rfl
  · rw [first]
    decide +kernel

/-- The mapping of a character on its own holds small characters. -/
theorem isSmall_of_mem_lowercaseChar {c d : Char} (mem : d ∈ lowercaseChar c) : IsSmall d := by
  by_cases ascii : c.toNat < 0x80
  · rw [lowercaseChar, if_pos ascii] at mem
    rw [List.mem_singleton.mp mem]
    exact isSmall_toLower ascii
  · by_cases dotted : c.toNat = 0x130
    · have plain : IsSmall 'i' := by decide +kernel
      have dot : IsSmall (Char.ofNat 0x307) := by decide +kernel
      rw [lowercaseChar, if_neg ascii, if_pos dotted] at mem
      rcases List.mem_cons.mp mem with rfl | rest
      · exact plain
      · rw [List.mem_singleton.mp rest]
        exact dot
    · rw [lowercaseChar_of_undotted ascii dotted] at mem
      rw [List.mem_singleton.mp mem]
      cases found : lowercaseRuns.find? (·.covers c.toNat) with
      | none =>
        have uncovered := List.find?_eq_none.mp found
        rw [lowercaseSimple_of_not_covers uncovered]
        exact isSmall_of_not_covers uncovered dotted
      | some run =>
        have covers : run.covers c.toNat = true := by simpa using List.find?_some found
        rw [lowercaseSimple, found]
        exact isSmall_image (List.mem_of_find?_eq_some found) covers

/-! ## Lowercase forms -/

theorem isSmall_of_mem_lowercaseAfter {before s : List Char} {d : Char}
    (mem : d ∈ lowercaseAfter before s) : IsSmall d := by
  induction s generalizing before with
  | nil => cases mem
  | cons c rest ih =>
    rw [lowercaseAfter] at mem
    rcases List.mem_append.mp mem with here | later
    · by_cases sigma : c.toNat = 0x3A3
      · have small : ∀ final : Bool, IsSmall (Char.ofNat (if final then 0x3C2 else 0x3C3)) := by
          decide +kernel
        rw [if_pos sigma] at here
        rw [List.mem_singleton.mp here]
        exact small _
      · rw [if_neg sigma] at here
        exact isSmall_of_mem_lowercaseChar here
    · exact ih later

/-- A lowercase form holds small characters only. -/
theorem isSmall_of_mem_lowercase {s : List Char} {d : Char} (mem : d ∈ lowercase s) : IsSmall d :=
  isSmall_of_mem_lowercaseAfter mem

theorem toLower_of_isSmall {c : Char} (small : IsSmall c) : c.toLower = c := by
  by_cases ascii : c.toNat < 0x80
  · have mapped := small.1
    rw [lowercaseChar, if_pos ascii] at mapped
    exact (List.cons.inj mapped).1
  · exact toLower_eq_self (by omega)

/-- Replacing capital ASCII letters changes nothing in a lowercase form. -/
theorem map_toLower_lowercase (s : List Char) : (lowercase s).map Char.toLower = lowercase s := by
  have same : ∀ c ∈ lowercase s, c.toLower = id c := fun c mem =>
    toLower_of_isSmall (isSmall_of_mem_lowercase mem)
  rw [List.map_congr_left same, List.map_id]

theorem lowercaseChar_of_isSmall_toLower {c : Char} (small : IsSmall c.toLower) :
    lowercaseChar c = [c.toLower] ∧ c.toNat ≠ 0x3A3 := by
  by_cases ascii : c.toNat < 0x80
  · exact ⟨by rw [lowercaseChar, if_pos ascii], by omega⟩
  · rw [toLower_eq_self (by omega)] at small ⊢
    exact small

theorem lowercaseAfter_eq_map_toLower {before s : List Char}
    (small : ∀ c ∈ s, IsSmall c.toLower) : lowercaseAfter before s = s.map Char.toLower := by
  induction s generalizing before with
  | nil => rfl
  | cons c rest ih =>
    obtain ⟨alone, single⟩ := lowercaseChar_of_isSmall_toLower (small c List.mem_cons_self)
    rw [lowercaseAfter, if_neg single, alone, ih fun d mem => small d (List.mem_cons_of_mem c mem)]
    rfl

/-- Replacing the capital ASCII letters of a text gives a lowercase form only if it gives that of the
text itself. -/
theorem lowercase_eq_map_toLower_iff {s : List Char} :
    lowercase s = s.map Char.toLower ↔ ∃ t, lowercase t = s.map Char.toLower := by
  constructor
  · intro same
    exact ⟨s, same⟩
  · rintro ⟨t, same⟩
    refine lowercaseAfter_eq_map_toLower fun c mem => isSmall_of_mem_lowercase (s := t) ?_
    rw [same]
    exact List.mem_map_of_mem mem

end LoanGateway.Text
