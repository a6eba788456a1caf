import Mathlib.Data.List.Forall2

/-!
# Checks in a row

Settings and bundles are read by checks that each give a result or an error; the first error ends
the reading. A sequence of checks gives a result when each of them does.

- `bind_eq_ok_iff`, `bind_eq_error_iff`: two checks in a row.
- `map_eq_ok_iff`: a check whose result is converted.
- `mapM_eq_ok_iff`: a check of every item of a list.
- `forall₂_congr_mem`: relations that agree on the items of a list relate it to the same lists.
-/

namespace LoanGateway

variable {ε α β : Type}

/-- Two checks in a row pass if both of them pass. -/
theorem bind_eq_ok_iff {first : Except ε α} {next : α → Except ε β} {b : β} :
    (first >>= next) = .ok b ↔ ∃ a, first = .ok a ∧ next a = .ok b := by
  cases first with
  | error e => exact ⟨nofun, nofun⟩
  | ok a => exact ⟨fun h => ⟨a, rfl, h⟩, by rintro ⟨_, ⟨⟩, h⟩; exact h⟩

/-- Two checks in a row fail with the error of the first one, or else with that of the second. -/
theorem bind_eq_error_iff {first : Except ε α} {next : α → Except ε β} {e : ε} :
    (first >>= next) = .error e ↔ first = .error e ∨ ∃ a, first = .ok a ∧ next a = .error e := by
  cases first with
  | error other =>
    refine ⟨fun h => .inl (congrArg _ (Except.error.inj h)), ?_⟩
    rintro (same | ⟨_, ⟨⟩, _⟩)
    exact congrArg _ (Except.error.inj same)
  | ok a =>
    refine ⟨fun h => .inr ⟨a, rfl, h⟩, ?_⟩
    rintro (h | ⟨_, same, h⟩)
    · exact nomatch h
    · obtain rfl := Except.ok.inj same
      exact h

/-- A check passes whatever its result is converted to. -/
theorem map_eq_ok_iff {check : Except ε α} {f : α → β} {b : β} :
    check.map f = .ok b ↔ ∃ a, check = .ok a ∧ f a = b := by
  cases check with
  | error e => exact ⟨nofun, nofun⟩
  | ok a => exact ⟨fun h => ⟨a, rfl, Except.ok.inj h⟩, by rintro ⟨_, ⟨⟩, rfl⟩; rfl⟩

/-- All items pass if each of them does, and their results stand in the order of the items. -/
theorem mapM_eq_ok_iff {check : α → Except ε β} {as : List α} {bs : List β} :
    as.mapM check = .ok bs ↔ List.Forall₂ (fun a b => check a = .ok b) as bs := by
  induction as generalizing bs with
  | nil =>
    rw [List.mapM_nil, List.forall₂_nil_left_iff]
    exact ⟨fun h => (Except.ok.inj h).symm, by rintro rfl; rfl⟩
  | cons a as ih =>
    simp only [List.mapM_cons, bind_eq_ok_iff, ih, List.forall₂_cons_left_iff]
    constructor
    · rintro ⟨b, first, rest, others, same⟩
      exact ⟨b, rest, first, others, (Except.ok.inj same).symm⟩
    · rintro ⟨b, rest, first, others, rfl⟩
      exact ⟨b, first, rest, others, rfl⟩

theorem forall₂_congr_mem {R S : α → β → Prop} {as : List α} {bs : List β}
    (same : ∀ a ∈ as, ∀ b, R a b ↔ S a b) : List.Forall₂ R as bs ↔ List.Forall₂ S as bs := by
  rw [List.forall₂_iff_zip, List.forall₂_iff_zip]
  exact and_congr_right fun _ => ⟨fun all a b mem => (same a (List.of_mem_zip mem).1 b).mp (all mem),
    fun all a b mem => (same a (List.of_mem_zip mem).1 b).mpr (all mem)⟩

end LoanGateway
