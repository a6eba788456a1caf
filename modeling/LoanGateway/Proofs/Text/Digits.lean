import Mathlib.Data.List.Basic

/-!
# Decimal digits

What readers of numbers rely on when they meet the digits that a number is written with.

- `startsWithDigit`: whether a text goes on with a digit.
- `takeWhile_digits`, `dropWhile_digits`: digits end where no digit follows.
- `le_ofDigitChars`: more digits never make a number smaller.
- `head?_toDigits_ne`: no number but zero is written with a zero in front.
-/

namespace LoanGateway.Text

/-- Whether a text goes on with a digit. -/
def startsWithDigit (s : List Char) : Bool := s.head?.any Char.isDigit

variable {digits rest : List Char}

theorem takeWhile_digits (all : ∀ c ∈ digits, c.isDigit = true)
    (ends : startsWithDigit rest = false) :
    (digits ++ rest).takeWhile Char.isDigit = digits := by
  have nothing : rest.takeWhile Char.isDigit = [] := by
    cases rest with
    | nil => rfl
    | cons c rest => exact List.takeWhile_cons_of_neg (Bool.eq_false_iff.mp ends)
  rw [List.takeWhile_append_of_pos all, nothing, List.append_nil]

theorem dropWhile_digits (all : ∀ c ∈ digits, c.isDigit = true)
    (ends : startsWithDigit rest = false) :
    (digits ++ rest).dropWhile Char.isDigit = rest := by
  rw [List.dropWhile_append_of_pos all]
  cases rest with
  | nil => rfl
  | cons c rest => exact List.dropWhile_cons_of_neg (Bool.eq_false_iff.mp ends)

/-- More digits never make a number smaller. -/
theorem le_ofDigitChars (n : Nat) (digits : List Char) : n ≤ Nat.ofDigitChars 10 digits n := by
  induction digits generalizing n with
  | nil => exact Nat.le_refl n
  | cons c digits ih =>
    rw [Nat.ofDigitChars_cons]
    exact Nat.le_trans (by omega) (ih _)

/-- No number but zero is written with a zero in front. -/
theorem head?_toDigits_ne {n : Nat} (pos : 0 < n) : (Nat.toDigits 10 n).head? ≠ some '0' := by
  induction n using Nat.strongRecOn with
  | ind n ih =>
    rw [Nat.toDigits_eq_if (by omega)]
    split
    · rename_i small
      have all : ∀ n : Fin 10, 0 < n.val → [Nat.digitChar n].head? ≠ some '0' := by decide
      exact all ⟨n, small⟩ pos
    · have first := ih (n / 10) (by omega) (by omega)
      rw [List.head?_append]
      cases head : (Nat.toDigits 10 (n / 10)).head? with
      | none => exact absurd (List.head?_eq_none_iff.mp head) Nat.toDigits_ne_nil
      | some c =>
        rw [head] at first
        exact first

theorem isDigit_of_mem_toDigits {n : Nat} : ∀ c ∈ Nat.toDigits 10 n, c.isDigit = true :=
  fun _ mem => Nat.isDigit_of_mem_toDigits (by omega) (by omega) mem

end LoanGateway.Text
