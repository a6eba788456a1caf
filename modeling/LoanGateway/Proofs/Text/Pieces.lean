/-!
# Pieces of texts

Texts are cut into pieces at marks: header values at semicolons, paths at slashes.

- `mem_of_mem_splitOn`: the pieces hold what the text holds, without its marks.
-/

namespace LoanGateway.Text

/-- The pieces of a list hold what the list holds, without the marks between them. -/
theorem mem_of_mem_splitOn {a : Char} {s p : List Char} (piece : p ∈ s.splitOn a) {c : Char}
    (mem : c ∈ p) : c ∈ s ∧ c ≠ a := by
  -- a mark starts a new piece; any other character goes in front of the first piece of the rest
  induction s generalizing p with
  | nil =>
    rw [List.splitOn_nil] at piece
    obtain rfl := List.mem_singleton.mp piece
    exact absurd mem List.not_mem_nil
  | cons d rest ih =>
    rw [List.splitOn_cons_eq_if_modifyHead] at piece
    have later {p : List Char} (piece : p ∈ rest.splitOn a) (mem : c ∈ p) : c ∈ d :: rest ∧ c ≠ a :=
      ⟨List.mem_cons_of_mem d (ih piece mem).1, (ih piece mem).2⟩
    split at piece
    · rcases List.mem_cons.mp piece with rfl | piece
      · exact absurd mem List.not_mem_nil
      · exact later piece mem
    · next not_mark =>
      cases split : rest.splitOn a with
      | nil => exact absurd split (List.splitOn_ne_nil a rest)
      | cons first others =>
        rw [split, List.modifyHead_cons] at piece
        rw [split] at later
        rcases List.mem_cons.mp piece with rfl | piece
        · rcases List.mem_cons.mp mem with rfl | mem
          · exact ⟨List.mem_cons_self, by simpa using not_mark⟩
          · exact later List.mem_cons_self mem
        · exact later (List.mem_cons_of_mem first piece) mem

end LoanGateway.Text
