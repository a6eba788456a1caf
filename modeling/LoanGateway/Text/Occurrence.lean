/-!
# Occurrences

- `Text.occursIn`: whether a text holds another one, anywhere and in one piece.
- `Text.occursIn_iff`: the other one is then a part between two further parts.
-/

namespace LoanGateway.Text

/-- Whether `piece` stands somewhere in a text. -/
def occursIn (piece : List Char) : List Char → Bool
  | [] => piece.isEmpty
  | c :: rest => piece.isPrefixOf (c :: rest) || occursIn piece rest

theorem occursIn_iff {piece s : List Char} : occursIn piece s = true ↔ piece <:+: s := by
  induction s with
  | nil => simp [occursIn]
  | cons c rest ih =>
    rw [occursIn, Bool.or_eq_true, List.isPrefixOf_iff_prefix, ih, List.infix_cons_iff]

end LoanGateway.Text
