import LoanGateway.Proofs.Json.Grammar
import LoanGateway.Proofs.Json.StringLiteral

/-!
# What strings stand for

A string is read piece by piece, and escapes of numbers pair up only afterwards. It comes to the same
as reading it character by character.

- `decodePieces_pair`: two surrogates stand for one character.
- `spellsString_some_iff`: the strings that stand for a text.
- `IsQuoted`, `isText_string_iff`: the same as whole texts, with blanks around them.
-/

namespace LoanGateway.Json

/-! ## Numbers of characters -/

theorem hexValue?_lt {c : Char} {n : Nat} (h : hexValue? c = some n) : n < 16 := by
  unfold hexValue? at h
  simp only [Bool.and_eq_true, decide_eq_true_eq] at h
  split at h
  · cases h
    omega
  · split at h
    · cases h
      omega
    · split at h
      · cases h
        omega
      · cases h

/-- Four digits are the number of a code unit. -/
theorem unitOfDigits?_lt {a b c d : Char} {n : Nat} (h : unitOfDigits? a b c d = some n) :
    n < 0x10000 := by
  unfold unitOfDigits? at h
  obtain ⟨i, ha, h⟩ := Option.bind_eq_some_iff.mp h
  obtain ⟨j, hb, h⟩ := Option.bind_eq_some_iff.mp h
  obtain ⟨k, hc, h⟩ := Option.bind_eq_some_iff.mp h
  obtain ⟨l, hd, h⟩ := Option.bind_eq_some_iff.mp h
  have first := hexValue?_lt ha
  have second := hexValue?_lt hb
  have third := hexValue?_lt hc
  have fourth := hexValue?_lt hd
  cases h
  omega

/-- No character has the number of a surrogate. -/
theorem not_surrogate_toNat (c : Char) : ¬ (0xD800 ≤ c.toNat ∧ c.toNat < 0xE000) := by
  have valid : c.toNat < 0xD800 ∨ 0xDFFF < c.toNat ∧ c.toNat < 0x110000 := c.valid
  omega

/-- A number in the range of characters that is no surrogate is the number of a character. -/
theorem toNat_ofNat {n : Nat} (range : n < 0x110000) (other : ¬ (0xD800 ≤ n ∧ n < 0xE000)) :
    (Char.ofNat n).toNat = n := by
  have valid : n.isValidChar := by
    show n < 0xD800 ∨ 0xDFFF < n ∧ n < 0x110000
    omega
  rw [Char.ofNat, dif_pos valid]
  rfl

/-- The number of the character of two surrogates. -/
theorem toNat_pairedChar {lead trail : Nat} (isLead : 0xD800 ≤ lead ∧ lead < 0xDC00)
    (isTrail : 0xDC00 ≤ trail ∧ trail < 0xE000) :
    (pairedChar lead trail).toNat =
      0x10000 + (lead - 0xD800) * 0x400 + (trail - 0xDC00) :=
  toNat_ofNat (by omega) (by omega)

/-- The two surrogates of a character stand for it. -/
theorem decodePieces_pair {c : Char} (large : 0x10000 ≤ c.toNat) (pieces : List StringPiece) :
    decodePieces (.unit (0xD800 + (c.toNat - 0x10000) / 0x400) ::
        .unit (0xDC00 + (c.toNat - 0x10000) % 0x400) :: pieces) =
      (decodePieces pieces).map (c :: ·) := by
  have range : c.toNat < 0x110000 := by
    have valid : c.toNat < 0xD800 ∨ 0xDFFF < c.toNat ∧ c.toNat < 0x110000 := c.valid
    omega
  generalize isLead : 0xD800 + (c.toNat - 0x10000) / 0x400 = lead
  generalize isTrail : 0xDC00 + (c.toNat - 0x10000) % 0x400 = trail
  have leads : 0xD800 ≤ lead ∧ lead < 0xDC00 := by omega
  have trails : 0xDC00 ≤ trail ∧ trail < 0xE000 := by omega
  have same : pairedChar lead trail = c := by
    rw [← Char.toNat_inj, toNat_pairedChar leads trails]
    omega
  simp [decodePieces, leads, trails, same]

/-! ## Strings -/

/-- What denotes a text is spelled, and the pieces stand for the text. -/
theorem exists_pieces_of_denotes {s text : List Char} (denotes : Denotes s text) :
    ∃ pieces, SpellsPieces pieces s ∧ decodePieces pieces = some text := by
  induction denotes with
  | nothing => exact ⟨[], .nothing, rfl⟩
  | plain printable quote backslash _ ih =>
    obtain ⟨pieces, spelled, decoded⟩ := ih
    exact ⟨_, .plain printable quote backslash spelled, congrArg _ decoded⟩
  | escape escapes _ ih =>
    obtain ⟨pieces, spelled, decoded⟩ := ih
    exact ⟨_, .escape escapes spelled, congrArg _ decoded⟩
  | unit digits _ ih =>
    obtain ⟨pieces, spelled, decoded⟩ := ih
    refine ⟨_, .unit digits spelled, ?_⟩
    rw [decodePieces_unit (not_surrogate_toNat _), decoded, Char.ofNat_toNat]
    rfl
  | pair large lead trail _ ih =>
    obtain ⟨pieces, spelled, decoded⟩ := ih
    refine ⟨_, .unit lead (.unit trail spelled), ?_⟩
    rw [decodePieces_pair large, decoded]
    rfl

/-- A code unit that is no surrogate denotes the character of its number. -/
theorem denotes_unit {a b c d : Char} {n : Nat} {s text : List Char}
    (digits : unitOfDigits? a b c d = some n) (other : ¬ (0xD800 ≤ n ∧ n < 0xE000))
    (rest : Denotes s text) :
    Denotes ('\\' :: 'u' :: a :: b :: c :: d :: s) (Char.ofNat n :: text) := by
  have small := unitOfDigits?_lt digits
  exact .unit (by rw [toNat_ofNat (by omega) other, digits]) rest

/-- Two code units that pair up denote their character. -/
theorem denotes_pair {a₁ a₂ a₃ a₄ b₁ b₂ b₃ b₄ : Char} {lead trail : Nat} {s text : List Char}
    (leads : unitOfDigits? a₁ a₂ a₃ a₄ = some lead) (isLead : 0xD800 ≤ lead ∧ lead < 0xDC00)
    (trails : unitOfDigits? b₁ b₂ b₃ b₄ = some trail) (isTrail : 0xDC00 ≤ trail ∧ trail < 0xE000)
    (rest : Denotes s text) :
    Denotes ('\\' :: 'u' :: a₁ :: a₂ :: a₃ :: a₄ :: '\\' :: 'u' :: b₁ :: b₂ :: b₃ :: b₄ :: s)
      (pairedChar lead trail :: text) := by
  have number := toNat_pairedChar isLead isTrail
  refine .pair (by omega) ?_ ?_ rest
  · rw [leads, number]
    exact congrArg some (by omega)
  · rw [trails, number]
    exact congrArg some (by omega)

/-- What is spelled denotes the text that its pieces stand for. -/
theorem denotes_of_pieces {pieces : List StringPiece} {s text : List Char}
    (spelled : SpellsPieces pieces s) (decoded : decodePieces pieces = some text) :
    Denotes s text := by
  -- by how the pieces are decoded, which takes two surrogates at once where they pair up
  fun_induction decodePieces pieces generalizing s text with
  | case1 =>
    cases decoded
    cases spelled
    exact .nothing
  | case2 c rest ih =>
    obtain ⟨_, inner, rfl⟩ := Option.map_eq_some_iff.mp decoded
    cases spelled with
    | plain printable quote backslash spelled =>
      exact .plain printable quote backslash (ih spelled inner)
    | escape escapes spelled => exact .escape escapes (ih spelled inner)
  | case3 lead trail rest isLead isTrail ih =>
    simp only [Bool.and_eq_true, decide_eq_true_eq] at isLead isTrail
    obtain ⟨_, inner, rfl⟩ := Option.map_eq_some_iff.mp decoded
    cases spelled with
    | unit leads spelled =>
      cases spelled with
      | unit trails spelled => exact denotes_pair leads isLead trails isTrail (ih spelled inner)
  | case4 => cases decoded
  | case5 => cases decoded
  | case6 lead trail rest notLead notTrail ih =>
    simp only [Bool.and_eq_true, decide_eq_true_eq] at notLead notTrail
    obtain ⟨_, inner, rfl⟩ := Option.map_eq_some_iff.mp decoded
    cases spelled with
    | unit digits spelled => exact denotes_unit digits (by omega) (ih spelled inner)
  | case7 => cases decoded
  | case8 n rest _ other ih =>
    simp only [Bool.and_eq_true, decide_eq_true_eq] at other
    obtain ⟨_, inner, rfl⟩ := Option.map_eq_some_iff.mp decoded
    cases spelled with
    | unit digits spelled => exact denotes_unit digits other (ih spelled inner)

/-- The strings of a text are what denotes it, between quotes. -/
theorem spellsString_some_iff {text : String} {s : List Char} :
    SpellsString (some text) s ↔
      ∃ inside, Denotes inside text.toList ∧ s = '"' :: (inside ++ ['"']) := by
  constructor
  · intro h
    generalize read : some text = value at h
    cases h with
    | quoted inside =>
      obtain ⟨chars, decoded, rfl⟩ := Option.map_eq_some_iff.mp read.symm
      rw [String.toList_ofList]
      exact ⟨_, denotes_of_pieces inside decoded, rfl⟩
  · rintro ⟨inside, denotes, rfl⟩
    obtain ⟨pieces, spelled, decoded⟩ := exists_pieces_of_denotes denotes
    have quoted := SpellsString.quoted spelled
    rwa [decoded, Option.map_some, String.ofList_toList] at quoted

/-! ## Whole texts -/

/-- A string that stands for a text, with blanks around it. -/
inductive IsQuoted (text : String) : String → Prop
  | between {before inside after : List Char} (before_are : IsSpaces before)
      (denotes : Denotes inside text.toList) (after_are : IsSpaces after) :
      IsQuoted text (String.ofList (before ++ ('"' :: (inside ++ ['"']) ++ after)))

/-- The texts of a string are the quoted ones. -/
theorem isText_string_iff {text quoted : String} :
    IsText (.string (some text)) quoted ↔ IsQuoted text quoted := by
  constructor
  · intro is
    unfold IsText at is
    generalize whole : quoted.toList = s at is
    cases is with
    | padded before_are value after_are =>
      cases value with
      | string string_is =>
        obtain ⟨inside, denotes, rfl⟩ := spellsString_some_iff.mp string_is
        rw [← String.ofList_toList (s := quoted), whole]
        exact .between before_are denotes after_are
  · intro is
    cases is with
    | between before_are denotes after_are =>
      have string_is := spellsString_some_iff.mpr ⟨_, denotes, rfl⟩
      unfold IsText
      rw [String.toList_ofList]
      exact .padded before_are (.string string_is) after_are

end LoanGateway.Json
