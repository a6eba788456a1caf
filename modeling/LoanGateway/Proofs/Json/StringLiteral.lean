import LoanGateway.Json.StringLiteral

/-!
# Written strings are read back

Each character is written as one piece of a literal. The piece stands for that character, and no
piece runs into the next one.

- `IsPieceOf`: a piece that a character is read as from its written form.
- `exists_isPieceOf`: every character has one.
- `scanString_encode`: the literal of a text is read as that text.
-/

namespace LoanGateway.Json

/-- A number that is no surrogate is a character of its own. -/
theorem decodePieces_unit {n : Nat} (other : ¬ (0xD800 ≤ n ∧ n < 0xE000))
    (pieces : List StringPiece) :
    decodePieces (.unit n :: pieces) = (decodePieces pieces).map (Char.ofNat n :: ·) := by
  have lead : ¬ (0xD800 ≤ n ∧ n < 0xDC00) := by omega
  have trail : ¬ (0xDC00 ≤ n ∧ n < 0xE000) := by omega
  cases pieces with
  | nil => simp [decodePieces, other]
  | cons next rest => cases next <;> simp [decodePieces, lead, trail, other]

/-- Reading the written form of a character takes that form away and gives the piece, which stands
for the character. -/
structure IsPieceOf (c : Char) (piece : StringPiece) : Prop where
  scanned : ∀ rest, scanString (encodeChar c ++ rest) =
    (scanString rest).map fun (pieces, rest) => (piece :: pieces, rest)
  decoded : ∀ pieces, decodePieces (piece :: pieces) = (decodePieces pieces).map (c :: ·)

theorem hexValue?_digitChar {n : Nat} (h : n < 16) : hexValue? (Nat.digitChar n) = some n := by
  have all : ∀ n : Fin 16, hexValue? (Nat.digitChar n) = some n.val := by decide
  exact all ⟨n, h⟩

/-- A control character without a short escape is written by its number. -/
theorem isPieceOf_unit {c : Char} (h : c.toNat < 0x20)
    (written : encodeChar c = ['\\', 'u', '0', '0', Nat.digitChar (c.toNat / 16),
      Nat.digitChar (c.toNat % 16)]) : IsPieceOf c (.unit c.toNat) where
  scanned rest := by
    have digits : unitOfDigits? '0' '0' (Nat.digitChar (c.toNat / 16))
        (Nat.digitChar (c.toNat % 16)) = some c.toNat := by
      have zero : hexValue? '0' = some 0 := rfl
      have high : hexValue? (Nat.digitChar (c.toNat / 16)) = some (c.toNat / 16) :=
        hexValue?_digitChar (by omega)
      have low : hexValue? (Nat.digitChar (c.toNat % 16)) = some (c.toNat % 16) :=
        hexValue?_digitChar (by omega)
      simp only [unitOfDigits?, zero, high, low, Option.bind_eq_bind, Option.bind_some,
        Option.pure_def, Option.some.injEq]
      omega
    rw [written]
    show scanString ('\\' :: 'u' :: '0' :: '0' :: _ :: _ :: rest) = _
    rw [scanString, digits]
    cases scanString rest <;> rfl
  decoded pieces := by
    rw [decodePieces_unit (by omega), Char.ofNat_toNat]

/-- A character without an escape is written as it is. -/
theorem isPieceOf_plain {c : Char} (printable : 0x20 ≤ c.toNat) (quote : c ≠ '"')
    (backslash : c ≠ '\\') (written : encodeChar c = [c]) : IsPieceOf c (.plain c) where
  scanned rest := by
    have control : ¬ c.toNat < 0x20 := by omega
    have first : scanString (c :: rest) =
        (scanString rest).bind fun (pieces, rest) => some (.plain c :: pieces, rest) := by
      simp [scanString, backslash, control]
    rw [written]
    show scanString (c :: rest) = _
    rw [first]
    cases scanString rest <;> rfl
  decoded pieces := rfl

/-- A character with a short escape. -/
theorem isPieceOf_short {c e : Char} (escape : shortEscape? e = some c) (other : e ≠ 'u')
    (written : encodeChar c = ['\\', e]) : IsPieceOf c (.plain c) where
  scanned rest := by
    have first : scanString ('\\' :: e :: rest) =
        (scanString rest).bind fun (pieces, rest) => some (.plain c :: pieces, rest) := by
      simp [scanString, other, escape]
    rw [written]
    show scanString ('\\' :: e :: rest) = _
    rw [first]
    cases scanString rest <;> rfl
  decoded pieces := rfl

theorem exists_isPieceOf (c : Char) : ∃ piece, IsPieceOf c piece := by
  have written : encodeChar c = encodeChar c := rfl
  conv at written => rhs; unfold encodeChar
  split at written
  · exact ⟨_, isPieceOf_short (e := '"') rfl (by decide) written⟩
  · exact ⟨_, isPieceOf_short (e := '\\') rfl (by decide) written⟩
  · exact ⟨_, isPieceOf_short (e := 'b') rfl (by decide) written⟩
  · exact ⟨_, isPieceOf_short (e := 'f') rfl (by decide) written⟩
  · exact ⟨_, isPieceOf_short (e := 'n') rfl (by decide) written⟩
  · exact ⟨_, isPieceOf_short (e := 'r') rfl (by decide) written⟩
  · exact ⟨_, isPieceOf_short (e := 't') rfl (by decide) written⟩
  · rename_i quote backslash _ _ _ _ _
    split at written
    · rename_i control
      exact ⟨_, isPieceOf_unit control written⟩
    · rename_i printable
      exact ⟨_, isPieceOf_plain (by omega) quote backslash written⟩

/-- The literal of a text is read as the text, whatever follows it. -/
theorem scanString_encode (s rest : List Char) :
    ∃ pieces, scanString (s.flatMap encodeChar ++ '"' :: rest) = some (pieces, rest) ∧
      decodePieces pieces = some s := by
  induction s with
  | nil => exact ⟨[], rfl, rfl⟩
  | cons c s ih =>
    obtain ⟨pieces, scanned, decoded⟩ := ih
    obtain ⟨piece, is⟩ := exists_isPieceOf c
    refine ⟨piece :: pieces, ?_, ?_⟩
    · rw [List.flatMap_cons, List.append_assoc, is.scanned, scanned]
      rfl
    · rw [is.decoded, decoded]
      rfl

end LoanGateway.Json
