import LoanGateway.Url.Parser

/-!
# Encoded characters

- `byte_forall`: what holds of all bytes is checked for each.
- `decodeUtf8?_utf8`: a text is read back from its bytes.
- `percentEncode_eq_self`, `mem_percentEncode`: texts that are encoded already, and the characters
  of an encoded text.
-/

namespace LoanGateway.Url

/-- What holds of all bytes can be checked for each of them. -/
theorem byte_forall {P : UInt8 → Prop} (all : ∀ n : Fin 256, P (UInt8.ofNat n)) (b : UInt8) :
    P b := by
  have this := all ⟨b.toNat, b.toNat_lt⟩
  rwa [UInt8.ofNat_toNat] at this

/-! ## Bytes -/

/-- The bytes of a text. -/
def utf8 (s : List Char) : List UInt8 := s.flatMap String.utf8EncodeChar

/-- The characters of the bytes of a text are the text. -/
theorem decodeUtf8?_utf8 (s : List Char) : decodeUtf8? (utf8 s) = some s := by
  have valid : (utf8 s).toByteArray.IsValidUTF8 := ⟨s, rfl⟩
  rw [decodeUtf8?, String.fromUTF8?, dif_pos valid]
  have same : String.fromUTF8 (utf8 s).toByteArray valid = String.ofList s := by
    rw [← String.toByteArray_inj, String.toByteArray_ofList]
    rfl
  rw [same, Option.map_some, String.toList_ofList]

/-! ## Encoded texts -/

theorem upperDigit_spec {n : Nat} (lt : n < 16) :
    upperDigit n ≠ '+' ∧ digitValue? (upperDigit n) = some n := by
  have all : ∀ n : Fin 16, upperDigit n ≠ '+' ∧ digitValue? (upperDigit n) = some n.val := by
    decide
  exact all ⟨n, lt⟩

/-- A text without characters of the set is its own encoded form. -/
theorem percentEncode_eq_self {set : EncodeSet} {s : List Char} (none : ∀ c ∈ s, set c = false) :
    percentEncode set s = s := by
  induction s with
  | nil => rfl
  | cons c rest ih =>
    obtain ⟨first, others⟩ := List.forall_mem_cons.mp none
    rw [percentEncode, List.flatMap_cons, ← percentEncode, ih others, if_neg (by simp [first])]
    rfl

/-- An encoded text holds the characters of the text that need no encoding, and those of encoded
bytes. -/
theorem mem_percentEncode {set : EncodeSet} {s : List Char} {c : Char}
    (mem : c ∈ percentEncode set s) :
    (c ∈ s ∧ set c = false) ∨ ∃ b : UInt8, c ∈ percentByte b := by
  obtain ⟨d, inside, mem⟩ := List.mem_flatMap.mp mem
  by_cases taken : set d = true
  · rw [if_pos taken] at mem
    obtain ⟨b, _, mem⟩ := List.mem_flatMap.mp mem
    exact .inr ⟨b, mem⟩
  · rw [if_neg taken] at mem
    obtain rfl := List.mem_singleton.mp mem
    exact .inl ⟨inside, (Bool.not_eq_true _).mp taken⟩

end LoanGateway.Url
