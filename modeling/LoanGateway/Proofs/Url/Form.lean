import LoanGateway.Proofs.Url.Percent
import LoanGateway.Url.Endpoint

/-!
# Queries as forms

A query is read as a form: pairs between ampersands, each with a name and a value around the first
equals sign, in which a plus sign stands for a space.

- `formText?`: the text of a name or a value.
- `pairs`: the pairs of a query.
- `formText?_formEncode`: an encoded text is read as that text.
- `pairs_addPair`: an address with another pair has the pairs that it had and that one.
-/

namespace LoanGateway.Url

/-! ## Names and values -/

/-- A plus sign stands for a space. -/
def plusToSpace (c : Char) : Char := if c = '+' then ' ' else c

/-- The bytes of a name or a value. -/
def formDecode (s : List Char) : List UInt8 := percentDecode (s.map plusToSpace)

/-- The text of a name or a value. -/
def formText? (s : List Char) : Option (List Char) := decodeUtf8? (formDecode s)

/-- The forms that are read as a byte: a character that stands for itself, a plus sign, or the
percent sign and two digits. -/
inductive IsFormOf (b : UInt8) : List Char → Prop
  | plain (c : Char) (not_plus : c ≠ '+') (not_percent : c ≠ '%')
      (bytes : String.utf8EncodeChar c = [b]) : IsFormOf b [c]
  | space (bytes : String.utf8EncodeChar ' ' = [b]) : IsFormOf b ['+']
  | digits (high low : Char) (high_not_plus : high ≠ '+') (low_not_plus : low ≠ '+')
      (byte : encodedByte? high low = some b) : IsFormOf b ['%', high, low]

theorem isFormOf_percentByte (b : UInt8) : IsFormOf b (percentByte b) := by
  obtain ⟨high_not_plus, high⟩ := upperDigit_spec (n := b.toNat / 16)
    (Nat.div_lt_of_lt_mul b.toNat_lt)
  obtain ⟨low_not_plus, low⟩ := upperDigit_spec (n := b.toNat % 16) (Nat.mod_lt _ (by decide))
  refine .digits _ _ high_not_plus low_not_plus ?_
  rw [encodedByte?, high, low]
  show some (UInt8.ofNat (b.toNat / 16 * 16 + b.toNat % 16)) = some b
  rw [Nat.div_add_mod', UInt8.ofNat_toNat]

theorem isFormOf_formByte (b : UInt8) : IsFormOf b (formByte b) := by
  -- a byte that stands for itself is one of ASCII, so its character takes no other byte
  have plain : ∀ b : UInt8,
      ((Char.ofNat b.toNat).isAlphanum || Char.ofNat b.toNat ∈ ['*', '-', '.', '_']) = true →
        Char.ofNat b.toNat ≠ '+' ∧ Char.ofNat b.toNat ≠ '%' ∧
          String.utf8EncodeChar (Char.ofNat b.toNat) = [b] :=
    byte_forall (by decide +kernel)
  have space : ∀ b : UInt8, Char.ofNat b.toNat = ' ' → String.utf8EncodeChar ' ' = [b] :=
    byte_forall (by decide +kernel)
  rw [formByte]
  split
  · next is =>
    obtain ⟨not_plus, not_percent, bytes⟩ := plain b is
    exact .plain _ not_plus not_percent bytes
  split
  · next is => exact .space (space b is)
  · exact isFormOf_percentByte b

theorem plusToSpace_of_ne {c : Char} (h : c ≠ '+') : plusToSpace c = c := if_neg h

/-- The form of a byte is read as that byte. -/
theorem formDecode_append {b : UInt8} {s rest : List Char} (form : IsFormOf b s) :
    formDecode (s ++ rest) = b :: formDecode rest := by
  rw [formDecode, List.map_append]
  cases form with
  | plain c not_plus not_percent bytes =>
    rw [List.map_singleton, plusToSpace_of_ne not_plus, List.singleton_append, percentDecode, bytes]
    · rfl
    · rintro _ _ _ rfl
      exact absurd rfl not_percent
  | space bytes =>
    show String.utf8EncodeChar ' ' ++ percentDecode (rest.map plusToSpace) = _
    rw [bytes]
    rfl
  | digits high low high_not_plus low_not_plus byte =>
    show percentDecode ('%' :: plusToSpace high :: plusToSpace low :: rest.map plusToSpace) = _
    rw [plusToSpace_of_ne high_not_plus, plusToSpace_of_ne low_not_plus, percentDecode, byte]
    rfl

/-- A text is read back from its form. -/
theorem formText?_formEncode (s : List Char) : formText? (formEncode s) = some s := by
  have bytes (bs : List UInt8) : formDecode (bs.flatMap formByte) = bs := by
    induction bs with
    | nil => rfl
    | cons b bs ih => rw [List.flatMap_cons, formDecode_append (isFormOf_formByte b), ih]
  rw [formText?, formEncode, bytes]
  exact decodeUtf8?_utf8 s

/-- The marks of a query stand nowhere in the form of a text. -/
theorem ne_of_mem_formEncode {c : Char} {s : List Char} (mem : c ∈ formEncode s) :
    c ≠ '&' ∧ c ≠ '=' := by
  have all : ∀ b : UInt8, (formByte b).all (fun c => c != '&' && c != '=') = true :=
    byte_forall (by decide +kernel)
  obtain ⟨b, _, inside⟩ := List.mem_flatMap.mp mem
  simpa using List.all_eq_true.mp (all b) c inside

/-! ## Pairs -/

/-- A name and a value around the first equals sign. -/
def pairOf (s : List Char) : Option (List Char) × Option (List Char) :=
  (formText? (s.takeWhile (· ≠ '=')), formText? ((s.dropWhile (· ≠ '=')).drop 1))

/-- The pairs of a query, as they are read. Nothing between two ampersands is no pair. -/
def pairs (query : List Char) : List (Option (List Char) × Option (List Char)) :=
  ((query.splitOn '&').filter (!·.isEmpty)).map pairOf

theorem pairs_append_cons (front back : List Char) :
    pairs (front ++ '&' :: back) = pairs front ++ pairs back := by
  rw [pairs, List.splitOn_append_cons_self, List.filter_append, List.map_append]
  rfl

/-- The form of a pair is read as the pair. -/
theorem pairs_formEncode (name value : List Char) :
    pairs (formEncode name ++ '=' :: formEncode value) = [(some name, some value)] := by
  have no_equals : ∀ c ∈ formEncode name, decide (c ≠ '=') = true :=
    fun c mem => decide_eq_true (ne_of_mem_formEncode mem).2
  have no_ampersand : '&' ∉ formEncode name ++ '=' :: formEncode value := by
    intro mem
    rcases List.mem_append.mp mem with mem | mem
    · exact (ne_of_mem_formEncode mem).1 rfl
    rcases List.mem_cons.mp mem with same | mem
    · exact absurd same (by decide)
    · exact (ne_of_mem_formEncode mem).1 rfl
  rw [pairs, List.splitOn_eq_singleton no_ampersand, List.filter_cons_of_pos (by simp)]
  show [pairOf _] = _
  rw [pairOf, List.takeWhile_append_of_pos no_equals, List.dropWhile_append_of_pos no_equals]
  simp [formText?_formEncode]

/-- An address with another pair has the pairs that it had and that one. -/
theorem pairs_addPair (u : Url) (name value : List Char) :
    pairs ((u.addPair name value).query.getD []) =
      pairs (u.query.getD []) ++ [(some name, some value)] := by
  rw [addPair]
  match u.query with
  | none => exact pairs_formEncode name value
  | some [] => exact pairs_formEncode name value
  | some (c :: q) =>
    show pairs ((c :: q) ++ '&' :: _) = _
    rw [pairs_append_cons, pairs_formEncode]
    rfl

end LoanGateway.Url
