import LoanGateway.Proofs.Backend.Meaning
import LoanGateway.Proofs.Json.Escapes
import LoanGateway.Proofs.Json.Limits

/-!
# Bodies and the grammar

What a body stands for is decided by the grammar of JSON texts, as far as the reader goes. A body that
is beyond the reader is a plain text, like one that is no JSON text at all.

- `Body.IsFrom`: what a raw body stands for.
- `Body.read_eq_iff_isFrom`: a body is read as what it stands for, and as nothing else.
- `Body.read_of_isQuoted`: a quoted text is read as the text.
- `Body.value?`: the value of a body with a structure.
-/

namespace LoanGateway

open Json

namespace Body

/-- What a raw body stands for. -/
inductive IsFrom (raw : String) : Body → Prop
  | null (is : IsText .null raw) : IsFrom raw .null
  | quoted {s : String} (is : IsText (.string (some s)) raw) : IsFrom raw (.text s)
  | structured {v : Json} (is : IsText (.ofJson v) raw) (fits : v.depth ≤ nestingLimit)
      (not_null : v ≠ .null) (not_text : ∀ s, v ≠ .string s) : IsFrom raw (.structured v.canonical)
  /-- The body is no JSON text, or one that is too much for the reader. -/
  | plain (unread : ∀ d, IsText d raw → d.Exceeds nestingLimit) : IsFrom raw (.text raw)

/-- A body is read as what it stands for. -/
theorem isFrom_read (raw : String) : IsFrom raw (read raw) := by
  rw [read]
  cases value : parse? raw with
  | none => exact .plain (parse?_eq_none_iff.mp value)
  | some v =>
    obtain ⟨is, fits⟩ := parse?_eq_some_iff_isText.mp value
    cases v with
    | null => exact .null is
    | string s => exact .quoted is
    | bool | number | array | object => exact .structured is fits (by simp) (by simp)

/-- A body that has a value is read as it. -/
theorem read_of_isText {raw : String} {v : Json} (is : IsText (.ofJson v) raw)
    (fits : v.depth ≤ nestingLimit) : read raw = ofJson v.canonical := by
  rw [read, parse?_eq_some_iff_isText.mpr ⟨is, fits⟩]

/-- A body is read as nothing else. -/
theorem read_eq_iff_isFrom {raw : String} {body : Body} : read raw = body ↔ IsFrom raw body := by
  constructor
  · rintro rfl
    exact isFrom_read raw
  · intro h
    cases h with
    | null is => exact read_of_isText (v := .null) is (Nat.zero_le _)
    | quoted is => exact read_of_isText (v := .string _) is (Nat.zero_le _)
    | @structured v is fits not_null not_text =>
      rw [read_of_isText is fits]
      cases v with
      | null => exact absurd rfl not_null
      | string s => exact absurd rfl (not_text s)
      | bool | number | array | object => rfl
    | plain unread => rw [read, parse?_eq_none_iff.mpr unread]

/-- A body stands for one thing. -/
theorem IsFrom.unique {raw : String} {body body' : Body} (is : IsFrom raw body)
    (is' : IsFrom raw body') : body = body' :=
  (read_eq_iff_isFrom.mpr is).symm.trans (read_eq_iff_isFrom.mpr is')

/-- A quoted text is read as the text. -/
theorem read_of_isQuoted {s raw : String} (quoted : IsQuoted s raw) : read raw = text s :=
  read_eq_iff_isFrom.mpr (.quoted (isText_string_iff.mpr quoted))

/-- A text that is no JSON text is read as it is. -/
theorem read_of_unread {raw : String} (unread : parse? raw = none) : read raw = text raw := by
  rw [read, unread]

/-- The value of a body with a structure. -/
def value? : Body → Option Json
  | structured v => some v
  | _ => none

theorem value?_eq_some_iff {body : Body} {v : Json} : body.value? = some v ↔ body = structured v := by
  cases body with
  | structured w => exact ⟨fun same => congrArg _ (Option.some.inj same), fun same => by rw [same]; rfl⟩
  | null | text => exact ⟨nofun, nofun⟩

end Body

end LoanGateway
