/-!
# Blanks

Blanks separate the parts of cookies, numbers and tokens that other programs write, so leading and
trailing ones never belong to a value.

- `isBlank`: the characters of the White_Space property.
- `trim`: a text without its leading and trailing blanks.
- `isBlankText`: a text of blanks only, which counts as missing wherever a value is required.
- `isBlank_of_head?_trim`, `isBlank_of_getLast?_trim`: a trimmed text has no blanks at its ends.
- `trim_eq_self`: a text without blanks at its ends is trimmed already.
-/

namespace LoanGateway.Text

/-- The characters of the White_Space property. -/
def isBlank (c : Char) : Bool :=
  let n := c.toNat
  (0x09 ≤ n && n ≤ 0x0D) || n == 0x20 || n == 0x85 || n == 0xA0 || n == 0x1680 ||
    (0x2000 ≤ n && n ≤ 0x200A) || n == 0x2028 || n == 0x2029 || n == 0x202F || n == 0x205F ||
    n == 0x3000

/-- Drops the leading blanks. -/
def trimStart (s : List Char) : List Char := s.dropWhile isBlank

/-- Drops the trailing blanks. -/
def trimEnd (s : List Char) : List Char := (s.reverse.dropWhile isBlank).reverse

/-- Drops the leading and the trailing blanks. -/
def trim (s : List Char) : List Char := trimEnd (trimStart s)

/-- A text that holds nothing but blanks; the empty text is one. -/
def isBlankText (s : String) : Bool := s.toList.all isBlank

/-- `trim` on strings. -/
def trimString (s : String) : String := String.ofList (trim s.toList)

/-- What is left of a text begins with no blank. -/
theorem isBlank_of_head?_dropWhile {s : List Char} {c : Char}
    (h : (s.dropWhile isBlank).head? = some c) : isBlank c = false := by
  have first := List.head?_dropWhile_not isBlank s
  rw [h] at first
  exact first

/-- A trimmed text begins with no blank. -/
theorem isBlank_of_head?_trim {s : List Char} {c : Char} (h : (trim s).head? = some c) :
    isBlank c = false := by
  -- what trimming at the end leaves is the front of the text
  have front : trim s <+: trimStart s := by
    rw [trim, trimEnd, ← List.reverse_suffix, List.reverse_reverse]
    exact List.dropWhile_suffix isBlank
  obtain ⟨rest, whole⟩ := front
  refine isBlank_of_head?_dropWhile (s := s) ?_
  show (trimStart s).head? = some c
  rw [← whole, List.head?_append, h]
  rfl

/-- A trimmed text ends with no blank. -/
theorem isBlank_of_getLast?_trim {s : List Char} {c : Char} (h : (trim s).getLast? = some c) :
    isBlank c = false := by
  rw [trim, trimEnd, List.getLast?_reverse] at h
  exact isBlank_of_head?_dropWhile h

theorem dropWhile_eq_self {s : List Char} (begins : ∀ c, s.head? = some c → isBlank c = false) :
    s.dropWhile isBlank = s := by
  cases s with
  | nil => rfl
  | cons c r => exact List.dropWhile_cons_of_neg (by rw [begins c rfl]; nofun)

/-- A text without blanks at its ends is trimmed already. -/
theorem trim_eq_self {s : List Char} (begins : ∀ c, s.head? = some c → isBlank c = false)
    (ends : ∀ c, s.getLast? = some c → isBlank c = false) : trim s = s := by
  have last (c : Char) (first : s.reverse.head? = some c) : isBlank c = false := by
    rw [List.head?_reverse] at first
    exact ends c first
  rw [trim, trimEnd, trimStart, dropWhile_eq_self begins, dropWhile_eq_self last,
    List.reverse_reverse]

/-- Trimming brings in no characters. -/
theorem mem_of_mem_trim {s : List Char} {c : Char} (mem : c ∈ trim s) : c ∈ s := by
  have kept : c ∈ trimStart s :=
    List.mem_reverse.mp ((List.dropWhile_sublist isBlank).subset (List.mem_reverse.mp mem))
  exact (List.dropWhile_sublist isBlank).subset kept

end LoanGateway.Text
