import LoanGateway.Calendar.DateText
import LoanGateway.Proofs.Text.Digits
import Mathlib.Tactic.ByContra

/-!
# Written dates are read back

Of a written date only the first ten characters are read. They are the whole date exactly if its
year has four digits and no sign. Otherwise the day loses a digit, or it is missing. A day that loses a
digit may still be a day of its month, and then it is read in place of the one that was written.

- `Date.readNumber_digits`: the digits of a number are read as the number.
- `Date.parse_text`: a date whose year has four digits and no sign.
- `Date.parse_text_of_negative`, `Date.parse_text_of_long`: the other dates.
- `Date.parse_text_iff`: which dates are read back.
- `Date.LosesDigit`: a date of which another day is read.
- `Date.read_back_or_refused_iff`: no other date is read as one that it is not.
-/

namespace LoanGateway

namespace Date

variable {digits rest : List Char}

/-! ## Digits -/

theorem readDigits_digits {width n : Nat} (all : ∀ c ∈ digits, c.isDigit = true)
    (fits : digits.length ≤ width)
    (ends : digits.length = width ∨ Text.startsWithDigit rest = false)
    (below : Nat.ofDigitChars 10 digits n < counterBound) :
    readDigits width n (digits ++ rest) = .ok (Nat.ofDigitChars 10 digits n, rest) := by
  induction digits generalizing width n with
  | nil =>
    cases width with
    | zero => rfl
    | succ width =>
      have stops : Text.startsWithDigit rest = false := ends.resolve_left nofun
      cases rest with
      | nil => rfl
      | cons c rest =>
        have other : c.isDigit = false := stops
        show readDigits (width + 1) n (c :: rest) = _
        rw [readDigits, other]
        rfl
  | cons c digits ih =>
    obtain ⟨first, others⟩ := List.forall_mem_cons.mp all
    cases width with
    | zero => exact absurd fits (Nat.not_succ_le_zero _)
    | succ width =>
      rw [Nat.ofDigitChars_cons, Nat.mul_comm 10 n] at below ⊢
      have more := Text.le_ofDigitChars (n * 10 + (c.toNat - '0'.toNat)) digits
      have next : n * 10 + (c.toNat - '0'.toNat) < counterBound := Nat.lt_of_le_of_lt more below
      rw [List.cons_append, readDigits, if_pos first]
      dsimp only
      rw [if_pos next]
      exact ih others (Nat.le_of_succ_le_succ fits) (ends.imp_left Nat.succ.inj) below

/-- The digits of a number are read as the number, if no further digit is taken with them. -/
theorem readNumber_digits {width : Nat} (any : digits ≠ [])
    (all : ∀ c ∈ digits, c.isDigit = true) (fits : digits.length ≤ width)
    (ends : digits.length = width ∨ Text.startsWithDigit rest = false)
    (below : Nat.ofDigitChars 10 digits 0 < counterBound) :
    readNumber width (digits ++ rest) = .ok (Nat.ofDigitChars 10 digits 0, rest) := by
  cases digits with
  | nil => exact absurd rfl any
  | cons c digits =>
    have first : c.isDigit = true := all c List.mem_cons_self
    rw [List.cons_append, readNumber, if_pos first, ← List.cons_append]
    exact readDigits_digits all fits ends below

/-! ## Padded numbers -/

theorem isDigit_of_mem_padded {width n : Nat} : ∀ c ∈ padded width n, c.isDigit = true := by
  intro c mem
  rcases List.mem_append.mp mem with zero | digit
  · rw [List.eq_of_mem_replicate zero]
    rfl
  · exact Text.isDigit_of_mem_toDigits c digit

theorem padded_ne_nil {width n : Nat} : padded width n ≠ [] :=
  fun empty => Nat.toDigits_ne_nil (List.append_eq_nil_iff.mp empty).2

theorem length_padded {width n : Nat} :
    (padded width n).length = max width (Nat.toDigits 10 n).length := by
  simp only [padded, List.length_append, List.length_replicate]
  omega

/-- Zeros in front do not count. -/
theorem ofDigitChars_padded {width n : Nat} : Nat.ofDigitChars 10 (padded width n) 0 = n := by
  have zeros (count : Nat) : Nat.ofDigitChars 10 (List.replicate count '0') 0 = 0 := by
    induction count with
    | zero => rfl
    | succ count ih =>
      rw [List.replicate_succ, Nat.ofDigitChars_cons]
      exact ih
  have value : Nat.ofDigitChars 10 (Nat.toDigits 10 n) 0 = n :=
    Nat.ofDigitChars_toDigits (by omega) (by omega)
  rw [padded, Nat.ofDigitChars_append, zeros, value]

theorem length_padded_two {n : Nat} (small : n < 100) : (padded 2 n).length = 2 := by
  have short : (Nat.toDigits 10 n).length ≤ 2 :=
    (Nat.length_toDigits_le_iff (by omega) (by omega)).mpr small
  rw [length_padded]
  omega

/-- A padded number is read as the number. -/
theorem readNumber_padded {width count n : Nat} (fits : (padded count n).length ≤ width)
    (ends : (padded count n).length = width ∨ Text.startsWithDigit rest = false)
    (below : n < counterBound) :
    readNumber width (padded count n ++ rest) = .ok (n, rest) := by
  have value : Nat.ofDigitChars 10 (padded count n) 0 = n := ofDigitChars_padded
  have number : readNumber width (padded count n ++ rest) =
      .ok (Nat.ofDigitChars 10 (padded count n) 0, rest) :=
    readNumber_digits padded_ne_nil isDigit_of_mem_padded fits ends (by rw [value]; exact below)
  rwa [value] at number

/-! ## The parts of a date -/

theorem isBlank_of_isDigit {c : Char} (h : c.isDigit = true) : Text.isBlank c = false := by
  have range : 48 ≤ c.toNat ∧ c.toNat ≤ 57 := by
    simpa [Char.isDigit, UInt32.le_iff_toNat_le] using h
  simp [Text.isBlank]
  omega

theorem trimStart_of_digits (any : digits ≠ []) (all : ∀ c ∈ digits, c.isDigit = true) :
    Text.trimStart (digits ++ rest) = digits ++ rest := by
  cases digits with
  | nil => exact absurd rfl any
  | cons c digits =>
    have text := isBlank_of_isDigit (all c List.mem_cons_self)
    exact List.dropWhile_cons_of_neg (by rw [text]; nofun)

/-- A month or a day is read back from its two digits. -/
theorem readPart_padded {bound n : Nat} (pos : 1 ≤ n) (le : n ≤ bound) (small : n < 100) :
    readPart bound (padded 2 n ++ rest) = .ok (n, rest) := by
  have two := length_padded_two small
  have read : readNumber 2 (padded 2 n ++ rest) = .ok (n, rest) :=
    readNumber_padded (Nat.le_of_eq two) (.inl two) (Nat.lt_trans small (by decide))
  unfold readPart
  rw [trimStart_of_digits padded_ne_nil isDigit_of_mem_padded, read]
  simp [bind, Except.bind, pos, le]
  rfl

/-- A year that was read is accepted if it is in the range of years. -/
theorem checked_year {first : Except DateError (Int × List Char)} {year : Int}
    (read : first = .ok (year, rest)) (range : -2147483648 ≤ year ∧ year < 2147483648) :
    (do
      let (year, rest) ← first
      if -2147483648 ≤ year && year < 2147483648 then return (year, rest)
      else throw .outOfRange) = Except.ok (year, rest) := by
  have within : (decide (-2147483648 ≤ year) && decide (year < 2147483648)) = true := by
    rw [Bool.and_eq_true, decide_eq_true_eq, decide_eq_true_eq]
    exact range
  rw [read]
  exact if_pos within

theorem length_padded_four {n : Nat} (small : n < 10000) : (padded 4 n).length = 4 := by
  have short : (Nat.toDigits 10 n).length ≤ 4 :=
    (Nat.length_toDigits_le_iff (by omega) (by omega)).mpr small
  rw [length_padded]
  omega

/-- A day of a single digit at the end of a text. -/
theorem readPart_one {n : Nat} (small : n < 10) :
    readPart 31 (padded 1 n) = if 1 ≤ n then .ok (n, []) else .error .outOfRange := by
  have digits : (padded 1 n).length ≤ 2 := by
    have short : (Nat.toDigits 10 n).length ≤ 1 :=
      (Nat.length_toDigits_le_iff (by omega) (by omega)).mpr small
    rw [length_padded]
    omega
  have number : readNumber 2 (padded 1 n ++ []) = .ok (n, []) :=
    readNumber_padded digits (.inr rfl) (Nat.lt_trans small (by decide))
  have trimmed : Text.trimStart (padded 1 n ++ []) = padded 1 n ++ [] :=
    trimStart_of_digits padded_ne_nil isDigit_of_mem_padded
  rw [List.append_nil] at number trimmed
  unfold readPart
  rw [trimmed, number]
  by_cases pos : 1 ≤ n
  · have within : (decide (1 ≤ n) && decide (n ≤ 31)) = true := by
      rw [Bool.and_eq_true, decide_eq_true_eq, decide_eq_true_eq]
      omega
    rw [if_pos pos]
    exact if_pos within
  · have without : ¬ (decide (1 ≤ n) && decide (n ≤ 31)) = true := by
      rw [Bool.and_eq_true, decide_eq_true_eq]
      exact fun both => pos both.1
    rw [if_neg pos]
    exact if_neg without

/-- A year of four digits is read back without a look at what follows. -/
theorem readYear_padded {n : Nat} (small : n < 10000) :
    readYear (padded 4 n ++ rest) = .ok ((n : Int), rest) := by
  have four := length_padded_four small
  have read : readNumber 4 (padded 4 n ++ rest) = .ok (n, rest) :=
    readNumber_padded (Nat.le_of_eq four) (.inl four) (Nat.lt_trans small (by decide))
  have unsigned : ∀ s, padded 4 n ++ rest ≠ '-' :: s ∧ padded 4 n ++ rest ≠ '+' :: s := by
    intro s
    cases head : padded 4 n with
    | nil => exact absurd head padded_ne_nil
    | cons c t =>
      have digit : c.isDigit = true := isDigit_of_mem_padded c (head ▸ List.mem_cons_self)
      constructor <;>
      · intro same
        cases same
        cases digit
  have range : -2147483648 ≤ (n : Int) ∧ (n : Int) < 2147483648 := by omega
  unfold readYear
  rw [trimStart_of_digits padded_ne_nil isDigit_of_mem_padded]
  split
  · rename_i s same
    exact absurd same (unsigned s).1
  · rename_i s same
    exact absurd same (unsigned s).2
  · rw [read]
    exact checked_year rfl range

/-- A year with a sign takes all digits up to something else. -/
theorem readYear_signed {n : Nat} (range : n < 2147483648)
    (ends : Text.startsWithDigit rest = false) :
    readYear ('-' :: (padded 4 n ++ rest)) = .ok (-(n : Int), rest) ∧
      readYear ('+' :: (padded 4 n ++ rest)) = .ok ((n : Int), rest) := by
  have read : readNumber (padded 4 n ++ rest).length (padded 4 n ++ rest) = .ok (n, rest) :=
    readNumber_padded (by rw [List.length_append]; omega) (.inr ends)
      (Nat.lt_trans range (by decide))
  constructor
  · unfold readYear
    refine checked_year ?_ (by omega)
    show (readNumber _ _).map _ = _
    rw [read]
    rfl
  · unfold readYear
    refine checked_year ?_ (by omega)
    show (readNumber _ _).map _ = _
    rw [read]
    rfl

/-! ## Whole dates -/

/-- Only the twelve months have days, at most 31 of them. -/
theorem daysInMonth_bounds (year : Int) (month : Nat) :
    Calendar.daysInMonth year month ≤ 31 ∧
      (0 < Calendar.daysInMonth year month → 1 ≤ month ∧ month ≤ 12) := by
  unfold Calendar.daysInMonth
  simp only [Bool.or_eq_true, decide_eq_true_eq, Bool.and_eq_true]
  repeat' split
  all_goals omega

/-- A day that exists lies within a month that does. -/
theorem bounds (d : Date) : Calendar.firstYear ≤ d.year ∧ d.year ≤ Calendar.lastYear ∧
    1 ≤ d.month ∧ d.month ≤ 12 ∧ 1 ≤ d.day ∧ d.day ≤ 31 := by
  have is := d.exists_day
  simp only [Calendar.isDate, Bool.and_eq_true, decide_eq_true_eq] at is
  obtain ⟨⟨⟨first, last⟩, pos⟩, le⟩ := is
  obtain ⟨most, month⟩ := daysInMonth_bounds d.year d.month
  have within := month (by omega)
  omega

/-- The parts of a date that were read one after the other make up the date. -/
theorem parseChars_parts {year : Int} {month : Nat} {s₀ s₁ s₂ : List Char}
    (first : readYear s₀ = .ok (year, '-' :: s₁))
    (second : readPart 12 s₁ = .ok (month, '-' :: s₂)) :
    parseChars s₀ = (do
      let (day, s) ← readPart 31 s₂
      if !s.isEmpty then throw .trailing
      match ofParts? year month day with
      | some d => return d
      | none => throw .outOfRange) := by
  unfold parseChars
  rw [first]
  change (readPart 12 s₁ >>= _) = _
  rw [second]
  rfl

/-! ### The part of a text that is read -/

/-- Characters of one byte are cut like bytes. -/
theorem firstBytes?_eq_take {s : List Char} {n : Nat} (all : ∀ c ∈ s, c.utf8Size = 1)
    (enough : n ≤ s.length) : firstBytes? s n = some (s.take n) := by
  induction s generalizing n with
  | nil =>
    obtain rfl : n = 0 := Nat.le_zero.mp enough
    rfl
  | cons c s ih =>
    cases n with
    | zero => rfl
    | succ n =>
      obtain ⟨first, others⟩ := List.forall_mem_cons.mp all
      have tail := ih others (Nat.le_of_succ_le_succ enough)
      rw [firstBytes?, first, if_pos (by omega), Nat.add_sub_cancel, tail]
      rfl

theorem utf8Size_of_isDigit {c : Char} (h : c.isDigit = true) : c.utf8Size = 1 := by
  simp only [Char.isDigit, Bool.and_eq_true, decide_eq_true_eq] at h
  have low : c.val ≤ 127 := UInt32.le_trans h.2 (by decide)
  exact Char.utf8Size_eq_one_iff.mpr low

/-- A year is written with digits and perhaps a sign. -/
theorem mem_yearText {year : Int} {c : Char} (mem : c ∈ yearText year) :
    c.isDigit = true ∨ c = '-' ∨ c = '+' := by
  unfold yearText at mem
  split at mem
  · exact .inl (isDigit_of_mem_padded c mem)
  · rcases List.mem_cons.mp mem with sign | digit
    · split at sign
      · exact .inr (.inl sign)
      · exact .inr (.inr sign)
    · exact .inl (isDigit_of_mem_padded c digit)

/-- A date is written in characters of one byte. -/
theorem utf8Size_of_mem_chars {d : Date} : ∀ c ∈ d.chars, c.utf8Size = 1 := by
  intro c mem
  have all : "T00:00:00Z".toList.all (·.utf8Size == 1) = true := by decide
  have midnight : ∀ c ∈ "T00:00:00Z".toList, c.utf8Size = 1 := fun c mem =>
    eq_of_beq (List.all_eq_true.mp all c mem)
  unfold chars at mem
  generalize "T00:00:00Z".toList = tail at mem midnight
  simp only [List.mem_append, List.mem_cons] at mem
  rcases mem with ((year | rfl | month) | rfl | day) | last
  · rcases mem_yearText year with digit | rfl | rfl
    · exact utf8Size_of_isDigit digit
    · rfl
    · rfl
  · rfl
  · exact utf8Size_of_isDigit (isDigit_of_mem_padded c month)
  · rfl
  · exact utf8Size_of_isDigit (isDigit_of_mem_padded c day)
  · exact midnight c last

/-- What is read of a date. -/
theorem parse_of_split {d : Date} {front back : List Char} (split : d.chars = front ++ back)
    (ten : front.length = 10) : parse d.text = parseChars front := by
  have enough : 10 ≤ d.chars.length := by
    rw [split, List.length_append]
    omega
  unfold parse datePart
  rw [text, String.toList_ofList, firstBytes?_eq_take utf8Size_of_mem_chars enough, split,
    ← ten, List.take_left]
  rfl

/-- Year, month and day come first. -/
theorem exists_chars_eq (d : Date) : ∃ tail, d.chars =
    yearText d.year ++ '-' :: (padded 2 d.month ++ '-' :: (padded 2 d.day ++ tail)) := by
  refine ⟨"T00:00:00Z".toList, ?_⟩
  unfold chars
  generalize "T00:00:00Z".toList = tail
  simp

/-- How a year is written that has a sign. -/
theorem yearText_of_signed {year : Int} (other : ¬ (0 ≤ year ∧ year ≤ 9999)) :
    yearText year = (if year < 0 then '-' else '+') :: padded 4 year.natAbs := by
  have unsigned : ¬ (decide (0 ≤ year) && decide (year ≤ 9999)) = true := by
    rw [Bool.and_eq_true, decide_eq_true_eq, decide_eq_true_eq]
    exact other
  exact if_neg unsigned

/-- The year of a date is read back with its sign. -/
theorem readYear_yearText (d : Date) (other : ¬ (0 ≤ d.year ∧ d.year ≤ 9999))
    (ends : Text.startsWithDigit rest = false) :
    readYear (yearText d.year ++ rest) = .ok (d.year, rest) := by
  obtain ⟨first, last, _⟩ := d.bounds
  have range : d.year.natAbs < 2147483648 := by
    unfold Calendar.firstYear at first
    unfold Calendar.lastYear at last
    omega
  obtain ⟨minus, plus⟩ :
      readYear ('-' :: (padded 4 d.year.natAbs ++ rest)) = .ok (-(d.year.natAbs : Int), rest) ∧
        readYear ('+' :: (padded 4 d.year.natAbs ++ rest)) = .ok ((d.year.natAbs : Int), rest) :=
    readYear_signed range ends
  rw [yearText_of_signed other]
  split
  · have year : -((d.year.natAbs : Nat) : Int) = d.year := by omega
    rw [year] at minus
    exact minus
  · have year : ((d.year.natAbs : Nat) : Int) = d.year := by omega
    rw [year] at plus
    exact plus

/-! ### The three sorts of dates -/

/-- A date whose year has four digits and no sign is read back. -/
theorem parse_text {d : Date} (range : 0 ≤ d.year ∧ d.year ≤ 9999) : parse d.text = .ok d := by
  obtain ⟨tail, written⟩ := d.exists_chars_eq
  obtain ⟨_, _, month⟩ := d.bounds
  have small : d.year.toNat < 10000 := by omega
  have year : yearText d.year = padded 4 d.year.toNat := by
    have unsigned : (decide (0 ≤ d.year) && decide (d.year ≤ 9999)) = true := by
      rw [Bool.and_eq_true, decide_eq_true_eq, decide_eq_true_eq]
      exact range
    exact if_pos unsigned
  have split : d.chars = (padded 4 d.year.toNat ++
      '-' :: (padded 2 d.month ++ '-' :: padded 2 d.day)) ++ tail := by
    rw [written, year]
    simp
  have ten : (padded 4 d.year.toNat ++
      '-' :: (padded 2 d.month ++ '-' :: padded 2 d.day)).length = 10 := by
    simp only [List.length_append, List.length_cons, length_padded_four small,
      length_padded_two (show d.month < 100 by omega), length_padded_two (show d.day < 100 by omega)]
  have day : readPart 31 (padded 2 d.day) = .ok (d.day, []) := by
    have whole : readPart 31 (padded 2 d.day ++ []) = .ok (d.day, []) :=
      readPart_padded (by omega) (by omega) (by omega)
    rwa [List.append_nil] at whole
  have same : ((d.year.toNat : Nat) : Int) = d.year := by omega
  rw [parse_of_split split ten, parseChars_parts (readYear_padded small)
    (readPart_padded (by omega) (by omega) (by omega)), day, same]
  simp only [bind, Except.bind, ofParts?_self]
  rfl

/-- A day of the month exists if a later one does. -/
theorem ofParts?_of_le {d : Date} {day : Nat} (pos : 1 ≤ day) (le : day ≤ d.day) :
    ∃ e : Date, ofParts? d.year d.month day = some e ∧
      e.year = d.year ∧ e.month = d.month ∧ e.day = day := by
  have is := d.exists_day
  have earlier : Calendar.isDate d.year d.month day = true := by
    simp only [Calendar.isDate, Bool.and_eq_true, decide_eq_true_eq] at is ⊢
    omega
  exact ⟨⟨d.year, d.month, day, earlier⟩, dif_pos earlier, rfl, rfl, rfl⟩

/-- The sign of a year before the year zero takes the place of the last digit of the day. -/
theorem parse_text_of_negative {d : Date} (range : -9999 ≤ d.year ∧ d.year < 0) :
    (d.day < 10 → parse d.text = .error .outOfRange) ∧
      (10 ≤ d.day → ∃ e, parse d.text = .ok e ∧ e.year = d.year ∧ e.month = d.month ∧
        e.day = d.day / 10) := by
  obtain ⟨tail, written⟩ := d.exists_chars_eq
  obtain ⟨_, _, month⟩ := d.bounds
  have other : ¬ (0 ≤ d.year ∧ d.year ≤ 9999) := by omega
  have small : d.year.natAbs < 10000 := by omega
  obtain ⟨last, day⟩ : ∃ last, padded 2 d.day = padded 1 (d.day / 10) ++ [last] := by
    have all : ∀ n : Fin 32, padded 2 n = padded 1 (n / 10) ++ [Nat.digitChar (n % 10)] := by
      decide
    exact ⟨_, all ⟨d.day, by omega⟩⟩
  have one : (padded 1 (d.day / 10)).length = 1 := by
    have two := length_padded_two (show d.day < 100 by omega)
    rw [day, List.length_append, List.length_singleton] at two
    omega
  have split : d.chars = (yearText d.year ++
      '-' :: (padded 2 d.month ++ '-' :: padded 1 (d.day / 10))) ++ last :: tail := by
    rw [written, day]
    simp
  have ten : (yearText d.year ++
      '-' :: (padded 2 d.month ++ '-' :: padded 1 (d.day / 10))).length = 10 := by
    rw [yearText_of_signed other]
    simp only [List.length_append, List.length_cons, length_padded_four small,
      length_padded_two (show d.month < 100 by omega), one]
  rw [parse_of_split split ten, parseChars_parts (readYear_yearText d other rfl)
    (readPart_padded (by omega) (by omega) (by omega)), readPart_one (by omega)]
  constructor
  · intro early
    rw [if_neg (by omega)]
    rfl
  · intro late
    obtain ⟨e, exists_day, same⟩ : ∃ e : Date, ofParts? d.year d.month (d.day / 10) = some e ∧ _ :=
      ofParts?_of_le (by omega) (by omega)
    refine ⟨e, ?_, same⟩
    rw [if_pos (by omega)]
    simp only [bind, Except.bind, exists_day]
    rfl

/-- The day of a year of more than four digits is not read any more. -/
theorem parse_text_of_long {d : Date} (long : 9999 < d.year.natAbs) :
    parse d.text = .error .premature := by
  obtain ⟨tail, written⟩ := d.exists_chars_eq
  obtain ⟨first, last, month⟩ := d.bounds
  have other : ¬ (0 ≤ d.year ∧ d.year ≤ 9999) := by omega
  have two : (padded 2 d.month).length = 2 := length_padded_two (by omega)
  have digits : (padded 4 d.year.natAbs).length = 5 ∨ (padded 4 d.year.natAbs).length = 6 := by
    have least : ¬ (Nat.toDigits 10 d.year.natAbs).length ≤ 4 := by
      rw [Nat.length_toDigits_le_iff (by omega) (by omega)]
      omega
    have most : (Nat.toDigits 10 d.year.natAbs).length ≤ 6 := by
      unfold Calendar.firstYear at first
      unfold Calendar.lastYear at last
      rw [Nat.length_toDigits_le_iff (by omega) (by omega)]
      omega
    rw [length_padded]
    omega
  have part (rest : List Char) : readPart 12 (padded 2 d.month ++ rest) = .ok (d.month, rest) :=
    readPart_padded (by omega) (by omega) (by omega)
  rcases digits with five | six
  -- the text is cut behind the second hyphen
  · have split : d.chars = (yearText d.year ++ '-' :: (padded 2 d.month ++ ['-'])) ++
        (padded 2 d.day ++ tail) := by
      rw [written]
      simp
    have ten : (yearText d.year ++ '-' :: (padded 2 d.month ++ ['-'])).length = 10 := by
      rw [yearText_of_signed other]
      simp only [List.length_append, List.length_cons, List.length_nil, five, two]
    rw [parse_of_split split ten, parseChars_parts (readYear_yearText d other rfl) (part _)]
    rfl
  -- the text is cut behind the month
  · have split : d.chars = (yearText d.year ++ '-' :: padded 2 d.month) ++
        '-' :: (padded 2 d.day ++ tail) := by
      rw [written]
      simp
    have ten : (yearText d.year ++ '-' :: padded 2 d.month).length = 10 := by
      rw [yearText_of_signed other]
      simp only [List.length_append, List.length_cons, six, two]
    have whole := part []
    rw [List.append_nil] at whole
    rw [parse_of_split split ten]
    unfold parseChars
    rw [readYear_yearText d other rfl]
    simp only [bind, Except.bind, readHyphen, ↓reduceIte, whole]

/-- The dates that are read back are those whose year has four digits and no sign. -/
theorem parse_text_iff {d : Date} : parse d.text = .ok d ↔ 0 ≤ d.year ∧ d.year ≤ 9999 := by
  refine ⟨fun same => ?_, parse_text⟩
  by_contra other
  obtain ⟨_, _, _, _, pos, _⟩ := d.bounds
  by_cases long : 9999 < d.year.natAbs
  · rw [parse_text_of_long long] at same
    cases same
  · obtain ⟨early, late⟩ := parse_text_of_negative (d := d) (by omega)
    by_cases short : d.day < 10
    · rw [early short] at same
      cases same
    · obtain ⟨e, read, _, _, day⟩ := late (by omega)
      rw [read] at same
      cases same
      omega

/-! ## Dates that change -/

/-- The sign of the year pushes the last digit of the day out of the part that is read, and what is left
of the day is a day. -/
def LosesDigit (d : Date) : Prop := -9999 ≤ d.year ∧ d.year < 0 ∧ 10 ≤ d.day

/-- A day without its last digit comes before the day itself. -/
theorem parse_text_of_losesDigit {d : Date} (loses : d.LosesDigit) :
    ∃ other, parse d.text = .ok other ∧ other ≠ d ∧ other.year = d.year ∧ other.month = d.month ∧
      other.day = d.day / 10 := by
  obtain ⟨first, negative, late⟩ := loses
  obtain ⟨other, read, year, month, day⟩ := (parse_text_of_negative ⟨first, negative⟩).2 late
  refine ⟨other, read, ?_, year, month, day⟩
  rintro rfl
  omega

/-- A date that loses no digit of its day is either whole or without any day. -/
theorem parse_text_of_not_losesDigit {d : Date} (keeps : ¬ d.LosesDigit) :
    parse d.text = .ok d ∨ ∃ e, parse d.text = .error e := by
  by_cases whole : 0 ≤ d.year ∧ d.year ≤ 9999
  · exact .inl (parse_text whole)
  · right
    by_cases long : 9999 < d.year.natAbs
    · exact ⟨_, parse_text_of_long long⟩
    · unfold LosesDigit at keeps
      exact ⟨_, (parse_text_of_negative (by omega)).1 (by omega)⟩

/-- What is read of a written date is the date itself or an error, unless the date loses a digit of its
day. Then an earlier day of the same month is read. The date itself is read if and only if its year has
four digits and no sign. -/
theorem read_back_or_refused_iff (d : Date) :
    ((parse d.text = .ok d ∨ ∃ e, parse d.text = .error e) ↔ ¬ d.LosesDigit) ∧
      (d.LosesDigit → ∃ other, parse d.text = .ok other ∧ other ≠ d ∧ other.year = d.year ∧
        other.month = d.month ∧ other.day = d.day / 10) ∧
      (parse d.text = .ok d ↔ 0 ≤ d.year ∧ d.year ≤ 9999) := by
  refine ⟨⟨fun unchanged loses => ?_, parse_text_of_not_losesDigit⟩, parse_text_of_losesDigit,
    parse_text_iff⟩
  obtain ⟨other, read, different, _⟩ := parse_text_of_losesDigit loses
  rw [read] at unchanged
  rcases unchanged with same | ⟨e, refused⟩
  · exact different (Except.ok.inj same)
  · cases refused

/-- The fifteenth of a month of the year before the year zero is read as the first. -/
theorem fifteenth_is_read_as_first :
    let d : Date := ⟨-1, 1, 15, by decide⟩
    d.text = "-0001-01-15T00:00:00Z" ∧ parse d.text = .ok ⟨-1, 1, 1, by decide⟩ ∧
      ¬ (parse d.text = .ok d ∨ ∃ e, parse d.text = .error e) := by
  intro d
  have written : d.text = "-0001-01-15T00:00:00Z" := by decide
  have read : parse d.text = .ok ⟨-1, 1, 1, by decide⟩ := by
    rw [written]
    rfl
  refine ⟨written, read, ?_⟩
  rw [read]
  rintro (same | ⟨e, refused⟩)
  · exact absurd (congrArg Date.day (Except.ok.inj same)) (by decide)
  · cases refused

end Date

end LoanGateway
