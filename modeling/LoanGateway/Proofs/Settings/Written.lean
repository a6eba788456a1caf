import LoanGateway.Proofs.Checks
import LoanGateway.Settings.Variables
import Mathlib.Data.List.Induction

/-!
# What was written last

Settings are collected one call after the other. What counts of a setting is what was written last, what
counts of faults and objections is the first.

- `LastWritten`, `LastWrittenOr`: a value that was written last, or else a default.
- `FirstOf`, `NoneOf`: the first objection among several in a fixed order, or none of them.
- `IsNumber`, `readNumber?_eq_some_iff`: the texts of numbers.
- `Reading`: a variable that is read as a number, and when that is a fault.
- `ComesTo`, `eq_iff_comesTo`: what calls amount to, by faults, objections and last values.
- `RefusesText`, `RefusesSecret`, `RefusesUrl`, `RefusesLimit`: what can be wrong with a setting.
-/

namespace LoanGateway.Settings

variable {κ α β ε : Type}

/-! ## Last values -/

/-- A value was written, and none since. -/
def LastWritten (written : κ → Option α) (calls : List κ) (value : α) : Prop :=
  ∃ before call since, calls = before ++ call :: since ∧ written call = some value ∧
    ∀ c ∈ since, written c = none

/-- A value was written last, or else none was written and the value is the default. -/
def LastWrittenOr (default : α) (written : κ → Option α) (calls : List κ) (value : α) : Prop :=
  LastWritten written calls value ∨ (∀ c ∈ calls, written c = none) ∧ value = default

/-- The value that was written last. -/
def latest? (written : κ → Option α) (calls : List κ) : Option α := calls.reverse.findSome? written

variable {written : κ → Option α} {calls : List κ} {value default : α}

/-- The latest call counts, if it writes the value at all. -/
theorem latest?_concat (call : κ) :
    latest? written (calls ++ [call]) = (written call).or (latest? written calls) := by
  rw [latest?, List.reverse_append, List.findSome?_append, List.reverse_singleton,
    List.findSome?_singleton]
  rfl

theorem latest?_eq_some_iff : latest? written calls = some value ↔ LastWritten written calls value := by
  rw [latest?, List.findSome?_eq_some_iff]
  constructor
  · rintro ⟨since, call, before, split, writes, quiet⟩
    refine ⟨before.reverse, call, since.reverse, ?_, writes, fun c mem => ?_⟩
    · rw [← List.reverse_reverse calls, split]
      simp
    · exact quiet c (List.mem_reverse.mp mem)
  · rintro ⟨before, call, since, rfl, writes, quiet⟩
    refine ⟨since.reverse, call, before.reverse, by simp, writes, fun c mem => ?_⟩
    exact quiet c (List.mem_reverse.mp mem)

theorem latest?_eq_none_iff : latest? written calls = none ↔ ∀ c ∈ calls, written c = none := by
  rw [latest?, List.findSome?_eq_none_iff]
  simp only [List.mem_reverse]

theorem getD_latest?_eq_iff :
    (latest? written calls).getD default = value ↔ LastWrittenOr default written calls value := by
  rw [LastWrittenOr, ← latest?_eq_some_iff, ← latest?_eq_none_iff]
  cases latest? written calls <;> simp [eq_comm]

/-- A value that is written twice in a row counts once. -/
theorem or_or_self_left (later earlier : Option α) : later.or (later.or earlier) = later.or earlier := by
  rw [← Option.or_assoc, Option.or_self]

theorem or_or_self_right (later earlier : Option α) : (earlier.or later).or later = earlier.or later := by
  rw [Option.or_assoc, Option.or_self]

/-! ## First objections -/

/-- Of several objections, which are looked for in a fixed order, the first one that is raised. -/
def FirstOf : List (ε → Prop) → ε → Prop
  | [], _ => False
  | objection :: rest, e => objection e ∨ (∀ f, ¬ objection f) ∧ FirstOf rest e

/-- None of several objections is raised. -/
def NoneOf (objections : List (ε → Prop)) : Prop := ∀ objection ∈ objections, ∀ e, ¬ objection e

/-- The first check that fails decides, if the checks do not look at each other's results. -/
theorem bind_eq_error_iff_firstOf {first : Except ε α} {next : α → Except ε β}
    {rest : List (ε → Prop)} {e : ε} (later : ∀ a, next a = .error e ↔ FirstOf rest e) :
    (first >>= next) = .error e ↔ FirstOf ((first = .error ·) :: rest) e := by
  rw [FirstOf]
  cases first with
  | error f =>
    constructor
    · exact fun fails => .inl (congrArg Except.error (Except.error.inj fails))
    · rintro (raised | ⟨silent, _⟩)
      · exact congrArg Except.error (Except.error.inj raised)
      · exact absurd rfl (silent f)
  | ok a =>
    constructor
    · exact fun fails => .inr ⟨nofun, (later a).mp fails⟩
    · rintro (raised | ⟨_, first⟩)
      · cases raised
      · exact (later a).mpr first

variable {objection? : κ → Option ε} {items : List κ} {e : ε}

theorem findSome?_cons_eq_or (k : κ) :
    (k :: items).findSome? objection? = (objection? k).or (items.findSome? objection?) := by
  rw [List.findSome?_cons]
  cases objection? k <;> rfl

variable {raises : κ → ε → Prop} (decides : ∀ k e, objection? k = some e ↔ raises k e)

include decides

/-- Objections that are worked out one by one. -/
theorem findSome?_eq_some_iff_firstOf :
    items.findSome? objection? = some e ↔ FirstOf (items.map raises) e := by
  induction items with
  | nil => exact ⟨nofun, nofun⟩
  | cons k rest ih =>
    rw [findSome?_cons_eq_or, List.map_cons, FirstOf, ← ih, Option.or_eq_some_iff]
    simp only [← decides, Option.eq_none_iff_forall_ne_some, ne_eq]

theorem findSome?_eq_none_iff_noneOf :
    items.findSome? objection? = none ↔ NoneOf (items.map raises) := by
  rw [List.findSome?_eq_none_iff, NoneOf, List.forall_mem_map]
  simp only [← decides, Option.eq_none_iff_forall_ne_some, ne_eq]

omit decides

/-! ## Numbers -/

/-- The digits of a number below a bound. -/
structure DigitsOf (bound : Nat) (digits : List Char) (n : Nat) : Prop where
  any : digits ≠ []
  all : ∀ c ∈ digits, c.isDigit = true
  value : Nat.ofDigitChars 10 digits 0 = n
  below : n < bound

/-- A text of a number below a bound: digits, perhaps behind a plus sign, and blanks around. -/
def IsNumber (bound : Nat) (raw : String) (n : Nat) : Prop :=
  ∃ sign digits, Text.trim raw.toList = sign ++ digits ∧ (sign = [] ∨ sign = ['+']) ∧
    DigitsOf bound digits n

variable {bound n : Nat} {raw name : String} {digits : List Char}

/-- What is left of a text behind its sign is checked and then counted. -/
theorem counted_eq_some_iff :
    (if digits.isEmpty || !digits.all Char.isDigit then none
      else if Nat.ofDigitChars 10 digits 0 < bound then some (Nat.ofDigitChars 10 digits 0)
      else none) = some n ↔ DigitsOf bound digits n := by
  by_cases number : digits ≠ [] ∧ ∀ c ∈ digits, c.isDigit = true
  · rw [if_neg (by simpa using number), Option.ite_none_right_eq_some]
    constructor
    · rintro ⟨below, same⟩
      obtain rfl := Option.some.inj same
      exact ⟨number.1, number.2, rfl, below⟩
    · rintro ⟨_, _, rfl, below⟩
      exact ⟨below, rfl⟩
  · have refused : (digits.isEmpty || !digits.all Char.isDigit) = true := by
      rw [Bool.or_eq_true, List.isEmpty_iff, Bool.not_eq_true', ← Bool.not_eq_true, List.all_eq_true]
      exact (not_and_or.mp number).imp_left not_not.mp
    rw [if_pos refused]
    exact ⟨nofun, fun is => absurd ⟨is.any, is.all⟩ number⟩

/-- The texts that are read as numbers are those of numbers. -/
theorem readNumber?_eq_some_iff : readNumber? bound raw = some n ↔ IsNumber bound raw n := by
  unfold readNumber? IsNumber
  dsimp only
  rw [counted_eq_some_iff]
  split
  · next rest signed =>
    rw [signed]
    constructor
    · exact fun is => ⟨['+'], rest, rfl, .inr rfl, is⟩
    · rintro ⟨_, digits, whole, rfl | rfl, is⟩
      · -- a plus sign is no digit
        have plus : '+' ∈ digits := by
          rw [← List.nil_append digits, ← whole]
          exact List.mem_cons_self
        exact absurd (is.all _ plus) (by decide)
      · obtain rfl := (List.cons.inj whole).2
        exact is
  · next unsigned =>
    constructor
    · exact fun is => ⟨[], _, rfl, .inl rfl, is⟩
    · rintro ⟨_, digits, whole, rfl | rfl, is⟩
      · rw [whole]
        exact is
      · exact absurd whole (unsigned digits)

/-- A variable that is read as a number below a bound. -/
structure Reading where
  lookup : Lookup
  name : String
  bound : Nat

namespace Reading

/-- The number that the variable holds, if it is set and holds one. -/
def number? (r : Reading) : Option Nat := (r.lookup r.name).bind (readNumber? r.bound)

/-- The variable is set and holds no number. -/
def Faults (r : Reading) (e : SettingsError) : Prop :=
  ∃ raw, r.lookup r.name = some raw ∧ (∀ n, ¬ IsNumber r.bound raw n) ∧
    e = .invalid (r.name ++ " is not a valid number: " ++ Text.quoteString raw)

/-- The fault that is remembered of a variable. -/
def fault? (r : Reading) : Option SettingsError :=
  match numberVariable r.lookup r.name r.bound with
  | .ok _ => none
  | .error e => some e

variable {r : Reading} {e : SettingsError}

theorem number?_eq_some_iff :
    r.number? = some n ↔ ∃ raw, r.lookup r.name = some raw ∧ IsNumber r.bound raw n := by
  simp only [number?, Option.bind_eq_some_iff, readNumber?_eq_some_iff]

theorem fault?_eq_some_iff : r.fault? = some e ↔ r.Faults e := by
  unfold fault? Faults numberVariable
  simp only [← readNumber?_eq_some_iff, ← Option.eq_none_iff_forall_ne_some]
  cases set : r.lookup r.name with
  | none => exact ⟨nofun, nofun⟩
  | some raw =>
    dsimp only
    cases read : readNumber? r.bound raw with
    | none => simp [read, eq_comm]
    | some n => simp [read]

/-- A variable gives a number, nothing or a fault. -/
theorem numberVariable_eq (r : Reading) :
    numberVariable r.lookup r.name r.bound =
      match r.fault? with
      | none => .ok r.number?
      | some e => .error e := by
  unfold fault? number? numberVariable
  cases r.lookup r.name with
  | none => rfl
  | some raw => cases read : readNumber? r.bound raw <;> simp [read]

theorem number?_eq_none_of_fault? (faults : r.fault? = some e) : r.number? = none := by
  obtain ⟨raw, set, none, _⟩ := fault?_eq_some_iff.mp faults
  rw [Option.eq_none_iff_forall_ne_some]
  intro n held
  obtain ⟨other, same, is⟩ := number?_eq_some_iff.mp held
  obtain rfl := Option.some.inj (set.symm.trans same)
  exact none n is

end Reading

/-! ## What a form comes to -/

/-- What calls amount to. The first fault counts whatever else is written, then the first objection. -/
inductive ComesTo {σ : Type} (faults objections : List (ε → Prop)) (made : σ → Prop) :
    Except ε σ → Prop
  | faulty {e : ε} (fault : FirstOf faults e) : ComesTo faults objections made (.error e)
  | refused {e : ε} (faultless : NoneOf faults) (objection : FirstOf objections e) :
      ComesTo faults objections made (.error e)
  | accepted {s : σ} (faultless : NoneOf faults) (as : made s) : ComesTo faults objections made (.ok s)

/-- A form that remembers the first fault of its readings and then makes its checks. -/
theorem eq_iff_comesTo {σ : Type} {readings : List Reading}
    {objections : List (SettingsError → Prop)} {made : σ → Prop} {built r : Except SettingsError σ}
    (faulty : ∀ e, readings.findSome? Reading.fault? = some e → built = .error e)
    (refused : readings.findSome? Reading.fault? = none → ∀ e,
      built = .error e ↔ FirstOf objections e)
    (accepted : readings.findSome? Reading.fault? = none → ∀ s, built = .ok s ↔ made s) :
    built = r ↔ ComesTo (readings.map Reading.Faults) objections made r := by
  have first (e : SettingsError) : readings.findSome? Reading.fault? = some e ↔
      FirstOf (readings.map Reading.Faults) e :=
    findSome?_eq_some_iff_firstOf fun _ _ => Reading.fault?_eq_some_iff
  have none_iff : readings.findSome? Reading.fault? = none ↔
      NoneOf (readings.map Reading.Faults) :=
    findSome?_eq_none_iff_noneOf fun _ _ => Reading.fault?_eq_some_iff
  constructor
  · rintro rfl
    cases fault : readings.findSome? Reading.fault? with
    | some e =>
      rw [faulty e fault]
      exact .faulty ((first e).mp fault)
    | none =>
      have faultless := none_iff.mp fault
      cases result : built with
      | error e => exact .refused faultless ((refused fault e).mp result)
      | ok s => exact .accepted faultless ((accepted fault s).mp result)
  · rintro (fault | ⟨faultless, objection⟩ | ⟨faultless, as⟩)
    · exact faulty _ ((first _).mpr fault)
    · exact (refused (none_iff.mpr faultless) _).mpr objection
    · exact (accepted (none_iff.mpr faultless) _).mpr as

/-! ## Checks of settings -/

/-- A text of an address of the web. -/
structure IsWebAddress (raw : String) (url : Url) : Prop where
  written : Text.isBlankText raw = false
  parsed : Url.parse? none raw = some url
  web : url.scheme = "http".toList ∨ url.scheme = "https".toList

/-- There is no text, or the one that was written last is blank. -/
def RefusesText (field : String) (written : κ → Option String) (calls : List κ)
    (e : SettingsError) : Prop :=
  e = .missing field ∧ ∀ s, LastWritten written calls s → Text.isBlankText s = true

/-- The text that was written last, or else the default, is blank. -/
def RefusesTextOr (default field : String) (written : κ → Option String) (calls : List κ)
    (e : SettingsError) : Prop :=
  e = .missing field ∧ ∃ s, LastWrittenOr default written calls s ∧ Text.isBlankText s = true

/-- There is no secret, or the one that was written last is empty. -/
def RefusesSecret (field : String) (written : κ → Option String) (calls : List κ)
    (e : SettingsError) : Prop :=
  e = .missing field ∧ ∀ s, LastWritten written calls s → s = ""

/-- There is no text, or the one that was written last is no address of the web. -/
def RefusesUrl (field : String) (written : κ → Option String) (calls : List κ)
    (e : SettingsError) : Prop :=
  RefusesText field written calls e ∨
    ∃ raw, LastWritten written calls raw ∧ Text.isBlankText raw = false ∧
      (∀ url, ¬ IsWebAddress raw url) ∧ e = .endpoint raw

/-- The limit that was written last, or else the default, is zero. -/
def RefusesLimit (default : Duration) (field : String) (written : κ → Option Duration)
    (calls : List κ) (e : SettingsError) : Prop :=
  e = .invalid (field ++ " must be greater than zero") ∧
    ∃ d, LastWrittenOr default written calls d ∧ d.nanos = 0

/-- A check that refuses under a condition. -/
theorem ite_eq_error_iff {p : Prop} [Decidable p] {f e : ε} {a : α} :
    (if p then .error f else .ok a : Except ε α) = .error e ↔ e = f ∧ p := by
  split
  · next refuses => simp [refuses, eq_comm]
  · next accepts => simp [accepts]

theorem ite_eq_ok_iff {p : Prop} [Decidable p] {f : ε} {a b : α} :
    (if p then .error f else .ok a : Except ε α) = .ok b ↔ a = b ∧ ¬ p := by
  split
  · next refuses => simp [refuses]
  · next accepts => simp [accepts]

section Checks

variable {field : String} {texts : κ → Option String} {limits : κ → Option Duration}
  {text standard : String} {limit initial : Duration} {e : SettingsError}

theorem requiredText_latest?_eq_ok_iff :
    requiredText field (latest? texts calls) = .ok text ↔
      LastWritten texts calls text ∧ Text.isBlankText text = false := by
  rw [← latest?_eq_some_iff]
  cases latest? texts calls with
  | none => exact ⟨nofun, fun given => nomatch given.1⟩
  | some s =>
    refine ite_eq_ok_iff.trans ?_
    rw [Option.some.injEq, Bool.not_eq_true]
    exact and_congr_right fun same => by rw [same]

theorem requiredText_latest?_eq_error_iff :
    requiredText field (latest? texts calls) = .error e ↔ RefusesText field texts calls e := by
  simp only [RefusesText, ← latest?_eq_some_iff]
  cases latest? texts calls with
  | none => exact ⟨fun fails => ⟨(Except.error.inj fails).symm, nofun⟩, fun is => is.1 ▸ rfl⟩
  | some s =>
    refine ite_eq_error_iff.trans (and_congr_right fun _ => ?_)
    simp only [Option.some.injEq, forall_eq']

theorem requiredText_getD_eq_error_iff :
    requiredText field (some ((latest? texts calls).getD standard)) = .error e ↔
      RefusesTextOr standard field texts calls e := by
  refine ite_eq_error_iff.trans (and_congr_right fun _ => ?_)
  simp only [← getD_latest?_eq_iff, exists_eq_left']

theorem requiredSecret_latest?_eq_ok_iff :
    requiredSecret field (latest? texts calls) = .ok text ↔
      LastWritten texts calls text ∧ text ≠ "" := by
  rw [← latest?_eq_some_iff]
  cases latest? texts calls with
  | none => exact ⟨nofun, fun given => nomatch given.1⟩
  | some s =>
    refine ite_eq_ok_iff.trans ?_
    rw [Option.some.injEq, String.isEmpty_iff]
    exact and_congr_right fun same => by rw [same]

theorem requiredSecret_latest?_eq_error_iff :
    requiredSecret field (latest? texts calls) = .error e ↔ RefusesSecret field texts calls e := by
  simp only [RefusesSecret, ← latest?_eq_some_iff]
  cases latest? texts calls with
  | none => exact ⟨fun fails => ⟨(Except.error.inj fails).symm, nofun⟩, fun is => is.1 ▸ rfl⟩
  | some s =>
    refine ite_eq_error_iff.trans (and_congr_right fun _ => ?_)
    simp only [Option.some.injEq, forall_eq', String.isEmpty_iff]

theorem positive_getD_eq_ok_iff :
    positive field ((latest? limits calls).getD initial) = .ok limit ↔
      LastWrittenOr initial limits calls limit ∧ limit.nanos ≠ 0 := by
  rw [← getD_latest?_eq_iff]
  exact ite_eq_ok_iff.trans (and_congr_right fun same => by rw [same])

theorem positive_getD_eq_error_iff :
    positive field ((latest? limits calls).getD initial) = .error e ↔
      RefusesLimit initial field limits calls e := by
  refine ite_eq_error_iff.trans (and_congr_right fun _ => ?_)
  simp only [← getD_latest?_eq_iff, exists_eq_left']

/-- The address of the web that a text is read as. -/
def webAddress? (raw : String) : Option Url :=
  (Url.parse? none raw).filter fun url =>
    url.scheme = "http".toList || url.scheme = "https".toList

theorem isWebAddress_iff {raw : String} {url : Url} :
    IsWebAddress raw url ↔ Text.isBlankText raw = false ∧ webAddress? raw = some url := by
  rw [webAddress?, Option.filter_eq_some_iff, Bool.or_eq_true, decide_eq_true_eq, decide_eq_true_eq]
  exact ⟨fun is => ⟨is.written, is.parsed, is.web⟩, fun is => ⟨is.1, is.2.1, is.2.2⟩⟩

theorem requiredUrl_some_eq {raw : String} (written : Text.isBlankText raw = false) :
    requiredUrl field (some raw) =
      match webAddress? raw with
      | some url => .ok url
      | none => .error (.endpoint raw) := by
  have given : requiredText field (some raw) = .ok raw := ite_eq_ok_iff.mpr ⟨rfl, by simp [written]⟩
  unfold requiredUrl webAddress?
  rw [given]
  cases parsed : Url.parse? none raw with
  | none => simp [bind, Except.bind, parsed]; rfl
  | some url =>
    simp only [bind, Except.bind, parsed, Option.filter_some]
    split <;> rfl

theorem requiredUrl_latest?_eq_ok_iff {url : Url} :
    requiredUrl field (latest? texts calls) = .ok url ↔
      ∃ raw, LastWritten texts calls raw ∧ IsWebAddress raw url := by
  simp only [← latest?_eq_some_iff]
  constructor
  · intro accepted
    obtain ⟨raw, given, _⟩ := bind_eq_ok_iff.mp accepted
    obtain ⟨last, written⟩ := requiredText_latest?_eq_ok_iff.mp given
    rw [← latest?_eq_some_iff] at last
    rw [last, requiredUrl_some_eq written] at accepted
    refine ⟨raw, last, isWebAddress_iff.mpr ⟨written, ?_⟩⟩
    split at accepted
    · next found => exact found.trans (congrArg some (Except.ok.inj accepted))
    · cases accepted
  · rintro ⟨raw, last, is⟩
    rw [last, requiredUrl_some_eq is.written, (isWebAddress_iff.mp is).2]

theorem requiredUrl_latest?_eq_error_iff :
    requiredUrl field (latest? texts calls) = .error e ↔ RefusesUrl field texts calls e := by
  rw [RefusesUrl, ← requiredText_latest?_eq_error_iff]
  simp only [← latest?_eq_some_iff]
  cases given : requiredText field (latest? texts calls) with
  | error f =>
    have refused : requiredUrl field (latest? texts calls) = .error f := by
      unfold requiredUrl
      rw [given]
      rfl
    rw [refused]
    constructor
    · exact fun same => .inl (congrArg Except.error (Except.error.inj same))
    · rintro (same | ⟨raw, last, written, _⟩)
      · exact congrArg Except.error (Except.error.inj same)
      · have accepted : requiredText field (latest? texts calls) = .ok raw :=
          requiredText_latest?_eq_ok_iff.mpr ⟨latest?_eq_some_iff.mp last, written⟩
        cases given.symm.trans accepted
  | ok raw =>
    obtain ⟨last, written⟩ := requiredText_latest?_eq_ok_iff.mp given
    rw [← latest?_eq_some_iff] at last
    rw [last, requiredUrl_some_eq written]
    constructor
    · intro refused
      split at refused
      · cases refused
      · next none =>
        refine .inr ⟨raw, rfl, written, fun url is => ?_, (Except.error.inj refused).symm⟩
        cases none.symm.trans (isWebAddress_iff.mp is).2
    · rintro (same | ⟨_, ⟨⟩, _, refused, rfl⟩)
      · cases same
      · cases found : webAddress? raw with
        | none => rfl
        | some url => exact absurd (isWebAddress_iff.mpr ⟨written, found⟩) (refused url)

end Checks

end LoanGateway.Settings
