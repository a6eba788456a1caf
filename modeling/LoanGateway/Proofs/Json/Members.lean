import LoanGateway.Json.Reader
import LoanGateway.Proofs.Json.RoundTrip
import Mathlib.Data.List.Nodup

/-!
# Members

How typed readers check the members of an object, and which objects are already in the order that
readers put them into.

- `checkMembers_eq_ok_iff`: no member is at fault and no field repeats.
- `IsCanonical`: the members of all objects are in the order of their names.
- `canonical_of_isCanonical`: such a value is as readers leave it.
- `IsProper`: a value that is canonical and whose numbers are in the ranges of their kinds.
- `agrees_self`, `readsBack_of_isProper`: such a value is equal to itself, and it is read back from
  its text if its fractions are.
-/

namespace LoanGateway

namespace Json

/-! ## Checked members -/

variable {α : Type} {check? : String → Option (α → Decoded Unit)} {other : α → Decoded Unit}

/-- The names of the members that have a check of their own. -/
def fieldNames (check? : String → Option (α → Decoded Unit)) (members : List (String × α)) :
    List String :=
  (members.map (·.1)).filter fun name => (check? name).isSome

theorem fieldNames_cons (name : String) (a : α) (rest : List (String × α)) :
    fieldNames check? ((name, a) :: rest) =
      if (check? name).isSome then name :: fieldNames check? rest else fieldNames check? rest := by
  rw [fieldNames, List.map_cons, List.filter_cons]
  rfl

theorem checkMembers_eq_ok_iff {seen : List String} {members : List (String × α)} :
    checkMembers check? other seen members = .ok () ↔
      (∀ m ∈ members, (check? m.1).getD other m.2 = .ok ()) ∧
        (fieldNames check? members).Nodup ∧ ∀ name ∈ fieldNames check? members, name ∉ seen := by
  induction members generalizing seen with
  | nil => simp [checkMembers, fieldNames]
  | cons m rest ih =>
    obtain ⟨name, a⟩ := m
    rw [checkMembers, fieldNames_cons, List.forall_mem_cons]
    cases is : check? name with
    | none =>
      rw [Option.getD_none, Option.isSome_none, if_neg Bool.false_ne_true]
      cases fault : other a with
      | error e => simp [bind, Except.bind]
      | ok _ => simpa [bind, Except.bind] using ih
    | some check =>
      rw [Option.getD_some, Option.isSome_some, if_pos rfl]
      by_cases twice : name ∈ seen
      · simp [twice]
      · cases fault : check a with
        | error e => simp [twice, fault, bind, Except.bind]
        | ok _ =>
          -- the field counts as met for the members behind it
          have next := @ih (name :: seen)
          simp only [List.mem_cons, not_or] at next
          simp only [twice, fault, bind, Except.bind, if_false, List.nodup_cons,
            List.forall_mem_cons, not_false_eq_true, true_and]
          rw [next]
          constructor
          · rintro ⟨all, nodup, apart⟩
            exact ⟨all, ⟨fun mem => (apart name mem).1 rfl, nodup⟩, fun n mem => (apart n mem).2⟩
          · rintro ⟨all, ⟨new, nodup⟩, apart⟩
            exact ⟨all, nodup, fun n mem => ⟨by rintro rfl; exact new mem, apart n mem⟩⟩

theorem readField_cons {β : Type} {key name : String} {a : α} {rest : List (String × α)}
    {read : α → Decoded β} :
    readField ((key, a) :: rest) name read =
      if name = key then read a else readField rest name read := by
  rw [readField, List.lookup_cons]
  by_cases same : name = key
  · simp [same]
  · rw [if_neg same, beq_false_of_ne same]
    rfl

/-! ## Ordered members -/

mutual

/-- The members of all objects are in the order of their names, and no name repeats. -/
def IsCanonical : Json → Prop
  | .array items => itemsCanonical items
  | .object members => (members.map (·.1)).Pairwise (· < ·) ∧ membersCanonical members
  | _ => True

def itemsCanonical : List Json → Prop
  | [] => True
  | v :: rest => IsCanonical v ∧ itemsCanonical rest

def membersCanonical : List (String × Json) → Prop
  | [] => True
  | (_, v) :: rest => IsCanonical v ∧ membersCanonical rest

end

theorem itemsCanonical_iff {items : List Json} :
    itemsCanonical items ↔ ∀ v ∈ items, v.IsCanonical := by
  induction items with
  | nil => simp [itemsCanonical]
  | cons v rest ih => rw [itemsCanonical, ih, List.forall_mem_cons]

theorem membersCanonical_iff {members : List (String × Json)} :
    membersCanonical members ↔ ∀ m ∈ members, m.2.IsCanonical := by
  induction members with
  | nil => simp [membersCanonical]
  | cons m rest ih => rw [membersCanonical, ih, List.forall_mem_cons]

/-- A name behind all others is put at the end. -/
theorem insertMember_of_lt {name : String} {value : α} {members : List (String × α)}
    (last : ∀ key ∈ members.map (·.1), key < name) :
    insertMember name value members = members ++ [(name, value)] := by
  induction members with
  | nil => rfl
  | cons m rest ih =>
    obtain ⟨key, old⟩ := m
    obtain ⟨first, others⟩ := List.forall_mem_cons.mp last
    have before : ¬ name < key := String.lt_asymm first
    have apart : name ≠ key := by
      rintro rfl
      exact String.lt_irrefl _ first
    rw [insertMember, if_neg before, if_neg apart, ih others]
    rfl

/-- Ordered members stay as they are. -/
theorem sortMembers_of_pairwise {members : List (String × α)}
    (ordered : (members.map (·.1)).Pairwise (· < ·)) : sortMembers members = members := by
  -- the members put in so far are `front`, and the next one goes behind them
  have all (front back : List (String × α))
      (ordered : ((front ++ back).map (·.1)).Pairwise (· < ·)) :
      back.foldl (fun sorted m => insertMember m.1 m.2 sorted) front =
        front ++ back := by
    induction back generalizing front with
    | nil => exact (List.append_nil front).symm
    | cons m back ih =>
      have last : ∀ key ∈ front.map (·.1), key < m.1 := by
        rw [List.map_append, List.pairwise_append] at ordered
        exact fun key mem => ordered.2.2 key mem m.1 List.mem_cons_self
      have next : ((front ++ [m]) ++ back).map (·.1) = (front ++ m :: back).map (·.1) := by simp
      rw [List.foldl_cons]
      calc back.foldl (fun sorted m => insertMember m.1 m.2 sorted)
            (insertMember m.1 m.2 front)
          = (front ++ [m]) ++ back := by
            rw [insertMember_of_lt last, ih _ (by rw [next]; exact ordered)]
        _ = front ++ m :: back := by simp
  exact all [] members ordered

theorem canonicalItems_eq_map (items : List Json) : canonicalItems items = items.map canonical := by
  induction items with
  | nil => rfl
  | cons v rest ih => rw [canonicalItems, ih, List.map_cons]

theorem canonicalMembers_eq_map (members : List (String × Json)) :
    canonicalMembers members = members.map fun m => (m.1, canonical m.2) := by
  induction members with
  | nil => rfl
  | cons m rest ih => rw [canonicalMembers, ih, List.map_cons]

/-- Readers leave a value alone that is in order. -/
theorem canonical_of_isCanonical {v : Json} (h : v.IsCanonical) : v.canonical = v := by
  induction v using Json.induction with
  | array items ih =>
    have inside := itemsCanonical_iff.mp h
    rw [canonical, canonicalItems_eq_map,
      List.map_congr_left fun v mem => ih v mem (inside v mem), List.map_id']
  | object members ih =>
    obtain ⟨ordered, inside⟩ := h
    rw [membersCanonical_iff] at inside
    have same : canonicalMembers members = members := by
      rw [canonicalMembers_eq_map]
      exact (List.map_congr_left fun m mem =>
        congrArg (m.1, ·) (ih m mem (inside m mem))).trans (List.map_id' members)
    rw [canonical, same, sortMembers_of_pairwise ordered]
  | _ => rfl

end Json

/-! ## Proper values -/

namespace Number

/-- The number is in the range of its kind. -/
def IsProper : Number → Prop
  | natural n => n < Nat.pow 2 64
  | negative n => 0 < n ∧ n ≤ Nat.pow 2 63
  | real x => x.isFinite = true

instance : DecidablePred IsProper
  | natural n => inferInstanceAs (Decidable (n < Nat.pow 2 64))
  | negative n => inferInstanceAs (Decidable (0 < n ∧ n ≤ Nat.pow 2 63))
  | real x => inferInstanceAs (Decidable (x.isFinite = true))

/-- A finite fraction is equal to itself. -/
theorem beq_self_of_isFinite {x : Float} (finite : x.isFinite = true) : (x == x) = true := by
  change x.toModel.unpack.isFinite = true at finite
  show (x.toModel.unpack.compare x.toModel.unpack == some .eq) = true
  cases number : x.toModel.unpack with
  | notANumber => rw [number] at finite; cases finite
  | infinity sign => rw [number] at finite; cases finite
  | zero sign => rfl
  | finite sign mantissa exponent pos =>
    have exponents : compare exponent exponent = .eq := Std.ReflCmp.compare_self
    have mantissas : compare mantissa mantissa = .eq := Std.ReflCmp.compare_self
    have same : (compare exponent exponent).then (compare mantissa mantissa) = .eq := by
      rw [exponents, mantissas]
      rfl
    cases sign with
    | positive =>
      show (some ((compare exponent exponent).then (compare mantissa mantissa)) == some .eq) = true
      rw [same]
      rfl
    | negative =>
      show (some ((compare exponent exponent).then (compare mantissa mantissa)).swap ==
        some .eq) = true
      rw [same]
      rfl

theorem agrees_self {n : Number} (proper : n.IsProper) : n.agrees n = true := by
  cases n with
  | natural n => exact beq_self_eq_true n
  | negative n => exact beq_self_eq_true n
  | real x => exact beq_self_of_isFinite proper

/-- Whole numbers are read back from their written forms. -/
theorem readsBack_of_isProper {n : Number} (proper : n.IsProper)
    (fraction : ∀ x, n = real x → n.ReadsBack) : n.ReadsBack := by
  cases n with
  | natural n => exact readsBack_natural proper
  | negative n => exact readsBack_negative proper.1 proper.2
  | real x => exact fraction x rfl

end Number

namespace Json

/-- A value as programs hold it. -/
structure IsProper (v : Json) : Prop where
  canonical : v.IsCanonical
  numbers : ∀ n ∈ v.numbers, n.IsProper

theorem agreeItems_self {items : List Json} (all : ∀ v ∈ items, v.agrees v = true) :
    agreeItems items items = true := by
  induction items with
  | nil => rfl
  | cons v rest ih =>
    obtain ⟨first, others⟩ := List.forall_mem_cons.mp all
    rw [agreeItems, first, ih others]
    rfl

theorem agreeMembers_self {members : List (String × Json)}
    (all : ∀ m ∈ members, m.2.agrees m.2 = true) : agreeMembers members members = true := by
  induction members with
  | nil => rfl
  | cons m rest ih =>
    obtain ⟨first, others⟩ := List.forall_mem_cons.mp all
    rw [agreeMembers, first, ih others, beq_self_eq_true]
    rfl

/-- A value whose numbers are in range is equal to itself. -/
theorem agrees_self {v : Json} (proper : ∀ n ∈ v.numbers, n.IsProper) : v.agrees v = true := by
  induction v using Json.induction with
  | null => rfl
  | bool b => exact beq_self_eq_true b
  | number n => exact n.agrees_self (proper n (List.mem_singleton.mpr rfl))
  | string s => exact beq_self_eq_true s
  | array items ih =>
    exact agreeItems_self fun v mem =>
      ih v mem fun n inside => proper n (mem_numbers_array.mpr ⟨v, mem, inside⟩)
  | object members ih =>
    exact agreeMembers_self fun m mem =>
      ih m mem fun n inside => proper n (mem_numbers_object.mpr ⟨m, mem, inside⟩)

/-- A value whose numbers are in range is read back from its text if its fractions are. -/
theorem readsBack_of_isProper {v : Json} (proper : ∀ n ∈ v.numbers, n.IsProper)
    (fractions : ∀ x, .real x ∈ v.numbers → (Number.real x).ReadsBack) : v.ReadsBack :=
  fun n mem => n.readsBack_of_isProper (proper n mem) fun x real => real ▸ fractions x (real ▸ mem)

end Json

end LoanGateway
