import LoanGateway.Proofs.Json.Members
import Mathlib.Data.List.Induction
import Mathlib.Data.List.Perm.Basic

/-!
# Values by name

A name may repeat among the members of an object. Typed readers want the names of their fields once,
and of other names the last value counts.

- `valuesOf`: the values under a name, in the order of the members.
- `valuesOf_of_perm`: the order of members does not matter if no name repeats.
- `eq_sortMembers_iff`: ordered members hold the last value of every name, and nothing else does.
- `checkMembers_eq_ok_iff_fields`, `checkMembers_eq_ok_iff_valuesOf`: what typed readers want, name by
  name.
-/

namespace LoanGateway.Json

variable {α β : Type} {members : List (String × α)} {name key : String}

/-- The values under a name, in the order of the members. -/
def valuesOf (name : String) (members : List (String × α)) : List α :=
  (members.filter fun m => m.1 = name).map (·.2)

theorem valuesOf_cons (m : String × α) (rest : List (String × α)) :
    valuesOf name (m :: rest) =
      if m.1 = name then m.2 :: valuesOf name rest else valuesOf name rest := by
  rw [valuesOf, List.filter_cons]
  by_cases same : m.1 = name
  · simp [same, valuesOf]
  · simp [same, valuesOf]

theorem valuesOf_append (front back : List (String × α)) :
    valuesOf name (front ++ back) = valuesOf name front ++ valuesOf name back := by
  rw [valuesOf, List.filter_append, List.map_append]
  rfl

theorem mem_valuesOf {a : α} : a ∈ valuesOf name members ↔ (name, a) ∈ members := by
  rw [valuesOf, List.mem_map]
  constructor
  · rintro ⟨⟨key, a⟩, mem, rfl⟩
    obtain ⟨mem, same⟩ := List.mem_filter.mp mem
    have same : key = name := of_decide_eq_true same
    exact same ▸ mem
  · intro mem
    exact ⟨(name, a), List.mem_filter.mpr ⟨mem, decide_eq_true rfl⟩, rfl⟩

theorem length_valuesOf : (valuesOf name members).length = (members.map (·.1)).count name := by
  induction members with
  | nil => rfl
  | cons m rest ih =>
    rw [valuesOf_cons, List.map_cons, List.count_cons]
    by_cases same : m.1 = name
    · simp [same, ih]
    · simp [same, ih]

theorem lookup_cons_eq (m : String × α) (rest : List (String × α)) :
    (m :: rest).lookup name = if name = m.1 then some m.2 else rest.lookup name := by
  rw [List.lookup_cons]
  by_cases same : name = m.1
  · rw [if_pos same, beq_iff_eq.mpr same]
  · rw [if_neg same, beq_false_of_ne same]

/-- A look-up finds the first value. -/
theorem lookup_eq_head? : members.lookup name = (valuesOf name members).head? := by
  induction members with
  | nil => rfl
  | cons m rest ih =>
    rw [lookup_cons_eq, valuesOf_cons, ih]
    by_cases same : m.1 = name
    · simp [same]
    · simp [same, Ne.symm same]

theorem valuesOf_filter (keep : String → Bool) (name : String) (members : List (String × α)) :
    valuesOf name (members.filter fun m => keep m.1) =
      if keep name then valuesOf name members else [] := by
  induction members with
  | nil => simp [valuesOf]
  | cons m rest ih =>
    rw [List.filter_cons, valuesOf_cons]
    by_cases same : m.1 = name
    · cases kept : keep name <;> simp [same, kept, ih, valuesOf_cons]
    · cases keep m.1 <;> simp [same, ih, valuesOf_cons]

theorem valuesOf_map (f : α → β) :
    valuesOf name (members.map fun m => (m.1, f m.2)) = (valuesOf name members).map f := by
  induction members with
  | nil => rfl
  | cons m rest ih =>
    rw [List.map_cons, valuesOf_cons, valuesOf_cons, ih]
    by_cases same : m.1 = name
    · simp [same]
    · simp [same]

/-- A list of one item at most. -/
theorem eq_nil_or_singleton {l : List α} (short : l.length ≤ 1) : l = [] ∨ ∃ a, l = [a] := by
  cases l with
  | nil => exact .inl rfl
  | cons a rest =>
    cases rest with
    | nil => exact .inr ⟨a, rfl⟩
    | cons b rest => simp at short

theorem length_valuesOf_le_one (once : (members.map (·.1)).Nodup) :
    (valuesOf name members).length ≤ 1 := by
  rw [length_valuesOf]
  exact List.nodup_iff_count_le_one.mp once name

/-- Members in another order have the same values if no name repeats. -/
theorem valuesOf_of_perm {others : List (String × α)} (perm : members.Perm others)
    (once : (members.map (·.1)).Nodup) : valuesOf name members = valuesOf name others := by
  have same : (valuesOf name members).Perm (valuesOf name others) := (perm.filter _).map _
  have short : (valuesOf name members).length ≤ 1 := length_valuesOf_le_one once
  rcases eq_nil_or_singleton short with none | ⟨a, only⟩
  · rw [none] at same ⊢
    exact (List.nil_perm.mp same).symm
  · rw [only] at same ⊢
    exact List.singleton_perm.mp same

/-- If no name repeats, a look-up finds what is there. -/
theorem lookup_eq_some_iff_mem {a : α} (once : (members.map (·.1)).Nodup) :
    members.lookup name = some a ↔ (name, a) ∈ members := by
  have short : (valuesOf name members).length ≤ 1 := length_valuesOf_le_one once
  rw [lookup_eq_head?, ← mem_valuesOf]
  rcases eq_nil_or_singleton short with none | ⟨b, only⟩
  · simp [none]
  · simp [only, eq_comm]

/-! ## Ordered members -/

theorem mem_map_insertMember {value : α} :
    key ∈ (insertMember name value members).map (·.1) ↔ key = name ∨ key ∈ members.map (·.1) := by
  induction members with
  | nil => simp [insertMember]
  | cons m rest ih =>
    rw [insertMember]
    split
    · simp
    split
    · next same => simp [same]
    · rw [List.map_cons, List.mem_cons, ih, List.map_cons, List.mem_cons]
      exact or_left_comm

theorem pairwise_insertMember {value : α} (ordered : (members.map (·.1)).Pairwise (· < ·)) :
    ((insertMember name value members).map (·.1)).Pairwise (· < ·) := by
  induction members with
  | nil => exact List.pairwise_singleton ..
  | cons m rest ih =>
    obtain ⟨first, others⟩ := List.pairwise_cons.mp ordered
    rw [insertMember]
    split
    · next before =>
      refine List.pairwise_cons.mpr ⟨?_, ordered⟩
      exact List.forall_mem_cons.mpr ⟨before, fun key mem => String.lt_trans before (first key mem)⟩
    split
    · next same =>
      exact List.pairwise_cons.mpr ⟨same ▸ first, others⟩
    · next before same =>
      refine List.pairwise_cons.mpr ⟨fun key mem => ?_, ih others⟩
      rcases mem_map_insertMember.mp mem with rfl | mem
      · exact Std.lt_of_le_of_ne (String.not_lt.mp before) (Ne.symm same)
      · exact first key mem

/-- The value put in is found, and nothing else changes. -/
theorem lookup_insertMember {value : α} (ordered : (members.map (·.1)).Pairwise (· < ·)) :
    (insertMember name value members).lookup key =
      if key = name then some value else members.lookup key := by
  induction members with
  | nil => exact lookup_cons_eq ..
  | cons m rest ih =>
    rw [insertMember]
    split
    · exact lookup_cons_eq ..
    split
    · next taken =>
      rw [lookup_cons_eq, lookup_cons_eq, ← taken]
      by_cases same : key = name
      · simp [same]
      · simp [same]
    · next apart =>
      rw [lookup_cons_eq, lookup_cons_eq, ih (List.pairwise_cons.mp ordered).2]
      by_cases here : key = m.1
      · simp [here, Ne.symm apart]
      · simp [here]

theorem sortMembers_concat (front : List (String × α)) (m : String × α) :
    sortMembers (front ++ [m]) = insertMember m.1 m.2 (sortMembers front) := by
  rw [sortMembers, List.foldl_append]
  rfl

/-- Sorted members are in the order of their names, and no name repeats. -/
theorem pairwise_sortMembers (members : List (String × α)) :
    ((sortMembers members).map (·.1)).Pairwise (· < ·) := by
  induction members using List.reverseRecOn with
  | nil => exact List.Pairwise.nil
  | append_singleton front m ih =>
    rw [sortMembers_concat]
    exact pairwise_insertMember ih

/-- Sorting keeps the last value of each name. -/
theorem lookup_sortMembers (name : String) (members : List (String × α)) :
    (sortMembers members).lookup name = (valuesOf name members).getLast? := by
  induction members using List.reverseRecOn with
  | nil => rfl
  | append_singleton front m ih =>
    rw [sortMembers_concat, lookup_insertMember (pairwise_sortMembers front), valuesOf_append, ih,
      valuesOf_cons]
    by_cases same : m.1 = name
    · simp [same, valuesOf]
    · simp [same, Ne.symm same, valuesOf]

/-- A name in front of all others has no value. -/
theorem lookup_eq_none_of_lt (first : ∀ key ∈ members.map (·.1), name < key) :
    members.lookup name = none := by
  refine List.lookup_eq_none_iff.mpr fun m mem => bne_iff_ne.mpr ?_
  rintro rfl
  exact String.lt_irrefl _ (first m.1 (List.mem_map_of_mem mem))

/-- Ordered members are known by the values of their names. -/
theorem eq_of_lookup_eq {others : List (String × α)}
    (ordered : (members.map (·.1)).Pairwise (· < ·))
    (others_ordered : (others.map (·.1)).Pairwise (· < ·))
    (same : ∀ name, members.lookup name = others.lookup name) : members = others := by
  have at_front (m : String × α) (rest : List (String × α)) :
      (m :: rest).lookup m.1 = some m.2 := List.lookup_cons_self
  induction members generalizing others with
  | nil =>
    cases others with
    | nil => rfl
    | cons n ns => exact absurd ((same n.1).trans (at_front n ns)) nofun
  | cons m ms ih =>
    cases others with
    | nil => exact absurd ((at_front m ms).symm.trans (same m.1)) nofun
    | cons n ns =>
      obtain ⟨m_first, ms_ordered⟩ := List.pairwise_cons.mp ordered
      obtain ⟨n_first, ns_ordered⟩ := List.pairwise_cons.mp others_ordered
      -- the lesser one of the two first names would be missing on the other side
      have name_eq : m.1 = n.1 := by
        rcases Std.lt_trichotomy m.1 n.1 with before | name_eq | behind
        · have missing : (n :: ns).lookup m.1 = none := lookup_eq_none_of_lt <|
            List.forall_mem_cons.mpr ⟨before, fun k mem => String.lt_trans before (n_first k mem)⟩
          rw [← same, at_front] at missing
          exact nomatch missing
        · exact name_eq
        · have missing : (m :: ms).lookup n.1 = none := lookup_eq_none_of_lt <|
            List.forall_mem_cons.mpr ⟨behind, fun k mem => String.lt_trans behind (m_first k mem)⟩
          rw [same, at_front] at missing
          exact nomatch missing
      have value_eq : m.2 = n.2 := by
        have value := same m.1
        rw [at_front, name_eq, at_front] at value
        exact Option.some.inj value
      have rest_eq : ms = ns := by
        refine ih ms_ordered ns_ordered fun name => ?_
        by_cases here : name = m.1
        · rw [here, lookup_eq_none_of_lt m_first, name_eq, lookup_eq_none_of_lt n_first]
        · have value := same name
          rwa [lookup_cons_eq, lookup_cons_eq, if_neg here, if_neg (name_eq ▸ here)] at value
      rw [rest_eq, Prod.ext name_eq value_eq]

/-- Sorted members are the ordered members with the last value of each name. -/
theorem eq_sortMembers_iff {sorted : List (String × α)} :
    sorted = sortMembers members ↔ (sorted.map (·.1)).Pairwise (· < ·) ∧
      ∀ name, sorted.lookup name = (valuesOf name members).getLast? := by
  constructor
  · rintro rfl
    exact ⟨pairwise_sortMembers members, fun name => lookup_sortMembers name members⟩
  · rintro ⟨ordered, values⟩
    refine eq_of_lookup_eq ordered (pairwise_sortMembers members) fun name => ?_
    rw [values, lookup_sortMembers]

/-! ## Checked members -/

/-- The members pass if each field comes once at most and its value passes its check, and the other
members pass theirs. -/
theorem checkMembers_eq_ok_iff_fields {check? : String → Option (α → Decoded Unit)}
    {other : α → Decoded Unit} :
    checkMembers check? other [] members = .ok () ↔
      (∀ name check, check? name = some check →
        (valuesOf name members).length ≤ 1 ∧ ∀ a ∈ valuesOf name members, check a = .ok ()) ∧
      ∀ m ∈ members, check? m.1 = none → other m.2 = .ok () := by
  rw [checkMembers_eq_ok_iff]
  constructor
  · rintro ⟨passed, nodup, -⟩
    refine ⟨fun name check is => ⟨?_, fun a mem => ?_⟩, fun m mem is => ?_⟩
    · have once := List.nodup_iff_count_le_one.mp nodup name
      rwa [fieldNames, List.count_filter (by rw [is]; rfl), ← length_valuesOf] at once
    · have member := passed (name, a) (mem_valuesOf.mp mem)
      rwa [is] at member
    · have member := passed m mem
      rwa [is] at member
  · rintro ⟨each, others⟩
    refine ⟨?_, List.nodup_iff_count_le_one.mpr fun name => ?_, fun _ _ => List.not_mem_nil⟩
    · intro m mem
      cases is : check? m.1 with
      | none => exact others m mem is
      | some check => exact (each m.1 check is).2 m.2 (mem_valuesOf.mpr mem)
    · cases is : check? name with
      | none =>
        rw [List.count_eq_zero_of_not_mem]
        · exact Nat.zero_le 1
        · intro mem
          have field := (List.mem_filter.mp mem).2
          rw [is] at field
          exact absurd field Bool.false_ne_true
      | some check =>
        rw [fieldNames, List.count_filter (by rw [is]; rfl), ← length_valuesOf]
        exact (each name check is).1

/-- The members pass if each field comes once at most and its value passes its check. -/
theorem checkMembers_eq_ok_iff_valuesOf {check? : String → Option (α → Decoded Unit)} :
    checkMembers check? (fun _ => .ok ()) [] members = .ok () ↔
      ∀ name check, check? name = some check →
        (valuesOf name members).length ≤ 1 ∧ ∀ a ∈ valuesOf name members, check a = .ok () := by
  rw [checkMembers_eq_ok_iff_fields]
  exact and_iff_left fun _ _ _ => rfl

end LoanGateway.Json
