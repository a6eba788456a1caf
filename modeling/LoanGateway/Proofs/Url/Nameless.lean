import LoanGateway.Proofs.Url.Authority
import LoanGateway.Proofs.Url.Reference

/-!
# References that name nothing

A host with nothing but slashes behind it names nothing, and neither does a path of dots, a query or a
fragment. From the root of a host such references lead to the root.

- `Path.IsSilent`: the steps that name nothing.
- `IsNameless`: the references that name nothing.
- `lastSegment?_of_withAuthority?`: a host with slashes behind it has no segment that is not empty.
- `bare_of_isNameless`: at the root of a host a reference that names nothing leads nowhere.
-/

namespace LoanGateway.Url

/-! ## Silent steps -/

namespace Path

/-- A step that names nothing: dots, or nothing at all. -/
def IsSilent (step : List Char) : Prop :=
  isSingleDot step = true ∨ isDoubleDot step = true ∨ step = []

/-- Silent steps name nothing. -/
theorem Lead.named_go_of_silent {l : Lead} {ss : List (List Char)} (silent : ∀ s ∈ ss, IsSilent s)
    (start : ∀ t ∈ l.named, t = []) : ∀ t ∈ (l.go ss).named, t = [] := by
  have entered (l : Lead) (start : ∀ t ∈ l.named, t = []) : ∀ t ∈ (l.enter []).named, t = [] :=
    List.forall_mem_append.mpr ⟨start, List.forall_mem_singleton.mpr rfl⟩
  have risen (l : Lead) (start : ∀ t ∈ l.named, t = []) : ∀ t ∈ l.rise.named, t = [] := by
    rw [rise]
    split
    · exact List.forall_mem_nil _
    · exact fun t mem => start t ((isPrefix_above _).subset mem)
  induction ss generalizing l with
  | nil => exact start
  | cons s rest ih =>
    obtain ⟨first, others⟩ := List.forall_mem_cons.mp silent
    rw [go]
    split
    · split
      · exact entered _ (risen _ start)
      · exact ih others (risen _ start)
    · next not_double =>
      split
      · split
        · exact entered _ start
        · exact ih others start
      · next not_single =>
        obtain rfl : s = [] := (first.resolve_left not_single).resolve_left not_double
        exact ih others (entered _ start)

/-- From the root of a host silent steps lead nowhere. -/
theorem lastNamed_target_nil {ss : List (List Char)} (silent : ∀ s ∈ ss, IsSilent s) :
    lastNamed ((Lead.go ⟨0, []⟩ ss).target []) = none := by
  have nothing : above^[(Lead.go ⟨0, []⟩ ss).up] [] = [] :=
    List.prefix_nil.mp (Lead.isPrefix_iterate_above _ [])
  rw [Lead.target, nothing, List.nil_append, lastNamed_eq_none_iff]
  exact Lead.named_go_of_silent silent (List.forall_mem_nil _)

/-- Slashes have nothing between them. -/
theorem isSilent_of_slashes {slashes : List Char} (only : ∀ c ∈ slashes, isSlash true c = true) :
    ∀ step ∈ steps slashes, IsSilent step := by
  intro step mem
  obtain ⟨p, piece, rfl⟩ := List.mem_map.mp mem
  refine .inr (.inr ?_)
  cases p with
  | nil => rfl
  | cons c p =>
    obtain ⟨mapped, not_slash⟩ := Text.mem_of_mem_splitOn piece List.mem_cons_self
    obtain ⟨d, inside, rfl⟩ := List.mem_map.mp mapped
    exact absurd (if_pos (only d inside)) not_slash

/-- A first slash has nothing in front. -/
theorem steps_cons_of_slash {c : Char} (slash : isSlash true c = true) (s : List Char) :
    steps (c :: s) = [] :: steps s := by
  have begins : '/' :: s.map (fun c => if isSlash true c = true then '/' else c) =
      (c :: s).map fun c => if isSlash true c = true then '/' else c := by
    rw [List.map_cons, if_pos slash]
  rw [steps, pieces, ← begins, List.splitOn_cons_eq_if_modifyHead, if_pos (by rfl)]
  rfl

end Path

/-! ## Hosts -/

/-- A host with slashes behind it names nothing. -/
theorem lastSegment?_of_withAuthority? {scheme host slashes : List Char}
    (web : isSpecial scheme = true) (whole : ∀ c ∈ host, Authority.ends c = false)
    (only : ∀ c ∈ slashes, Path.isSlash true c = true) :
    (withAuthority? scheme (host ++ slashes)).bind lastSegment? = none := by
  have ends (c : Char) (mem : c ∈ slashes) : Authority.ends c = true := by
    rw [Authority.ends, only c mem]
    rfl
  have left : (host ++ slashes).dropWhile (!Authority.ends ·) = slashes := by
    rw [List.dropWhile_append_of_pos (by simpa using whole)]
    cases slashes with
    | nil => rfl
    | cons c slashes => exact List.dropWhile_cons_of_neg (by simp [ends c List.mem_cons_self])
  have path : (splitEnd true slashes).1 = slashes := by
    have plain (c : Char) (mem : c ∈ slashes) : c ≠ '#' ∧ c ≠ '?' := by
      constructor
      · rintro rfl
        exact absurd (only _ mem) (by decide)
      · rintro rfl
        exact absurd (only _ mem) (by decide)
    show (slashes.takeWhile (· ≠ '#')).takeWhile (· ≠ '?') = slashes
    rw [List.takeWhile_eq_self_iff.mpr fun c mem => decide_eq_true (plain c mem).1,
      List.takeWhile_eq_self_iff.mpr fun c mem => decide_eq_true (plain c mem).2]
  unfold withAuthority?
  rw [web]
  dsimp only
  cases read : Authority.parse? scheme (host ++ slashes) with
  | none => rfl
  | some parts =>
    obtain ⟨a, rest⟩ := parts
    obtain rfl : rest = slashes := (Authority.rest_of_parse? web read).trans left
    show lastSegment? ⟨scheme, some a, .rooted (Path.ofText true (splitEnd true rest).1), _, _⟩ = none
    rw [lastSegment?_of_rooted rfl, path]
    cases rest with
    | nil => rfl
    | cons c rest =>
      obtain ⟨first, others⟩ := List.forall_mem_cons.mp only
      rw [Path.ofText, if_pos first, Path.extend, ← Path.steps, Path.Lead.follow_eq_target]
      exact Path.lastNamed_target_nil (Path.isSilent_of_slashes others)

/-! ## References -/

/-- References that name nothing, as they are read: a host with slashes behind it, with or without a
scheme, or a path of dots and at most one slash in front, with or without a query or a fragment. -/
inductive IsNameless : List Char → Prop
  | host {s scheme host slashes : List Char} (web : isSpecial scheme = true)
      (no_file : isFile scheme = false)
      (read : scheme? s = some (scheme, '/' :: '/' :: (host ++ slashes)))
      (whole : ∀ c ∈ host, Authority.ends c = false)
      (only : ∀ c ∈ slashes, Path.isSlash true c = true) : IsNameless s
  | beside {host slashes : List Char} (whole : ∀ c ∈ host, Authority.ends c = false)
      (only : ∀ c ∈ slashes, Path.isSlash true c = true) :
      IsNameless ('/' :: '/' :: (host ++ slashes))
  | dots {s : List Char} (no_scheme : scheme? s = none)
      (single : ∀ c d rest, (splitEnd true s).1 = c :: d :: rest →
        ¬ (Path.isSlash true c = true ∧ Path.isSlash true d = true))
      (silent : ∀ step ∈ Path.steps (splitEnd true s).1, Path.IsSilent step) : IsNameless s

variable {u : Url} {reference : String}

/-- A reference with one slash in front leads on from the root of the host. -/
theorem relative?_of_slash {s rest : List Char} {c : Char} (web : isSpecial u.scheme = true)
    (path : (splitEnd true s).1 = c :: rest) (slash : Path.isSlash true c = true)
    (single : ∀ d ∈ rest.head?, Path.isSlash true d = false) :
    ∃ query fragment, relative? u s = some { u with
      path := .rooted ((Path.Lead.go ⟨0, []⟩ (Path.steps rest)).target []), query, fragment } := by
  have leads : Path.extend true [] rest = (Path.Lead.go ⟨0, []⟩ (Path.steps rest)).target [] :=
    Path.Lead.follow_eq_target
  unfold relative?
  rw [web]
  dsimp only
  rw [path, ← leads]
  dsimp only
  rw [if_pos slash]
  split
  · next after =>
    have double : (splitEnd true ('/' :: '/' :: after)).1 = '/' :: '/' :: (splitEnd true after).1 := rfl
    obtain ⟨_, rfl⟩ := List.cons.inj (path.symm.trans double)
    exact absurd (single '/' rfl) (by decide)
  · next d _ _ =>
    rw [if_neg (by simp [single d rfl])]
    exact ⟨_, _, rfl⟩
  · exact ⟨_, _, rfl⟩

/-- At the root of a host a path that names nothing leads nowhere. -/
theorem lastSegment?_of_dots {s : List Char} (web : isSpecial u.scheme = true)
    (no_file : isFile u.scheme = false) (read : clean reference.toList = s)
    (no_scheme : scheme? s = none)
    (single : ∀ c d rest, (splitEnd true s).1 = c :: d :: rest →
      ¬ (Path.isSlash true c = true ∧ Path.isSlash true d = true))
    (silent : ∀ step ∈ Path.steps (splitEnd true s).1, Path.IsSilent step) :
    (join? u.root reference).bind lastSegment? = none := by
  have placed : placed? u.root.scheme (clean reference.toList) = some s := by
    rw [read, placed?, no_scheme]
  have onward : onward? u.root.scheme reference =
      if (splitEnd true s).1.head?.any (Path.isSlash true) then none else some (splitEnd true s).1 := by
    rw [onward?, placed]
    rfl
  cases path : (splitEnd true s).1 with
  | nil =>
    rw [path] at onward
    obtain ⟨_, _, leads⟩ := join?_of_here (u := u.root) web no_file onward
    rw [leads, Option.bind_some, lastSegment?_of_rooted rfl]
    rfl
  | cons c rest =>
    rw [path] at silent single onward
    by_cases slash : Path.isSlash true c = true
    · have first : ∀ d ∈ rest.head?, Path.isSlash true d = false := by
        intro d mem
        obtain ⟨others, rfl⟩ := List.head?_eq_some_iff.mp mem
        exact (Bool.not_eq_true _).mp fun second => single c d others rfl ⟨slash, second⟩
      obtain ⟨_, _, leads⟩ := relative?_of_slash (u := u.root) web path slash first
      rw [Path.steps_cons_of_slash slash] at silent
      rw [join?_of_placed (u := u.root) web no_file placed, leads, Option.bind_some,
        lastSegment?_of_rooted rfl]
      exact Path.lastNamed_target_nil (List.forall_mem_cons.mp silent).2
    · have along : onward? u.root.scheme reference = some (c :: rest) := onward.trans (if_neg slash)
      obtain ⟨_, _, leads⟩ := join?_of_along (u := u.root) web no_file along (List.cons_ne_nil c rest)
      rw [leads, Option.bind_some, lastSegment?_of_rooted rfl]
      exact Path.lastNamed_target_nil silent

/-- An address of the web is read behind the slashes after its scheme. -/
theorem parse?_none_of_web {scheme rest : List Char} (web : isSpecial scheme = true)
    (no_file : isFile scheme = false)
    (read : scheme? (clean reference.toList) = some (scheme, rest)) :
    parse? none reference = withAuthority? scheme (rest.dropWhile (Path.isSlash true)) := by
  unfold parse?
  dsimp only
  rw [read]
  dsimp only
  rw [if_neg (by simp [no_file]), if_pos web]

/-- References that name nothing lead nowhere at the root of a host. -/
theorem bare_of_isNameless (web : isSpecial u.scheme = true) (no_file : isFile u.scheme = false)
    (nameless : IsNameless (clean reference.toList)) :
    (join? u.root reference).bind lastSegment? = none := by
  generalize read : clean reference.toList = s at nameless
  cases nameless with
  | @host _ scheme host slashes special web_scheme scheme_read whole only =>
    have elsewhere : placed? u.root.scheme (clean reference.toList) = none := by
      rw [read, placed?, scheme_read]
      exact if_neg fun same => absurd same.1 (by simp [Path.isSlash])
    rw [join?_of_placed_eq_none elsewhere,
      parse?_none_of_web special web_scheme (read ▸ scheme_read)]
    cases host with
    | nil =>
      have gone : ('/' :: '/' :: ([] ++ slashes)).dropWhile (Path.isSlash true) = [] :=
        List.dropWhile_eq_nil_iff.mpr (by simpa [Path.isSlash] using only)
      rw [gone]
      exact lastSegment?_of_withAuthority? special (List.forall_mem_nil _) (List.forall_mem_nil _)
    | cons c host =>
      have first : Path.isSlash true c = false := by
        have free := whole c List.mem_cons_self
        simp only [Authority.ends, Bool.or_eq_false_iff] at free
        exact free.1.1
      have left : ('/' :: '/' :: (c :: host ++ slashes)).dropWhile (Path.isSlash true) =
          c :: host ++ slashes := by
        show (c :: host ++ slashes).dropWhile (Path.isSlash true) = _
        exact List.dropWhile_cons_of_neg (by simp [first])
      rw [left]
      exact lastSegment?_of_withAuthority? special whole only
  | @beside host slashes whole only =>
    have placed : placed? u.root.scheme (clean reference.toList) =
        some ('/' :: '/' :: (host ++ slashes)) := by
      rw [read]
      rfl
    rw [join?_of_placed (u := u.root) web no_file placed]
    have leads : relative? u.root ('/' :: '/' :: (host ++ slashes)) =
        withAuthority? u.scheme (host ++ slashes) := by
      unfold relative?
      dsimp only [root]
      rw [web]
      rfl
    rw [leads]
    exact lastSegment?_of_withAuthority? web whole only
  | dots no_scheme single silent =>
    exact lastSegment?_of_dots web no_file read no_scheme single silent

end LoanGateway.Url
