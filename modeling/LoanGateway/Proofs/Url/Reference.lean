import LoanGateway.Backend.Identifier
import LoanGateway.Proofs.Url.Segments

/-!
# References and the places they keep

A reference with a host, or one that begins with a slash, names a place of its own. Any other one goes
on from the path of the address that it is relative to, and what it keeps of that path stands in front
of what it names itself.

- `Url.onward?`: the path of a reference that goes on from the path of an address.
- `Url.join?_of_apart`, `Url.join?_of_here`, `Url.join?_of_along`: where references lead.
- `Url.kept`: what a reference keeps of the path of an address.
- `Path.lastNamed`: the last segment that is not empty.
- `Url.lastSegment?_of_bare`: a reference that names nothing leads to what it keeps.
-/

namespace LoanGateway.Url

/-! ## Where references lead -/

/-- The text of a reference that is read at the place of an address: it has no scheme, or the scheme of
the address and less than two slashes behind it. -/
def placed? (scheme s : List Char) : Option (List Char) :=
  match scheme? s with
  | some (other, rest) =>
    if (rest.takeWhile (Path.isSlash true)).length < 2 ∧ scheme = other then some rest else none
  | none => some s

/-- The path of a reference that goes on from the path of an address with this scheme. -/
def onward? (scheme : List Char) (reference : String) : Option (List Char) :=
  (placed? scheme (clean reference.toList)).bind fun s =>
    let path := (splitEnd true s).1
    if path.head?.any (Path.isSlash true) then none else some path

/-- The root of the host of an address. -/
def root (u : Url) : Url := { u with path := .rooted [[]] }

variable {u v : Url} {reference : String} {segments : List (List Char)}

/-- A reference that is read at the place of an address. -/
theorem join?_of_placed {s : List Char} (web : isSpecial u.scheme = true)
    (no_file : isFile u.scheme = false)
    (placed : placed? u.scheme (clean reference.toList) = some s) :
    join? u reference = relative? u s := by
  unfold placed? at placed
  cases read : scheme? (clean reference.toList) with
  | none =>
    rw [read] at placed
    obtain rfl := Option.some.inj placed
    unfold join? parse?
    dsimp only
    rw [read]
    rfl
  | some found =>
    obtain ⟨other, rest⟩ := found
    rw [read] at placed
    dsimp only at placed
    split at placed
    · next same =>
      obtain rfl := Option.some.inj placed
      obtain ⟨few, rfl⟩ := same
      unfold join? parse?
      dsimp only
      rw [read]
      dsimp only
      rw [if_neg (by simp [no_file]), if_pos web, if_pos (by simpa using few)]
    · exact nomatch placed

/-- A reference that is read elsewhere is an address of its own. -/
theorem join?_of_placed_eq_none
    (elsewhere : placed? u.scheme (clean reference.toList) = none) :
    join? u reference = parse? none reference := by
  unfold placed? at elsewhere
  cases read : scheme? (clean reference.toList) with
  | none =>
    rw [read] at elsewhere
    exact nomatch elsewhere
  | some found =>
    obtain ⟨other, rest⟩ := found
    rw [read] at elsewhere
    dsimp only at elsewhere
    split at elsewhere
    · exact nomatch elsewhere
    · next not_same =>
      have other_place : ¬ ((rest.takeWhile (Path.isSlash true)).length < 2 &&
          decide (u.scheme = other)) = true := by simpa using not_same
      unfold join? parse?
      dsimp only
      rw [read]
      dsimp only
      rw [if_neg other_place]

/-- A reference with a host, or one that begins with a slash, leads to the same place from everywhere
at a host. -/
theorem join?_of_apart (web : isSpecial u.scheme = true) (no_file : isFile u.scheme = false)
    (apart : onward? u.scheme reference = none) :
    join? u reference = join? u.root reference := by
  cases placed : placed? u.scheme (clean reference.toList) with
  | none =>
    rw [join?_of_placed_eq_none placed, join?_of_placed_eq_none (u := u.root) placed]
  | some s =>
    rw [onward?, placed, Option.bind_some] at apart
    dsimp only at apart
    rw [join?_of_placed web no_file placed, join?_of_placed (u := u.root) web no_file placed]
    unfold relative?
    dsimp only [root]
    rw [web]
    split at apart
    · next slash =>
      cases path : (splitEnd true s).1 with
      | nil => rw [path] at slash; exact nomatch slash
      | cons c rest =>
        rw [path] at slash
        have begins : Path.isSlash true c = true := slash
        simp only [begins, if_true]
    · exact nomatch apart

/-- A reference without a path leads to the path of the address. -/
theorem join?_of_here (web : isSpecial u.scheme = true) (no_file : isFile u.scheme = false)
    (here : onward? u.scheme reference = some []) :
    ∃ query fragment, join? u reference = some { u with query, fragment } := by
  obtain ⟨s, placed, path⟩ := Option.bind_eq_some_iff.mp here
  dsimp only at path
  split at path
  · exact nomatch path
  · have path := Option.some.inj path
    rw [join?_of_placed web no_file placed, relative?, web]
    dsimp only
    rw [path]
    exact ⟨_, _, rfl⟩

/-- Any other reference leads on from the segments of the address but the last one. -/
theorem join?_of_along {path : List Char} (web : isSpecial u.scheme = true)
    (no_file : isFile u.scheme = false) (along : onward? u.scheme reference = some path)
    (any : path ≠ []) :
    ∃ query fragment, join? u reference = some { u with
      path := .rooted ((Path.Lead.go ⟨0, []⟩ (Path.steps path)).target
        (u.segments?.getD []).dropLast)
      query, fragment } := by
  obtain ⟨s, placed, same⟩ := Option.bind_eq_some_iff.mp along
  dsimp only at same
  split at same
  · exact nomatch same
  · next no_slash =>
    have same := Option.some.inj same
    rw [same] at no_slash
    rw [join?_of_placed web no_file placed, relative?, web]
    dsimp only
    rw [same]
    cases path with
    | nil => exact absurd rfl any
    | cons c rest =>
      have begins : ¬ Path.isSlash true c = true := no_slash
      dsimp only
      rw [if_neg begins, Path.extend, ← Path.steps, Path.Lead.follow_eq_target]
      exact ⟨_, _, rfl⟩

/-! ## Names -/

/-- The last segment that is not empty. -/
def Path.lastNamed (segments : List (List Char)) : Option String :=
  (segments.filter (!·.isEmpty)).getLast?.map String.ofList

theorem lastSegment?_of_rooted (path : v.path = .rooted segments) :
    v.lastSegment? = Path.lastNamed segments := by
  rw [lastSegment?, segments?, path]
  cases segments <;> rfl

namespace Path

theorem lastNamed_eq_none_iff : lastNamed segments = none ↔ ∀ t ∈ segments, t = [] := by
  rw [lastNamed, Option.map_eq_none_iff, List.getLast?_eq_none_iff, List.filter_eq_nil_iff]
  simp

/-- The last segment that is not empty is one of the segments. -/
theorem mem_of_lastNamed {i : String} (last : lastNamed segments = some i) : i.toList ∈ segments := by
  obtain ⟨t, found, rfl⟩ := Option.map_eq_some_iff.mp last
  rw [String.toList_ofList]
  exact List.mem_of_mem_filter (List.mem_of_getLast? found)

/-- Empty segments at the end do not count. -/
theorem lastNamed_append_of_empty {back : List (List Char)} (empty : ∀ t ∈ back, t = []) :
    lastNamed (segments ++ back) = lastNamed segments := by
  have none : back.filter (!·.isEmpty) = [] :=
    List.filter_eq_nil_iff.mpr fun t mem => by simp [empty t mem]
  rw [lastNamed, lastNamed, List.filter_append, none, List.append_nil]

end Path

/-! ## What references keep -/

/-- What a reference keeps of the path of an address. -/
def kept (u : Url) (reference : String) : List (List Char) :=
  match onward? u.scheme reference with
  | none => []
  | some [] => u.segments?.getD []
  | some path =>
    Path.above^[(Path.Lead.go ⟨0, []⟩ (Path.steps path)).up] (u.segments?.getD []).dropLast

theorem mem_of_mem_kept {t : List Char} (mem : t ∈ u.kept reference) :
    t ∈ u.segments?.getD [] := by
  unfold kept at mem
  split at mem
  · exact absurd mem List.not_mem_nil
  · exact mem
  · exact List.dropLast_subset _ ((Path.Lead.isPrefix_iterate_above ..).subset mem)

/-- A reference that names nothing at the root of a host leads from an address of this host to what it
keeps of the path of this address. -/
theorem lastSegment?_of_bare (web : isSpecial u.scheme = true)
    (no_file : isFile u.scheme = false) (path : u.path = .rooted segments)
    (bare : (join? u.root reference).bind lastSegment? = none) :
    (join? u reference).bind lastSegment? = Path.lastNamed (u.kept reference) := by
  have own : u.segments?.getD [] = segments := by
    rw [segments?, path]
    cases segments <;> rfl
  rw [kept, own]
  cases onward : onward? u.scheme reference with
  | none => exact (congrArg (·.bind lastSegment?) (join?_of_apart web no_file onward)).trans bare
  | some text =>
    cases text with
    | nil =>
      obtain ⟨query, fragment, leads⟩ := join?_of_here web no_file onward
      rw [leads, Option.bind_some]
      exact lastSegment?_of_rooted path
    | cons c rest =>
      have any : c :: rest ≠ [] := List.cons_ne_nil c rest
      obtain ⟨_, _, leads⟩ := join?_of_along web no_file onward any
      obtain ⟨_, _, at_root⟩ := join?_of_along (u := u.root) web no_file onward any
      rw [at_root, Option.bind_some, lastSegment?_of_rooted rfl, Path.lastNamed_eq_none_iff] at bare
      rw [leads, Option.bind_some, lastSegment?_of_rooted rfl, own]
      -- what the reference names stands at the end wherever it leads from
      exact Path.lastNamed_append_of_empty fun t mem => bare t (List.mem_append_right _ mem)

end LoanGateway.Url
