import LoanGateway.Proofs.Text.Pieces
import LoanGateway.Proofs.Url.Percent
import Mathlib.Data.List.DropRight
import Mathlib.Logic.Function.Iterate

/-!
# Segments of paths

Segments of dots lead upwards, so a text that is read below a place may leave it. How far it leads
up and what it names from there does not depend on the place.

- `Path.IsSegment`: the segments that the path of an address of the web is made of.
- `Path.isSegment_of_mem_ofText`: a text is read as such segments.
- `Path.Lead`: how far up a text leads, and what it names from there.
- `Path.Lead.follow_eq_target`: where a text leads from a place.
- `Path.Lead.Returns`: a lead that names again what it has left.
- `Path.prefix_chars_iff`: a path is a proper front of another one exactly if its segments are.
-/

namespace LoanGateway.Url

namespace Path

/-- A segment of a path of the web: encoded, without slashes, and not one of dots. -/
structure IsSegment (s : List Char) : Prop where
  encoded : ∀ c ∈ s, pathSet c = false
  whole : ∀ c ∈ s, isSlash true c = false
  not_single : isSingleDot s = false
  not_double : isDoubleDot s = false

theorem isSegment_nil : IsSegment [] := ⟨by simp, by simp, rfl, rfl⟩

theorem IsSegment.slash_not_mem {s : List Char} (segment : IsSegment s) : '/' ∉ s :=
  fun mem => absurd (segment.whole '/' mem) (by decide)

/-- Encoding a text without slashes leaves nothing to encode and brings in no slash. -/
theorem isEncoded_of_mem_percentEncode {p : List Char} (whole : ∀ c ∈ p, isSlash true c = false)
    {c : Char} (mem : c ∈ percentEncode pathSet p) :
    pathSet c = false ∧ isSlash true c = false := by
  have digits : ∀ b : UInt8,
      (percentByte b).all (fun c => !pathSet c && !isSlash true c) = true :=
    byte_forall (by decide +kernel)
  rcases mem_percentEncode mem with ⟨inside, free⟩ | ⟨b, inside⟩
  · exact ⟨free, whole c inside⟩
  · simpa using List.all_eq_true.mp (digits b) c inside

/-! ## Pieces -/

/-- No piece holds a slash. -/
theorem isSlash_of_mem_pieces {special : Bool} {s p : List Char} (piece : p ∈ pieces special s) :
    ∀ c ∈ p, isSlash special c = false := by
  intro c mem
  obtain ⟨mapped, not_slash⟩ := Text.mem_of_mem_splitOn piece mem
  obtain ⟨d, _, rfl⟩ := List.mem_map.mp mapped
  by_cases slash : isSlash special d = true
  · exact absurd (if_pos slash) not_slash
  · rw [if_neg slash]
    exact (Bool.not_eq_true _).mp slash

/-- The segments that a text is read as, before dots are followed. -/
def steps (s : List Char) : List (List Char) := (pieces true s).map (percentEncode pathSet)

theorem steps_ne_nil (s : List Char) : steps s ≠ [] := by
  intro none
  exact List.splitOn_ne_nil _ _ (List.map_eq_nil_iff.mp none)

theorem isSegment_of_mem_steps {s step : List Char} (mem : step ∈ steps s)
    (not_single : isSingleDot step = false) (not_double : isDoubleDot step = false) :
    IsSegment step := by
  obtain ⟨p, piece, rfl⟩ := List.mem_map.mp mem
  have whole := isSlash_of_mem_pieces piece
  exact ⟨fun c mem => (isEncoded_of_mem_percentEncode whole mem).1,
    fun c mem => (isEncoded_of_mem_percentEncode whole mem).2, not_single, not_double⟩

/-! ## Followed steps -/

variable {place done rest ss : List (List Char)}

theorem isPrefix_above (segments : List (List Char)) : above segments <+: segments := by
  rw [above]
  split
  · split
    · exact List.prefix_rfl
    · exact List.dropLast_prefix segments
  · exact List.nil_prefix

/-- What is reached from segments by segments is made of segments. -/
theorem isSegment_of_mem_follow (start : ∀ s ∈ done, IsSegment s)
    (steps : ∀ s ∈ ss, isSingleDot s = false → isDoubleDot s = false → IsSegment s) :
    ∀ s ∈ follow done ss, IsSegment s := by
  -- that all segments so far are such segments is kept by every step, up or down
  induction ss generalizing done with
  | nil => exact start
  | cons s rest ih =>
    obtain ⟨first, others⟩ := List.forall_mem_cons.mp steps
    have higher : ∀ s ∈ above done, IsSegment s :=
      fun s mem => start s ((isPrefix_above done).subset mem)
    have entered {l : List (List Char)} {t : List Char} (start : ∀ s ∈ l, IsSegment s)
        (last : IsSegment t) : ∀ s ∈ l ++ [t], IsSegment s :=
      List.forall_mem_append.mpr ⟨start, List.forall_mem_singleton.mpr last⟩
    rw [follow]
    split
    · split
      · exact entered higher isSegment_nil
      · exact ih higher others
    split
    · split
      · exact entered start isSegment_nil
      · exact ih start others
    · next not_double not_single =>
      exact ih (entered start (first ((Bool.not_eq_true _).mp not_single)
        ((Bool.not_eq_true _).mp not_double))) others

/-- A text is read as segments. -/
theorem isSegment_of_mem_ofText {text : List Char} : ∀ s ∈ ofText true text, IsSegment s := by
  have inside (text : List Char) : ∀ s ∈ extend true [] text, IsSegment s :=
    isSegment_of_mem_follow (List.forall_mem_nil _) fun _ mem => isSegment_of_mem_steps mem
  cases text with
  | nil => exact List.forall_mem_singleton.mpr isSegment_nil
  | cons c rest =>
    rw [ofText]
    split
    · exact inside rest
    · exact inside (c :: rest)

/-- Segments are entered one after the other. -/
theorem follow_append (segments : ∀ s ∈ ss, IsSegment s) :
    follow done (ss ++ rest) = follow (done ++ ss) rest := by
  induction ss generalizing done with
  | nil => rw [List.nil_append, List.append_nil]
  | cons s ss ih =>
    obtain ⟨first, others⟩ := List.forall_mem_cons.mp segments
    rw [List.cons_append, follow, if_neg (by simp [first.not_double]),
      if_neg (by simp [first.not_single]), ih others, List.append_assoc]
    rfl

/-! ## Leads -/

/-- How many places a text leads up, and what it names from there. -/
structure Lead where
  up : Nat
  named : List (List Char)

namespace Lead

/-- The lead to the place above. Only where nothing is named does it go up. -/
def rise (l : Lead) : Lead := if l.named = [] then ⟨l.up + 1, []⟩ else ⟨l.up, above l.named⟩

def enter (l : Lead) (s : List Char) : Lead := ⟨l.up, l.named ++ [s]⟩

/-- The lead of further steps. -/
def go (l : Lead) : List (List Char) → Lead
  | [] => l
  | s :: rest =>
    if isDoubleDot s then
      if rest.isEmpty then l.rise.enter [] else go l.rise rest
    else if isSingleDot s then
      if rest.isEmpty then l.enter [] else go l rest
    else go (l.enter s) rest

/-- Where a lead ends from a place. -/
def target (l : Lead) (place : List (List Char)) : List (List Char) :=
  above^[l.up] place ++ l.named

variable {l : Lead}

theorem above_append_of_ne_nil {front back : List (List Char)} (any : back ≠ []) :
    above (front ++ back) = front ++ above back := by
  rw [above, above, List.getLast?_append, List.getLast?_eq_some_getLast any, Option.some_or]
  dsimp only
  rw [List.dropLast_append_of_ne_nil any]
  split <;> rfl

theorem target_rise : l.rise.target place = above (l.target place) := by
  rw [rise]
  split
  · next nothing =>
    rw [target, target, nothing, List.append_nil, List.append_nil, Function.iterate_succ_apply']
  · next any => rw [target, target, above_append_of_ne_nil any]

theorem target_enter {s : List Char} : (l.enter s).target place = l.target place ++ [s] :=
  (List.append_assoc ..).symm

/-- Steps lead from every place to where their lead does. -/
theorem follow_target : follow (l.target place) ss = (l.go ss).target place := by
  induction ss generalizing l with
  | nil => rfl
  | cons s rest ih =>
    -- both functions tell the steps apart alike, so it is enough to rise and to enter alike
    rw [follow, go, ← target_rise, ← target_enter, ← target_enter, ← target_enter, ih, ih, ih]
    split
    · split <;> rfl
    · split
      · split <;> rfl
      · rfl

theorem follow_eq_target : follow place ss = (go ⟨0, []⟩ ss).target place := by
  rw [← follow_target]
  exact congrArg (follow · ss) (List.append_nil place).symm

/-- Steps name something. -/
theorem named_go_ne_nil (any : ss ≠ []) : (l.go ss).named ≠ [] := by
  have entered (l : Lead) (s : List Char) : (l.enter s).named ≠ [] :=
    List.append_ne_nil_of_right_ne_nil _ (List.cons_ne_nil s [])
  induction ss generalizing l with
  | nil => exact absurd rfl any
  | cons s rest ih =>
    cases rest with
    | nil =>
      rw [go, go]
      split
      · exact entered l.rise []
      · split
        · exact entered l []
        · exact entered l s
    | cons next rest =>
      rw [go]
      split
      · exact ih (List.cons_ne_nil next rest)
      · split
        · exact ih (List.cons_ne_nil next rest)
        · exact ih (List.cons_ne_nil next rest)

theorem isPrefix_iterate_above (n : Nat) (place : List (List Char)) :
    above^[n] place <+: place := by
  induction n with
  | zero => exact List.prefix_rfl
  | succ n ih =>
    rw [Function.iterate_succ_apply']
    exact (isPrefix_above _).trans ih

/-- What a lead names begins with what it has left of a place, and goes on. -/
def Returns (l : Lead) (place : List (List Char)) : Prop :=
  ∃ left more, place = above^[l.up] place ++ left ∧ l.named = left ++ more ∧ more ≠ []

/-- A lead ends below a place exactly if it returns to it. -/
theorem exists_target_eq_append_iff :
    (∃ more, more ≠ [] ∧ l.target place = place ++ more) ↔ l.Returns place := by
  constructor
  · rintro ⟨more, any, ends⟩
    obtain ⟨left, split⟩ := isPrefix_iterate_above l.up place
    refine ⟨left, more, split.symm, ?_, any⟩
    have same : above^[l.up] place ++ l.named = above^[l.up] place ++ (left ++ more) := by
      rw [← List.append_assoc, split]
      exact ends
    exact List.append_cancel_left same
  · rintro ⟨left, more, split, named, any⟩
    refine ⟨more, any, ?_⟩
    rw [target, named, ← List.append_assoc, ← split]

/-- A lead that goes nowhere up returns if it names something. -/
theorem returns_of_up_eq_zero (flat : l.up = 0) (any : l.named ≠ []) : l.Returns place :=
  ⟨[], l.named, by rw [flat, List.append_nil]; rfl, rfl, any⟩

end Lead

/-! ## Written paths -/

@[simp] theorem chars_nil : (Path.rooted []).chars = [] := rfl

theorem chars_cons (s : List Char) (segments : List (List Char)) :
    (Path.rooted (s :: segments)).chars = '/' :: (s ++ (Path.rooted segments).chars) := rfl

theorem chars_concat (segments : List (List Char)) (s : List Char) :
    (Path.rooted (segments ++ [s])).chars = (Path.rooted segments).chars ++ '/' :: s := by
  rw [chars, chars, List.flatMap_append, List.flatMap_singleton]

/-- A path begins with a slash if anything. -/
theorem eq_slash_of_head?_chars (segments : List (List Char)) :
    ∀ c ∈ (Path.rooted segments).chars.head?, c = '/' := by
  cases segments with
  | nil => exact nofun
  | cons s segments =>
    rintro c ⟨⟩
    rfl

theorem exists_chars_append (segments : List (List Char)) (text : List Char) :
    ∃ x, (Path.rooted segments).chars ++ '/' :: text = '/' :: x := by
  cases segments with
  | nil => exact ⟨text, rfl⟩
  | cons s segments => exact ⟨_, rfl⟩

/-- Segments without slashes in them are told apart by the slashes behind them. -/
theorem append_prefix_append_iff {s t x y : List Char} (s_whole : '/' ∉ s) (t_whole : '/' ∉ t)
    (next : ∀ c ∈ y.head?, c = '/') :
    s ++ '/' :: x <+: t ++ y ↔ s = t ∧ '/' :: x <+: y := by
  constructor
  · rintro ⟨z, same⟩
    have up_to {u v : List Char} (whole : '/' ∉ u) (next : ∀ c ∈ v.head?, c = '/') :
        (u ++ v).takeWhile (· ≠ '/') = u := by
      have kept : ∀ c ∈ u, decide (c ≠ '/') = true := by
        rintro c mem
        exact decide_eq_true (by rintro rfl; exact whole mem)
      rw [List.takeWhile_append_of_pos kept]
      cases v with
      | nil => exact List.append_nil u
      | cons c v => rw [List.takeWhile_cons_of_neg (by simp [next c rfl]), List.append_nil]
    have front := congrArg (List.takeWhile (· ≠ '/')) same
    -- either segment is what stands in front of the first slash
    rw [List.append_assoc, up_to s_whole (by rintro c ⟨⟩; rfl), up_to t_whole next] at front
    subst front
    rw [List.append_assoc] at same
    exact ⟨rfl, z, List.append_cancel_left same⟩
  · rintro ⟨rfl, front⟩
    exact (List.prefix_append_right_inj s).mpr front

/-- A path stands in front of another one, and a slash behind it, exactly if its segments do and
further ones follow. -/
theorem prefix_chars_iff {front whole : List (List Char)} (front_whole : ∀ s ∈ front, '/' ∉ s)
    (whole_whole : ∀ s ∈ whole, '/' ∉ s) :
    (Path.rooted front).chars ++ ['/'] <+: (Path.rooted whole).chars ↔
      ∃ more, more ≠ [] ∧ whole = front ++ more := by
  -- the slash behind the front keeps a segment from matching the first part of a longer one
  induction front generalizing whole with
  | nil =>
    cases whole with
    | nil => simp
    | cons t whole => simp [chars_cons]
  | cons s front ih =>
    cases whole with
    | nil => simp [chars_cons]
    | cons t whole =>
      obtain ⟨s_whole, front_whole⟩ := List.forall_mem_cons.mp front_whole
      obtain ⟨t_whole, whole_whole⟩ := List.forall_mem_cons.mp whole_whole
      obtain ⟨x, begins⟩ := exists_chars_append front []
      rw [chars_cons, chars_cons, List.cons_append, List.cons_prefix_cons, List.append_assoc,
        begins, append_prefix_append_iff s_whole t_whole (eq_slash_of_head?_chars whole),
        ← begins, ih front_whole whole_whole]
      simp only [true_and, List.cons_append, List.cons.injEq]
      constructor
      · rintro ⟨rfl, more, any, rfl⟩
        exact ⟨more, any, rfl, rfl⟩
      · rintro ⟨more, any, rfl, rfl⟩
        exact ⟨rfl, more, any, rfl⟩

/-- Without the slashes at its end, a path is that of its segments without empty ones at the
end. -/
theorem rdropWhile_chars {segments : List (List Char)} (whole : ∀ s ∈ segments, '/' ∉ s) :
    (Path.rooted segments).chars.rdropWhile (· == '/') =
      (Path.rooted (segments.rdropWhile List.isEmpty)).chars := by
  induction segments using List.reverseRecOn with
  | nil => rfl
  | append_singleton segments s ih =>
    obtain ⟨front_whole, s_whole⟩ := List.forall_mem_append.mp whole
    rw [chars_concat]
    by_cases empty : s = []
    · rw [empty, List.rdropWhile_concat_pos _ _ _ rfl, List.rdropWhile_concat_pos _ _ _ rfl,
        ih front_whole]
    · obtain ⟨s, c, rfl⟩ := List.eq_nil_or_concat s |>.resolve_left empty
      have last : c ≠ '/' := by
        rintro rfl
        exact List.forall_mem_singleton.mp s_whole (by simp)
      have whole_text : (Path.rooted segments).chars ++ '/' :: s.concat c =
          ((Path.rooted segments).chars ++ '/' :: s) ++ [c] := by simp
      rw [List.rdropWhile_concat_neg _ _ _ (by simp), chars_concat, whole_text,
        List.rdropWhile_concat_neg _ _ _ (by simpa using last)]

/-- A segment and a slash are read as the segment. -/
theorem steps_append_cons {s : List Char} (segment : IsSegment s) (text : List Char) :
    steps (s ++ '/' :: text) = s :: steps text := by
  have kept : s.map (fun c => if isSlash true c = true then '/' else c) = s := by
    refine (List.map_congr_left fun c mem => ?_).trans (List.map_id s)
    rw [segment.whole c mem]
    rfl
  rw [steps, pieces, List.map_append, kept, List.map_cons]
  show List.map _ (List.splitOn '/' (s ++ '/' :: _)) = _
  rw [List.splitOn_append_cons_self_of_not_mem segment.slash_not_mem, List.map_cons,
    percentEncode_eq_self segment.encoded]
  rfl

/-- The text of segments, and of a path below them, is read as the segments and the path. -/
theorem steps_chars_append {segments : List (List Char)} (all : ∀ s ∈ segments, IsSegment s)
    (text : List Char) :
    steps ((Path.rooted segments).chars ++ '/' :: text).tail = segments ++ steps text := by
  induction segments with
  | nil => rfl
  | cons s segments ih =>
    obtain ⟨first, others⟩ := List.forall_mem_cons.mp all
    obtain ⟨x, begins⟩ := exists_chars_append segments text
    have rest := ih others
    rw [begins, List.tail_cons] at rest
    rw [chars_cons, List.cons_append, List.tail_cons, List.append_assoc, begins,
      steps_append_cons first, rest]
    rfl

end Path

end LoanGateway.Url
