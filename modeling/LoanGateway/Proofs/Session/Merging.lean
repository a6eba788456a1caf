import LoanGateway.Proofs.Session.Cookies

/-!
# Cookies of several header values

Reading cookies turns lists of header values that follow each other into unions of cookies, in which the
first value of a name counts. Only the pieces that hold a cookie matter, and it does not matter how they
are spread over header values.

- `Cookie.union`: the cookies of two lists, the first list before the second one.
- `Cookie.IsMalformed`: a piece that holds no cookie.
- `Cookie.SamePieces`: header values with the same pieces that hold cookies.
- `Cookie.IsFirst`: the cookie that the first piece with its name holds.
- `parseCookies_merges`: the main statement.
-/

namespace LoanGateway

namespace Cookie

/-! ## Unions -/

/-- The cookies of two lists. Those of the second one count under names that the first one does not
have. -/
def union (cookies others : List Cookie) : List Cookie :=
  cookies ++ others.filter fun cookie => cookie.1 ∉ cookies.map (·.1)

theorem not_mem_names_of_lookup {cookies : List Cookie} {name : String}
    (absent : cookies.lookup name = none) : name ∉ cookies.map (·.1) := by
  intro mem
  obtain ⟨cookie, held, rfl⟩ := List.mem_map.mp mem
  exact bne_iff_ne.mp (List.lookup_eq_none_iff.mp absent cookie held) rfl

/-- A value is looked up in the first list, and in the second one if the first one has none. -/
theorem lookup_union (cookies others : List Cookie) (name : String) :
    (union cookies others).lookup name = (cookies.lookup name).or (others.lookup name) := by
  rw [union, List.lookup_append]
  cases found : cookies.lookup name with
  | some value => rfl
  | none =>
    refine congrArg _ (lookup_filter_of_forall (fun value => ?_) others)
    exact decide_eq_true (not_mem_names_of_lookup found)

/-- Keeping the first cookies of two lists in a row keeps those of their union. -/
theorem keepFirst_append (cookies others : List Cookie) :
    keepFirst (cookies ++ others) = union (keepFirst cookies) (keepFirst others) := by
  induction cookies with
  | nil => exact (List.filter_eq_self.mpr fun cookie _ => decide_eq_true List.not_mem_nil).symm
  | cons cookie rest ih =>
    rw [List.cons_append, keepFirst, keepFirst, ih, union, union, List.filter_append,
      List.filter_filter, List.cons_append]
    refine congrArg _ (congrArg _ (List.filter_congr fun other _ => ?_))
    -- a name is new to all of them if it is not the first one and new to those that are left
    by_cases same : other.1 = cookie.1 <;> simp [same]

/-- Each name is kept once. -/
theorem nodup_keepFirst (cookies : List Cookie) : ((keepFirst cookies).map (·.1)).Nodup := by
  induction cookies with
  | nil => exact List.nodup_nil
  | cons cookie rest ih =>
    rw [keepFirst, List.map_cons, List.nodup_cons]
    refine ⟨fun mem => ?_, ih.sublist (List.filter_sublist.map _)⟩
    obtain ⟨other, kept, same⟩ := List.mem_map.mp mem
    exact of_decide_eq_true (List.mem_filter.mp kept).2 same

/-! ## Pieces that hold no cookie -/

/-- A piece that holds no cookie: it has no equals sign, or nothing but blanks before the first one. -/
def IsMalformed (piece : List Char) : Prop :=
  '=' ∉ piece ∨ Text.trim (piece.takeWhile (· ≠ '=')) = []

instance (piece : List Char) : Decidable (IsMalformed piece) :=
  inferInstanceAs (Decidable (_ ∨ _))

theorem ofPiece?_eq_none_iff {piece : List Char} : ofPiece? piece = none ↔ IsMalformed piece := by
  have passed : piece.dropWhile (· ≠ '=') = [] ↔ '=' ∉ piece := by
    rw [List.dropWhile_eq_nil_iff]
    exact ⟨fun others mem => by simpa using others '=' mem,
      fun absent c mem => decide_eq_true fun same => absent (same ▸ mem)⟩
  rw [IsMalformed, ← passed]
  unfold ofPiece?
  split
  · next none => exact ⟨fun _ => .inl none, fun _ => rfl⟩
  · next rest =>
    rw [rest]
    simp

/-- The pieces that hold cookies are the same, in the same order. -/
def SamePieces (values others : List String) : Prop :=
  (allPieces values).filter (¬ IsMalformed ·) = (allPieces others).filter (¬ IsMalformed ·)

instance (values others : List String) : Decidable (SamePieces values others) :=
  inferInstanceAs (Decidable (_ = _))

/-- Pieces that hold no cookie can be left out. -/
theorem all_eq_of_formed (values : List String) :
    all values = ((allPieces values).filter (¬ IsMalformed ·)).filterMap ofPiece? := by
  rw [all_eq, List.filterMap_filter]
  refine congrArg (List.filterMap · _) (funext fun piece => ?_)
  by_cases malformed : IsMalformed piece
  · simp [malformed, ofPiece?_eq_none_iff.mpr malformed]
  · simp [malformed]

/-! ## Header values in one -/

theorem all_singleton (value : String) : all [value] = (pieces value.toList).filterMap ofPiece? :=
  List.append_nil _

/-- Header values can be joined by semicolons. -/
theorem all_intercalate (values : List String) : all [";".intercalate values] = all values := by
  induction values with
  | nil => rfl
  | cons value rest ih =>
    cases rest with
    | nil => rw [String.intercalate_singleton]
    | cons next others =>
      have cut : pieces (";".intercalate (value :: next :: others)).toList =
          pieces value.toList ++ pieces (";".intercalate (next :: others)).toList := by
        rw [String.intercalate_cons_cons, String.toList_append, String.toList_append]
        exact List.append_assoc _ _ _ ▸ List.splitOn_append_cons_self _ _
      rw [all_singleton, cut, List.filterMap_append, ← all_singleton (";".intercalate _), ih]
      rfl

/-! ## The first piece of a name -/

/-- The first piece that holds a cookie of this name holds this cookie. -/
def IsFirst (values : List String) (cookie : Cookie) : Prop :=
  ∃ front piece back, allPieces values = front ++ piece :: back ∧ Holds piece cookie ∧
    ∀ p ∈ front, ∀ other, Holds p other → other.1 ≠ cookie.1

theorem lookup_all_eq_some_iff {values : List String} {name value : String} :
    (all values).lookup name = some value ↔ IsFirst values (name, value) := by
  rw [all_eq, List.lookup_eq_some_iff]
  constructor
  · rintro ⟨before, after, split, others⟩
    obtain ⟨front, rest, pieces, rfl, taken⟩ := List.filterMap_eq_append_iff.mp split
    obtain ⟨skipped, piece, back, rfl, empty, held, -⟩ := List.filterMap_eq_cons_iff.mp taken
    refine ⟨front ++ skipped, piece, back, ?_, ofPiece?_eq_some_iff.mp held, ?_⟩
    · rw [pieces, List.append_assoc]
    · intro p mem other holds
      have read := ofPiece?_eq_some_iff.mpr holds
      rcases List.mem_append.mp mem with early | late
      · have apart := others other (List.mem_filterMap.mpr ⟨p, early, read⟩)
        exact (bne_iff_ne.mp apart).symm
      · exact nomatch (empty p late).symm.trans read
  · rintro ⟨front, piece, back, split, holds, others⟩
    refine ⟨front.filterMap ofPiece?, back.filterMap ofPiece?, ?_, fun other mem => ?_⟩
    · rw [split, List.filterMap_append,
        List.filterMap_cons_some (ofPiece?_eq_some_iff.mpr holds)]
    · obtain ⟨p, early, read⟩ := List.mem_filterMap.mp mem
      exact bne_iff_ne.mpr (others p early other (ofPiece?_eq_some_iff.mp read)).symm

end Cookie

open Cookie

/-! ## What is read -/

/-- Header values that follow each other are read as the union of what each part of them is read as:
under a name there is the value of the first part, and if it has none that of the second part. Header
values may as well be joined by semicolons to a single one. Pieces that hold no cookie change nothing,
wherever they stand. Each name is there once, with the value of the first piece that holds a cookie of
exactly this name. -/
theorem parseCookies_merges (values others : List String) :
    parseCookies (values ++ others) = union (parseCookies values) (parseCookies others) ∧
      (∀ name, (parseCookies (values ++ others)).lookup name =
        ((parseCookies values).lookup name).or ((parseCookies others).lookup name)) ∧
      parseCookies [";".intercalate values] = parseCookies values ∧
      (SamePieces values others → parseCookies values = parseCookies others) ∧
      ((parseCookies values).map (·.1)).Nodup ∧
      ∀ name value, (parseCookies values).lookup name = some value ↔
        IsFirst values (name, value) := by
  have merged : parseCookies (values ++ others) =
      union (parseCookies values) (parseCookies others) := by
    rw [parseCookies, all, List.flatMap_append]
    exact keepFirst_append _ _
  refine ⟨merged, fun name => ?_, ?_, fun same => ?_, nodup_keepFirst _, fun name value => ?_⟩
  · rw [merged, lookup_union]
  · rw [parseCookies, all_intercalate, parseCookies]
  · rw [parseCookies, all_eq_of_formed, same, ← all_eq_of_formed, parseCookies]
  · rw [parseCookies, lookup_keepFirst, lookup_all_eq_some_iff]

/-- Cookies in two header values, among pieces that hold none, and the same cookies in one. -/
theorem spread_cookies_merge :
    let values := ["id=1; HttpOnly;Id =2;; =3", "id=4; a = b=c "]
    let others := ["id=1;Id =2;id=4; a = b=c "]
    SamePieces values others ∧ parseCookies values = parseCookies others ∧
      parseCookies values = [("id", "1"), ("Id", "2"), ("a", "b=c")] := by
  intro values others
  have same : SamePieces values others := by decide +kernel
  obtain ⟨_, _, _, equal, _⟩ := parseCookies_merges values others
  exact ⟨same, equal same, by decide +kernel⟩

end LoanGateway
