import LoanGateway.Session.Cookie
import Mathlib.Data.List.TakeWhile

/-!
# Sessions among cookies

Header values are pieces between semicolons, and some of the pieces name a session. The first of these
pieces decides, even when the session that it names is empty: then a session behind it stays hidden.

- `Cookie.Holds`: a piece holds a cookie; `Cookie.ofPiece?_eq_some_iff`: it is the one that is read.
- `Cookie.lookup_keepFirst`: leaving out repeated names changes no value that is looked up.
- `Cookie.Names`, `Cookie.sessions`: the sessions that pieces name, in order.
- `IsFirstSession`: the first session that is not empty.
- `HidesSession`: an empty session stands in front of one that is not empty.
- `first_session_found_iff`: the first session that is not empty is found unless it is hidden.
-/

namespace LoanGateway

namespace Cookie

/-! ## Cookies of pieces -/

/-- A piece holds a cookie: a name that is not blank and a value, on both sides of the first equals
sign and without the blanks around them. -/
def Holds (piece : List Char) (cookie : Cookie) : Prop :=
  ∃ left right, piece = left ++ '=' :: right ∧ '=' ∉ left ∧ Text.trim left ≠ [] ∧
    cookie = (String.ofList (Text.trim left), String.ofList (Text.trim right))

/-- The first equals sign parts a piece. -/
theorem takeWhile_of_not_mem {left : List Char} (first : '=' ∉ left) (right : List Char) :
    (left ++ '=' :: right).takeWhile (· ≠ '=') = left ∧
      (left ++ '=' :: right).dropWhile (· ≠ '=') = '=' :: right := by
  have others : ∀ c ∈ left, decide (c ≠ '=') = true := by
    intro c mem
    exact decide_eq_true fun same => first (same ▸ mem)
  constructor
  · rw [List.takeWhile_append_of_pos others, List.takeWhile_cons_of_neg (by simp), List.append_nil]
  · rw [List.dropWhile_append_of_pos others, List.dropWhile_cons_of_neg (by simp)]

/-- The cookie of a piece is the one that the piece holds. -/
theorem ofPiece?_eq_some_iff {piece : List Char} {cookie : Cookie} :
    ofPiece? piece = some cookie ↔ Holds piece cookie := by
  constructor
  · intro read
    unfold ofPiece? at read
    split at read
    · exact nomatch read
    · next c right rest =>
      dsimp only at read
      split at read
      · exact nomatch read
      · next named =>
        obtain rfl : c = '=' := by
          have stops := List.head?_dropWhile_not (· ≠ '=') piece
          rw [rest] at stops
          simpa using stops
        refine ⟨piece.takeWhile (· ≠ '='), right, ?_, ?_, by simpa using named,
          (Option.some.inj read).symm⟩
        · rw [← rest, List.takeWhile_append_dropWhile]
        · intro mem
          simpa using List.mem_takeWhile_imp mem
  · rintro ⟨left, right, rfl, first, named, rfl⟩
    obtain ⟨front, back⟩ := takeWhile_of_not_mem first right
    unfold ofPiece?
    rw [front, back]
    exact if_neg (by simpa using named)

/-- Cookies of other names can be left out. -/
theorem lookup_filter_of_forall {name : String} {keep : Cookie → Bool}
    (kept : ∀ value, keep (name, value) = true) (cookies : List Cookie) :
    (cookies.filter keep).lookup name = cookies.lookup name := by
  induction cookies with
  | nil => rfl
  | cons cookie rest ih =>
    by_cases stays : keep cookie = true
    · rw [List.filter_cons_of_pos stays, List.lookup_cons, List.lookup_cons, ih]
    · have other : name ≠ cookie.1 := by
        rintro rfl
        exact stays (kept cookie.2)
      have passed : (name == cookie.1) = false := beq_eq_false_iff_ne.mpr other
      rw [List.filter_cons_of_neg stays, ih, List.lookup_cons, passed]

/-- A cookie that is kept is the first of its name. -/
theorem lookup_keepFirst (cookies : List Cookie) (name : String) :
    (keepFirst cookies).lookup name = cookies.lookup name := by
  induction cookies with
  | nil => rfl
  | cons cookie rest ih =>
    rw [keepFirst, List.lookup_cons, List.lookup_cons]
    split
    · rfl
    · next other =>
      have kept (value : String) : decide ((name, value).1 ≠ cookie.1) = true := by
        simpa using other
      rw [lookup_filter_of_forall kept, ih]

/-! ## Sessions of pieces -/

/-- The pieces of some header values, in order. -/
def allPieces (values : List String) : List (List Char) :=
  values.flatMap fun value => pieces value.toList

theorem all_eq (values : List String) : all values = (allPieces values).filterMap ofPiece? := by
  rw [all, allPieces, List.filterMap_flatMap]

/-- A piece names a session. -/
def Names (piece : List Char) (id : String) : Prop := Holds piece (sessionCookieName, id)

/-- The session that a piece names. -/
def session? (piece : List Char) : Option String :=
  (ofPiece? piece).bind fun cookie => if cookie.1 = sessionCookieName then some cookie.2 else none

theorem session?_eq_some_iff {piece : List Char} {id : String} :
    session? piece = some id ↔ Names piece id := by
  rw [session?, Option.bind_eq_some_iff]
  constructor
  · rintro ⟨⟨name, value⟩, read, same⟩
    split at same
    · next named =>
      obtain rfl := Option.some.inj same
      obtain rfl : name = sessionCookieName := named
      exact ofPiece?_eq_some_iff.mp read
    · exact nomatch same
  · intro names
    exact ⟨_, ofPiece?_eq_some_iff.mpr names, if_pos rfl⟩

theorem session?_eq_none_iff {piece : List Char} :
    session? piece = none ↔ ∀ id, ¬ Names piece id := by
  rw [Option.eq_none_iff_forall_ne_some]
  exact forall_congr' fun id => not_congr session?_eq_some_iff

/-- The sessions that some header values name, in order. -/
def sessions (values : List String) : List String := (allPieces values).filterMap session?

/-- The first session decides. -/
theorem sessionId?_eq (values : List String) :
    sessionId? values = (sessions values).head?.filter (!·.isEmpty) := by
  have found : (all values).lookup sessionCookieName = (sessions values).head? := by
    rw [List.lookup_eq_findSome?, ← List.head?_filterMap, all_eq, List.filterMap_filterMap]
    simp only [beq_iff_eq, eq_comm (a := sessionCookieName)]
    rfl
  rw [sessionId?, parseCookies, lookup_keepFirst, found]

theorem sessionId?_eq_some_iff {values : List String} {id : String} :
    sessionId? values = some id ↔ id ≠ "" ∧ ∃ rest, sessions values = id :: rest := by
  rw [sessionId?_eq]
  cases sessions values with
  | nil => simp
  | cons first rest =>
    rw [List.head?_cons, Option.filter_eq_some_iff]
    constructor
    · rintro ⟨same, full⟩
      obtain rfl := Option.some.inj same
      exact ⟨by simpa using full, rest, rfl⟩
    · rintro ⟨full, _, same⟩
      obtain ⟨rfl, _⟩ := List.cons.inj same
      exact ⟨rfl, by simpa using full⟩

end Cookie

open Cookie

/-! ## The session that is found -/

/-- The first session that is not empty among the pieces of some header values. -/
def IsFirstSession (values : List String) (id : String) : Prop :=
  ∃ front piece back, allPieces values = front ++ piece :: back ∧ Names piece id ∧ id ≠ "" ∧
    ∀ p ∈ front, ∀ other, Names p other → other = ""

/-- The first session is empty, and one behind it is not. -/
def HidesSession (values : List String) : Prop :=
  ∃ front piece back, allPieces values = front ++ piece :: back ∧ Names piece "" ∧
    (∀ p ∈ front, ∀ other, ¬ Names p other) ∧ ∃ p ∈ back, ∃ id, Names p id ∧ id ≠ ""

theorem isFirstSession_iff {values : List String} {id : String} :
    IsFirstSession values id ↔ (sessions values).find? (!·.isEmpty) = some id := by
  have skipped (p : List Char) : (∀ other, Names p other → other = "") ↔
      Option.any (fun id : String => !id.isEmpty) (session? p) = false := by
    simp only [← session?_eq_some_iff]
    cases session? p <;> simp
  rw [sessions, List.find?_filterMap, Option.bind_eq_some_iff]
  simp only [List.find?_eq_some_iff_append]
  constructor
  · rintro ⟨front, piece, back, split, names, full, empty⟩
    rw [← session?_eq_some_iff] at names
    refine ⟨piece, ⟨by simpa [names] using full, front, back, split, ?_⟩, names⟩
    exact fun p mem => by simpa using (skipped p).mp (empty p mem)
  · rintro ⟨piece, ⟨full, front, back, split, empty⟩, names⟩
    rw [names] at full
    refine ⟨front, piece, back, split, session?_eq_some_iff.mp names, by simpa using full, ?_⟩
    exact fun p mem => (skipped p).mpr (by simpa using empty p mem)

theorem hidesSession_iff {values : List String} :
    HidesSession values ↔ ∃ rest, sessions values = "" :: rest ∧ ∃ id ∈ rest, id ≠ "" := by
  simp only [sessions, List.filterMap_eq_cons_iff, session?_eq_none_iff, session?_eq_some_iff]
  constructor
  · rintro ⟨front, piece, back, split, names, nameless, p, mem, id, named, full⟩
    refine ⟨_, ⟨front, piece, back, split, nameless, names, rfl⟩, id, ?_, full⟩
    exact List.mem_filterMap.mpr ⟨p, mem, session?_eq_some_iff.mpr named⟩
  · rintro ⟨_, ⟨front, piece, back, split, nameless, names, rfl⟩, id, mem, full⟩
    obtain ⟨p, mem, named⟩ := List.mem_filterMap.mp mem
    exact ⟨front, piece, back, split, names, nameless, p, mem, id, session?_eq_some_iff.mp named,
      full⟩

/-- Behind an empty session nothing is found. -/
theorem sessionId?_of_hidesSession {values : List String} (hides : HidesSession values) :
    sessionId? values = none ∧ ∃ id, IsFirstSession values id := by
  obtain ⟨rest, named, id, mem, full⟩ := hidesSession_iff.mp hides
  constructor
  · rw [sessionId?_eq, named]
    rfl
  · have behind : (rest.find? (!·.isEmpty)).isSome = true :=
      List.find?_isSome.mpr ⟨id, mem, by simpa using full⟩
    obtain ⟨first, found⟩ := Option.isSome_iff_exists.mp behind
    refine ⟨first, isFirstSession_iff.mpr ?_⟩
    rw [named]
    exact found

/-- A session that is found is the first one that is not empty. That one is found exactly if no empty
session hides it. Behind an empty session nothing is found. -/
theorem first_session_found_iff (values : List String) :
    (∀ id, sessionId? values = some id → IsFirstSession values id) ∧
      ((∀ id, sessionId? values = some id ↔ IsFirstSession values id) ↔ ¬ HidesSession values) ∧
      (HidesSession values → sessionId? values = none ∧ ∃ id, IsFirstSession values id) := by
  have right (id : String) (found : sessionId? values = some id) : IsFirstSession values id := by
    obtain ⟨full, rest, named⟩ := sessionId?_eq_some_iff.mp found
    rw [isFirstSession_iff, named]
    exact List.find?_cons_of_pos (by simpa using full)
  refine ⟨right, ⟨fun law hides => ?_, fun unhidden id => ⟨right id, fun first => ?_⟩⟩,
    sessionId?_of_hidesSession⟩
  · obtain ⟨lost, id, first⟩ := sessionId?_of_hidesSession hides
    exact nomatch lost.symm.trans ((law id).mpr first)
  · have found := isFirstSession_iff.mp first
    obtain ⟨_, _, _, _, _, full, _⟩ := first
    refine sessionId?_eq_some_iff.mpr ⟨full, ?_⟩
    cases named : sessions values with
    | nil =>
      rw [named] at found
      exact nomatch found
    | cons other rest =>
      rw [named] at found
      by_cases empty : other = ""
      · subst empty
        have mem : id ∈ rest := List.mem_of_find?_eq_some found
        exact absurd (hidesSession_iff.mpr ⟨rest, named, id, mem, full⟩) unhidden
      · rw [List.find?_cons_of_pos (by simpa using empty)] at found
        exact ⟨rest, by rw [Option.some.inj found]⟩

/-- A cookie that clears an old session hides the new one. -/
theorem cleared_session_hides_new_one :
    let values := ["JSESSIONID=; Path=/", "JSESSIONID=42; Path=/"]
    HidesSession values ∧ IsFirstSession values "42" ∧ sessionId? values = none := by
  intro values
  have named : sessions values = ["", "42"] := by decide +kernel
  have hides : HidesSession values :=
    hidesSession_iff.mpr ⟨["42"], named, "42", List.mem_singleton_self _, by decide⟩
  refine ⟨hides, isFirstSession_iff.mpr (by rw [named]; rfl), ?_⟩
  rw [sessionId?_eq, named]
  rfl

end LoanGateway
