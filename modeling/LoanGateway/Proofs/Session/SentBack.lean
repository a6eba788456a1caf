import LoanGateway.Proofs.Session.Cookies
import LoanGateway.Proofs.Session.Headers
import LoanGateway.Proofs.Text.Pieces

/-!
# Sessions that are sent back

A session is sent back in a cookie of its own, and nothing in it is escaped. The cookie is read as the
session again and as nothing else, because a session that was read from an answer holds no semicolon and
has no blanks at its ends.

- `Cookie.IsPlain`: a value that stands in a cookie as it is.
- `Cookie.isPlain_of_mem_all`: all values that are read from cookies are plain.
- `parseCookies_sessionHeader_iff`: the plain sessions are those that come back alone.
- `session_comes_back_alone`: the main statement.
-/

namespace LoanGateway

namespace Cookie

/-! ## Plain values -/

/-- A value that stands in a cookie as it is: it does not end the cookie, and trimming takes nothing
away. -/
structure IsPlain (value : String) : Prop where
  whole : ';' ∉ value.toList
  begins : ∀ c, value.toList.head? = some c → Text.isBlank c = false
  ends : ∀ c, value.toList.getLast? = some c → Text.isBlank c = false

theorem isPlain_of_holds {piece : List Char} {cookie : Cookie} (holds : Holds piece cookie)
    (whole : ';' ∉ piece) : IsPlain cookie.2 := by
  obtain ⟨left, right, rfl, _, _, rfl⟩ := holds
  have chars : (String.ofList (Text.trim right)).toList = Text.trim right := String.toList_ofList
  exact
    { whole := fun mem => by
        rw [chars] at mem
        exact whole (List.mem_append_right _ (List.mem_cons_of_mem _ (Text.mem_of_mem_trim mem)))
      begins := fun c first => Text.isBlank_of_head?_trim (chars ▸ first)
      ends := fun c last => Text.isBlank_of_getLast?_trim (chars ▸ last) }

theorem whole_of_mem_allPieces {values : List String} {piece : List Char}
    (mem : piece ∈ allPieces values) : ';' ∉ piece := by
  obtain ⟨value, _, cut⟩ := List.mem_flatMap.mp mem
  exact fun inside => (Text.mem_of_mem_splitOn cut inside).2 rfl

/-- All values that are read from cookies are plain. -/
theorem isPlain_of_mem_all {values : List String} {cookie : Cookie} (mem : cookie ∈ all values) :
    IsPlain cookie.2 := by
  obtain ⟨value, given, read⟩ := List.mem_flatMap.mp mem
  obtain ⟨piece, cut, holds⟩ := List.mem_filterMap.mp read
  exact isPlain_of_holds (ofPiece?_eq_some_iff.mp holds)
    (whole_of_mem_allPieces (List.mem_flatMap.mpr ⟨value, given, cut⟩))

theorem mem_of_mem_keepFirst {cookies : List Cookie} {cookie : Cookie}
    (mem : cookie ∈ keepFirst cookies) : cookie ∈ cookies := by
  induction cookies with
  | nil => exact mem
  | cons first rest ih =>
    rcases List.mem_cons.mp mem with rfl | later
    · exact List.mem_cons_self
    · exact List.mem_cons_of_mem _ (ih (List.mem_filter.mp later).1)

end Cookie

open Cookie

variable {values : List String} {id : String}

/-! ## The cookie that is sent -/

theorem toList_sessionHeader (id : String) :
    (sessionHeader id).toList = sessionCookieName.toList ++ '=' :: id.toList := by
  simp [sessionHeader]

/-- A plain session is all that its cookie holds. -/
theorem all_sessionHeader (plain : IsPlain id) :
    all [sessionHeader id] = [(sessionCookieName, id)] := by
  have one : pieces (sessionHeader id).toList = [(sessionHeader id).toList] := by
    refine List.splitOn_eq_singleton ?_
    rw [toList_sessionHeader, List.mem_append, List.mem_cons]
    rintro (named | equals | inside)
    · exact absurd named (by decide)
    · cases equals
    · exact plain.whole inside
  have held : Holds (sessionHeader id).toList (sessionCookieName, id) := by
    refine ⟨_, _, toList_sessionHeader id, by decide, by decide, ?_⟩
    have name : String.ofList (Text.trim sessionCookieName.toList) = sessionCookieName := by decide
    rw [name, Text.trim_eq_self plain.begins plain.ends, String.ofList_toList]
  unfold all
  rw [List.flatMap_singleton, one, List.filterMap_cons_some (ofPiece?_eq_some_iff.mpr held)]
  rfl

/-- The sessions that come back alone are the plain ones. -/
theorem parseCookies_sessionHeader_iff :
    parseCookies [sessionHeader id] = [(sessionCookieName, id)] ↔ IsPlain id := by
  constructor
  · intro alone
    have mem : (sessionCookieName, id) ∈ parseCookies [sessionHeader id] := by
      rw [alone]
      exact List.mem_singleton_self _
    exact isPlain_of_mem_all (mem_of_mem_keepFirst mem)
  · intro plain
    rw [parseCookies, all_sessionHeader plain]
    rfl

/-- A session that is found is plain. -/
theorem isPlain_of_sessionId? (found : sessionId? values = some id) : IsPlain id := by
  obtain ⟨_, rest, named⟩ := sessionId?_eq_some_iff.mp found
  have mem : id ∈ sessions values := by
    rw [named]
    exact List.mem_cons_self
  obtain ⟨piece, cut, names⟩ := List.mem_filterMap.mp mem
  exact isPlain_of_holds (session?_eq_some_iff.mp names) (whole_of_mem_allPieces cut)

/-- The request for a token carries its session, unless the key takes the place of the cookie. -/
theorem Handshake.cookie_tokenRequest {settings : IdentitySettings}
    (other : Text.lowercaseString settings.apiKeyHeader ≠ "cookie") :
    (tokenRequest settings id).header? "cookie" = some (sessionHeader id) := by
  have set := Request.header?_header_self
    ((Request.new .get settings.tokenUrl.text).header "content-type"
      "application/x-www-form-urlencoded") "cookie" (sessionHeader id)
  rw [lowercase_cookie] at set
  rw [tokenRequest, Request.header?_withTimeout, Request.header?_header_of_ne _ other, set]

/-- A session that is found in an answer is not empty, holds no semicolon and has no blanks at its ends.
So the cookie that sends it back is read as this session again and holds no other cookie, and it is the
cookie of the request for a token, unless the key takes its place. -/
theorem session_comes_back_alone (found : sessionId? values = some id) :
    id ≠ "" ∧ IsPlain id ∧ sessionId? [sessionHeader id] = some id ∧
      parseCookies [sessionHeader id] = [(sessionCookieName, id)] ∧
      ∀ settings, Text.lowercaseString settings.apiKeyHeader ≠ "cookie" →
        (Handshake.tokenRequest settings id).header? "cookie" = some (sessionHeader id) := by
  have plain := isPlain_of_sessionId? found
  have alone := parseCookies_sessionHeader_iff.mpr plain
  obtain ⟨full, _⟩ := sessionId?_eq_some_iff.mp found
  refine ⟨full, plain, ?_, alone, fun settings => Handshake.cookie_tokenRequest⟩
  rw [sessionId?, alone, List.lookup_cons_self]
  exact Option.filter_eq_some_iff.mpr ⟨rfl, by simpa using full⟩

/-- A session with an equals sign and quotes, among blanks of several kinds. -/
theorem quoted_session_comes_back_alone :
    let values := ["Path=/; JSESSIONID", "\u00A0JSESSIONID\t= \"a=b\" c\u2003;Secure"]
    sessionId? values = some "\"a=b\" c" ∧
      parseCookies [sessionHeader "\"a=b\" c"] = [("JSESSIONID", "\"a=b\" c")] := by
  intro values
  have found : sessionId? values = some "\"a=b\" c" := by decide +kernel
  obtain ⟨_, _, _, alone, _⟩ := session_comes_back_alone found
  exact ⟨found, alone⟩

end LoanGateway
