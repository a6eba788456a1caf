import LoanGateway.Proofs.Checks
import LoanGateway.Proofs.Url.Segments
import LoanGateway.Settings.Backend

/-!
# Where requests go

Accepted settings have a base address of the web. The address of a path is at the same host, but
segments of dots may lead it out of the base path.

- `Url.exists_path_of_parse?`: the path of an address of the web.
- `BackendSettings.exists_segments`: the base path of accepted settings.
- `Url.below_eq`: an address below another one.
- `BackendSettings.urlFor_eq_target`: the address of a path.
- `BackendSettings.urlFor_stays_iff`: which paths stay below the base path.
-/

namespace LoanGateway

namespace Url

/-! ## Addresses of the web -/

theorem exists_path_of_withAuthority? {scheme s : List Char} {u : Url}
    (read : withAuthority? scheme s = some u) :
    u.scheme = scheme ∧ ∃ text, u.path = .rooted (Path.ofText (isSpecial scheme) text) := by
  obtain ⟨⟨authority, rest⟩, _, read⟩ := Option.bind_eq_some_iff.mp read
  obtain rfl := Option.some.inj read
  exact ⟨rfl, _, rfl⟩

theorem scheme_of_file? {scheme s : List Char} {u : Url} (read : file? scheme s = some u) :
    u.scheme = scheme := by
  have made {α : Type} {o : Option α} {make : α → Url} (read : (do return make (← o)) = some u)
      (same : ∀ a, (make a).scheme = scheme) : u.scheme = scheme := by
    obtain ⟨a, _, read⟩ := Option.bind_eq_some_iff.mp read
    obtain rfl := Option.some.inj read
    exact same a
  unfold file? at read
  split at read
  · split at read
    · exact made read fun _ => rfl
    · exact made read fun _ => rfl
  · exact made read fun _ => rfl

theorem scheme_of_other? {scheme s : List Char} {u : Url} (read : other? scheme s = some u) :
    u.scheme = scheme := by
  unfold other? at read
  split at read
  · exact (exists_path_of_withAuthority? read).1
  · split at read
    split at read
    · obtain rfl := Option.some.inj read
      rfl
    · obtain rfl := Option.some.inj read
      rfl

/-- An address of the web has a path of segments. -/
theorem exists_path_of_parse? {raw : String} {u : Url} (read : parse? none raw = some u)
    (web : isSpecial u.scheme = true) (no_file : isFile u.scheme = false) :
    ∃ text, u.path = .rooted (Path.ofText true text) := by
  unfold parse? at read
  dsimp only at read
  split at read
  -- every reader keeps the scheme, so the scheme tells which reader it was
  · next scheme rest _ =>
    split at read
    · next file =>
      rw [scheme_of_file? read, file] at no_file
      exact nomatch no_file
    split at read
    · next special =>
      obtain ⟨_, text, path⟩ := exists_path_of_withAuthority? read
      exact ⟨text, special ▸ path⟩
    · next other =>
      rw [scheme_of_other? read] at web
      exact absurd web other
  · exact nomatch read

/-! ## Addresses below an address -/

/-- Where a text leads that is put behind a path and a slash. -/
def Path.leadOf (text : List Char) : Path.Lead :=
  .go ⟨0, []⟩ (Path.steps (withoutBreaks (text.dropWhile (· == '/'))))

/-- Segments hold no tabs and line ends. -/
theorem withoutBreaks_chars {segments : List (List Char)}
    (all : ∀ s ∈ segments, Path.IsSegment s) :
    withoutBreaks (Path.rooted segments).chars = (Path.rooted segments).chars := by
  refine List.filter_eq_self.mpr fun c mem => decide_eq_true fun is_break => ?_
  obtain ⟨s, inside, mem⟩ := List.mem_flatMap.mp mem
  rcases List.mem_cons.mp mem with rfl | mem
  · exact absurd is_break (by decide)
  · have free := (all s inside).encoded c mem
    have taken : ['\t', '\n', '\r'].all pathSet = true := by decide
    rw [List.all_eq_true.mp taken c is_break] at free
    exact nomatch free

/-- An address below another one differs from it in the path, which is where the text leads from the
segments of the other one. -/
theorem below_eq {u : Url} {segments : List (List Char)} (web : isSpecial u.scheme = true)
    (path : u.path = .rooted segments) (all : ∀ s ∈ segments, Path.IsSegment s)
    (text : List Char) :
    u.below text = { u with
      path := .rooted ((Path.leadOf text).target (segments.rdropWhile List.isEmpty)) } := by
  have kept : ∀ s ∈ segments.rdropWhile List.isEmpty, Path.IsSegment s :=
    fun s mem => all s ((List.rdropWhile_prefix ..).subset mem)
  have whole : ∀ s ∈ segments, '/' ∉ s := fun s mem => (all s mem).slash_not_mem
  obtain ⟨x, begins⟩ := Path.exists_chars_append (segments.rdropWhile List.isEmpty)
    (withoutBreaks (text.dropWhile (· == '/')))
  have joined : withoutBreaks (u.path.chars.rdropWhile (· == '/') ++
      '/' :: text.dropWhile (· == '/')) = '/' :: x := by
    rw [path, Path.rdropWhile_chars whole, ← begins, withoutBreaks, List.filter_append,
      ← withoutBreaks, withoutBreaks_chars kept]
    rfl
  -- the base path is written and read again together with the text, and its segments come back
  have read := Path.steps_chars_append kept (withoutBreaks (text.dropWhile (· == '/')))
  rw [begins, List.tail_cons] at read
  show { u with path := .rooted (Path.ofText (isSpecial u.scheme) (withoutBreaks
    (u.path.chars.rdropWhile (· == '/') ++ '/' :: text.dropWhile (· == '/')))) } = _
  rw [web, joined]
  show { u with path := .rooted (Path.follow [] (Path.steps x)) } = _
  rw [read, Path.follow_append kept]
  exact congrArg (fun segments => { u with path := .rooted segments }) Path.Lead.follow_eq_target

end Url

namespace Settings

/-- An accepted base address is one of the web. -/
theorem exists_parse?_of_requiredUrl {field : String} {value : Option String} {u : Url}
    (accepted : requiredUrl field value = .ok u) :
    ∃ raw, Url.parse? none raw = some u ∧
      (u.scheme = "http".toList ∨ u.scheme = "https".toList) := by
  obtain ⟨raw, _, read⟩ := bind_eq_ok_iff.mp accepted
  cases parsed : Url.parse? none raw with
  | none => simp [parsed, throw, throwThe, MonadExceptOf.throw] at read
  | some v =>
    simp only [parsed] at read
    split at read
    · next web =>
      obtain rfl := Except.ok.inj read
      exact ⟨raw, parsed, by simpa using web⟩
    · exact nomatch read

end Settings

namespace BackendSettings

open Url

/-- The base address of accepted settings was read as an address of the web. -/
theorem exists_parse? {settings : List BackendSetting} {s : BackendSettings}
    (accepted : ofList settings = .ok s) : (∃ raw, Url.parse? none raw = some s.baseUrl) ∧
      isSpecial s.baseUrl.scheme = true ∧ isFile s.baseUrl.scheme = false := by
  have required : ∃ value, Settings.requiredUrl "base_url" value = .ok s.baseUrl := by
    unfold ofList BackendForm.build at accepted
    cases fault : (settings.foldl BackendForm.enter {}).fault with
    | some e =>
      rw [fault] at accepted
      exact nomatch accepted
    | none =>
      rw [fault] at accepted
      obtain ⟨u, baseUrl, accepted⟩ := bind_eq_ok_iff.mp accepted
      obtain ⟨_, _, accepted⟩ := bind_eq_ok_iff.mp accepted
      obtain rfl := Except.ok.inj accepted
      exact ⟨_, baseUrl⟩
  obtain ⟨value, required⟩ := required
  obtain ⟨raw, parsed, web⟩ := Settings.exists_parse?_of_requiredUrl required
  refine ⟨⟨raw, parsed⟩, ?_⟩
  rcases web with scheme | scheme
  · rw [scheme]
    decide
  · rw [scheme]
    decide

/-- The base address of accepted settings is one of the web, and its path is made of segments. -/
theorem exists_segments {settings : List BackendSetting} {s : BackendSettings}
    (accepted : ofList settings = .ok s) : isSpecial s.baseUrl.scheme = true ∧
      ∃ segments, s.baseUrl.path = .rooted segments ∧ ∀ t ∈ segments, Path.IsSegment t := by
  obtain ⟨⟨_, parsed⟩, web, no_file⟩ := exists_parse? accepted
  obtain ⟨text, path⟩ := exists_path_of_parse? parsed web no_file
  exact ⟨web, _, path, Path.isSegment_of_mem_ofText⟩

/-- The segments of the base path, without empty ones at its end. -/
def baseSegments (s : BackendSettings) : List (List Char) :=
  (s.baseUrl.segments?.getD []).rdropWhile List.isEmpty

theorem baseSegments_eq {s : BackendSettings} {segments : List (List Char)}
    (base : s.baseUrl.path = .rooted segments) :
    s.baseSegments = segments.rdropWhile List.isEmpty := by
  rw [baseSegments, segments?, base]
  cases segments <;> rfl

/-- The base path without the slashes at its end. -/
def basePath (s : BackendSettings) : List Char := s.baseUrl.path.chars.rdropWhile (· == '/')

section

variable {settings : List BackendSetting} {s : BackendSettings}

theorem isSegment_of_mem_baseSegments (accepted : ofList settings = .ok s) :
    ∀ t ∈ s.baseSegments, Path.IsSegment t := by
  obtain ⟨_, segments, base, all⟩ := exists_segments accepted
  rw [baseSegments_eq base]
  exact fun t mem => all t ((List.rdropWhile_prefix ..).subset mem)

theorem basePath_eq_chars (accepted : ofList settings = .ok s) :
    s.basePath = (Path.rooted s.baseSegments).chars := by
  obtain ⟨_, segments, base, all⟩ := exists_segments accepted
  rw [basePath, base, Path.rdropWhile_chars fun t mem => (all t mem).slash_not_mem,
    baseSegments_eq base]

/-- The address of a path is where the path leads from the base path. -/
theorem urlFor_eq_target (accepted : ofList settings = .ok s) (path : String) :
    s.urlFor path = { s.baseUrl with
      path := .rooted ((Path.leadOf path.toList).target s.baseSegments) } := by
  obtain ⟨web, segments, base, all⟩ := exists_segments accepted
  rw [urlFor, below_eq web base all, baseSegments_eq base]

theorem prefix_urlFor_iff (accepted : ofList settings = .ok s) (path : String) :
    s.basePath ++ ['/'] <+: (s.urlFor path).path.chars ↔
      (Path.leadOf path.toList).Returns s.baseSegments := by
  have start := isSegment_of_mem_baseSegments accepted
  have reached : ∀ t ∈ (Path.leadOf path.toList).target s.baseSegments, Path.IsSegment t := by
    rw [Path.leadOf, ← Path.Lead.follow_eq_target]
    exact Path.isSegment_of_mem_follow start fun _ mem => Path.isSegment_of_mem_steps mem
  rw [urlFor_eq_target accepted, basePath_eq_chars accepted,
    ← Path.Lead.exists_target_eq_append_iff]
  exact Path.prefix_chars_iff (fun t mem => (start t mem).slash_not_mem)
    fun t mem => (reached t mem).slash_not_mem

theorem prefix_urlFor_of_up_eq_zero (accepted : ofList settings = .ok s) {path : String}
    (flat : (Path.leadOf path.toList).up = 0) :
    s.basePath ++ ['/'] <+: (s.urlFor path).path.chars := by
  refine (prefix_urlFor_iff accepted path).mpr (Path.Lead.returns_of_up_eq_zero flat ?_)
  exact Path.Lead.named_go_ne_nil (Path.steps_ne_nil _)

end

/-- The address of a path has the scheme, the authority, the query and the fragment of the base
address. It stays below the base path exactly if the path names again what it leads out of, and it
does so if the path leads nowhere up. -/
theorem urlFor_stays_iff (settings : List BackendSetting) (s : BackendSettings)
    (accepted : ofList settings = .ok s) (path : String) :
    s.urlFor path = { s.baseUrl with path := (s.urlFor path).path } ∧
      (s.basePath ++ ['/'] <+: (s.urlFor path).path.chars ↔
        (Path.leadOf path.toList).Returns s.baseSegments) ∧
      ((Path.leadOf path.toList).up = 0 →
        s.basePath ++ ['/'] <+: (s.urlFor path).path.chars) := by
  refine ⟨?_, prefix_urlFor_iff accepted path, prefix_urlFor_of_up_eq_zero accepted⟩
  rw [urlFor_eq_target accepted]

end BackendSettings

namespace Sample

/-- A base address with a path. -/
def webService : List BackendSetting := [.baseUrl "https://acbs.example.com/api/v1"]

/-- The settings that it amounts to. -/
def webServiceSettings : BackendSettings where
  baseUrl := ⟨"https".toList, some ⟨[], [], some (.domain "acbs.example.com".toList), none⟩,
    .rooted ["api".toList, "v1".toList], none, none⟩
  timeout := Settings.defaultTimeout
  maxRedirects := Settings.defaultRedirects

theorem webService_accepted : BackendSettings.ofList webService = .ok webServiceSettings := by
  have same : (BackendSettings.ofList webService).toOption = some webServiceSettings := by
    decide +kernel
  cases built : BackendSettings.ofList webService with
  | error e =>
    rw [built] at same
    exact nomatch same
  | ok s =>
    rw [built] at same
    exact congrArg Except.ok (Option.some.inj same)

end Sample

namespace BackendSettings

/-- Dots that lead back from what a path has named do no harm. -/
theorem party_stays_below :
    ofList Sample.webService = .ok Sample.webServiceSettings ∧
      Sample.webServiceSettings.basePath = "/api/v1".toList ∧
      (Sample.webServiceSettings.urlFor "/Party/../Loan").text =
        "https://acbs.example.com/api/v1/Loan" ∧
      Sample.webServiceSettings.basePath ++ ['/'] <+:
        (Sample.webServiceSettings.urlFor "/Party/../Loan").path.chars := by
  obtain ⟨_, _, stays⟩ := urlFor_stays_iff _ _ Sample.webService_accepted "/Party/../Loan"
  exact ⟨Sample.webService_accepted, by decide +kernel, by decide +kernel,
    stays (by decide +kernel)⟩

/-- Dots in front lead out of the base path. -/
theorem dots_lead_out :
    ofList Sample.webService = .ok Sample.webServiceSettings ∧
      (Sample.webServiceSettings.urlFor "../../admin").text = "https://acbs.example.com/admin" ∧
      ¬ Sample.webServiceSettings.basePath ++ ['/'] <+:
        (Sample.webServiceSettings.urlFor "../../admin").path.chars :=
  ⟨Sample.webService_accepted, by decide +kernel, by decide +kernel⟩

end BackendSettings

end LoanGateway
