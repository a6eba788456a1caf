import LoanGateway.Proofs.Bundle.Submission
import LoanGateway.Proofs.Settings.Reach
import LoanGateway.Proofs.Url.Nameless

/-!
# Identifiers of the base path

The address of a new resource may name nothing by itself. Then the identifier should come from the body
of the answer. It does so exactly if the address keeps nothing of the base path; otherwise the last
segment that is kept passes for the identifier.

- `Backend.IsBare`: the locations that name nothing by themselves.
- `Backend.keptBy`: what a location keeps of the base path.
- `Backend.locationIdentifier?_of_bare`: the identifier of such a location is of the base path.
- `Submission.IsOfBody`: a result that the body of an answer decides.
- `Submission.bare_location_falls_back_iff`: when the body decides.
-/

namespace LoanGateway

namespace Backend

/-- A location that names nothing by itself: at the root of a host it has no identifier. -/
def IsBare (base : Url) (location : String) : Prop := locationIdentifier? base.root location = none

/-- What a location keeps of the base path. -/
def keptBy (base : Url) (location : String) : List (List Char) :=
  if (Text.trimString location).isEmpty then [] else base.kept (Text.trimString location)

variable {base : Url} {location : String} {segments : List (List Char)}

theorem mem_of_mem_keptBy {t : List Char} (mem : t ∈ keptBy base location) :
    t ∈ base.segments?.getD [] := by
  unfold keptBy at mem
  split at mem
  · exact absurd mem List.not_mem_nil
  · exact Url.mem_of_mem_kept mem

/-- Blank locations are bare, and so are those that name nothing. -/
theorem isBare_of_isNameless (web : Url.isSpecial base.scheme = true)
    (no_file : Url.isFile base.scheme = false)
    (nameless : Text.trimString location = "" ∨
      Url.IsNameless (Url.clean (Text.trimString location).toList)) : IsBare base location := by
  unfold IsBare locationIdentifier?
  dsimp only
  split
  · rfl
  · next full =>
    rcases nameless with blank | nameless
    · exact absurd (by rw [blank]; rfl) full
    · exact Url.bare_of_isNameless web no_file nameless

/-- A bare location has the last segment for its identifier that it keeps of the base path. -/
theorem locationIdentifier?_of_bare (web : Url.isSpecial base.scheme = true)
    (no_file : Url.isFile base.scheme = false) (path : base.path = .rooted segments)
    (bare : IsBare base location) :
    locationIdentifier? base location = Url.Path.lastNamed (keptBy base location) := by
  unfold IsBare locationIdentifier? at bare
  unfold locationIdentifier? keptBy
  dsimp only at bare ⊢
  split at bare
  · next blank => rw [if_pos blank, if_pos blank]; rfl
  · next full =>
    rw [if_neg full, if_neg full]
    exact Url.lastSegment?_of_bare web no_file path bare

end Backend

namespace Submission

open Backend (IsBare keptBy locationIdentifier?)

/-- The body of an answer decides what comes of it: the identifier is the one in the body, and without
one the answer is a failure. -/
structure IsOfBody (response : Response) (result : Except GatewayError Receipt) : Prop where
  found : ∀ i, IsInBody response.body i → result = .ok ⟨i, response.header? warningHeader⟩
  missing : (∀ i, ¬ IsInBody response.body i) → result = .error identifierMissing

/-- The location of a success decides only if it has an identifier. -/
theorem receipt_of_location (settings : BackendSettings) (phrases : List String)
    {response : Response} {location : String}
    (status : 200 ≤ response.status ∧ response.status < 300)
    (first : response.header? "location" = some location) :
    (locationIdentifier? settings.baseUrl location = none →
        IsOfBody response (receipt settings phrases (.ok response))) ∧
      ∀ i, locationIdentifier? settings.baseUrl location = some i →
        receipt settings phrases (.ok response) = .ok ⟨i, response.header? warningHeader⟩ := by
  have outcome := isOutcome_receipt settings phrases (.ok response)
  rw [IsOutcome, if_pos status] at outcome
  obtain ⟨known, unknown⟩ := outcome
  have located (i : String) : IsLocated settings.baseUrl response i ↔
      locationIdentifier? settings.baseUrl location = some i := by
    rw [← located_eq_some_iff, first, Option.bind_some]
  constructor
  · intro silent
    have unlocated (i : String) : ¬ IsLocated settings.baseUrl response i := by
      rw [located, silent]
      exact (Option.some_ne_none i).symm
    refine ⟨fun i inBody => (known ⟨i, _⟩).mpr ⟨.inr ⟨unlocated, inBody⟩, rfl⟩, fun lacking => ?_⟩
    refine unknown fun i identifies => ?_
    rcases identifies with is_located | ⟨_, inBody⟩
    · exact unlocated i is_located
    · exact lacking i inBody
  · intro i found
    exact (known ⟨i, _⟩).mpr ⟨.inl ((located i).mpr found), rfl⟩

/-- Blank locations, hosts, queries, fragments and dots are bare. A bare location has no identifier
exactly if it keeps nothing of the base path, and then the body of a success decides what comes of it.
Otherwise a segment of the base path passes for the identifier, whatever the body says. -/
theorem bare_location_falls_back_iff (list : List BackendSetting) (settings : BackendSettings)
    (accepted : BackendSettings.ofList list = .ok settings) :
    (∀ location, Text.trimString location = "" ∨
        Url.IsNameless (Url.clean (Text.trimString location).toList) →
          IsBare settings.baseUrl location) ∧
      ∀ location, IsBare settings.baseUrl location →
        (locationIdentifier? settings.baseUrl location = none ↔
          ∀ t ∈ keptBy settings.baseUrl location, t = []) ∧
        ∀ (response : Response) (phrases : List String),
          200 ≤ response.status ∧ response.status < 300 →
          response.header? "location" = some location →
            ((∀ t ∈ keptBy settings.baseUrl location, t = []) →
              IsOfBody response (receipt settings phrases (.ok response))) ∧
            ∀ i, Url.Path.lastNamed (keptBy settings.baseUrl location) = some i →
              receipt settings phrases (.ok response) = .ok ⟨i, response.header? warningHeader⟩ ∧
                i.toList ∈ settings.baseUrl.segments?.getD [] := by
  obtain ⟨_, web, no_file⟩ := BackendSettings.exists_parse? accepted
  obtain ⟨_, _, path, _⟩ := BackendSettings.exists_segments accepted
  refine ⟨fun location => Backend.isBare_of_isNameless web no_file, fun location bare => ?_⟩
  have identifier := Backend.locationIdentifier?_of_bare web no_file path bare
  rw [identifier, Url.Path.lastNamed_eq_none_iff]
  refine ⟨Iff.rfl, fun response phrases status first => ?_⟩
  obtain ⟨silent, named⟩ := receipt_of_location settings phrases status first
  rw [identifier, Url.Path.lastNamed_eq_none_iff] at silent
  rw [identifier] at named
  exact ⟨silent, fun i last => ⟨named i last,
    Backend.mem_of_mem_keptBy (Url.Path.mem_of_lastNamed last)⟩⟩

end Submission

namespace Sample

/-- A success with a location and an identifier in the body. -/
def created (location : String) : Response :=
  ⟨201, [("location", location)], "\x7b\"BundleIdentifier\": \"0000000777\"\x7d"⟩

end Sample

namespace Submission

open Backend (IsBare keptBy locationIdentifier?)

/-- A location that is only a host leaves the identifier to the body. -/
theorem host_leaves_identifier_to_body :
    let location := "https://acbs.example.com:8443/"
    BackendSettings.ofList Sample.webService = .ok Sample.webServiceSettings ∧
      Url.IsNameless (Url.clean (Text.trimString location).toList) ∧
      (∀ t ∈ keptBy Sample.webServiceSettings.baseUrl location, t = []) ∧
      receipt Sample.webServiceSettings [] (.ok (Sample.created location)) =
        .ok ⟨"0000000777", none⟩ := by
  intro location
  have nameless : Url.IsNameless (Url.clean (Text.trimString location).toList) := by
    have read : Url.scheme? (Url.clean (Text.trimString location).toList) =
        some ("https".toList, '/' :: '/' :: ("acbs.example.com:8443".toList ++ ['/'])) := by
      decide +kernel
    have whole : ∀ c ∈ "acbs.example.com:8443".toList, Url.Authority.ends c = false := by
      have none : "acbs.example.com:8443".toList.any Url.Authority.ends = false := by decide +kernel
      simpa only [List.any_eq_false, Bool.not_eq_true] using none
    exact .host (by decide) (by decide) read whole (List.forall_mem_singleton.mpr rfl)
  obtain ⟨bare, falls⟩ := bare_location_falls_back_iff _ _ Sample.webService_accepted
  have nothing : ∀ t ∈ keptBy Sample.webServiceSettings.baseUrl location, t = [] := by
    have none : keptBy Sample.webServiceSettings.baseUrl location = [] := by decide +kernel
    rw [none]
    exact List.forall_mem_nil _
  have inBody : IsInBody (Sample.created location).body "0000000777" :=
    bodyIdentifier?_eq_some_iff.mp (by decide +kernel)
  obtain ⟨_, decides⟩ := falls location (bare location (.inr nameless))
  have result := (decides (Sample.created location) [] (by decide) rfl).1 nothing
  exact ⟨Sample.webService_accepted, nameless, nothing, result.found _ inBody⟩

/-- A location that is only a query keeps the base path, whose last segment passes for the identifier
although there is one in the body. -/
theorem query_keeps_base_path :
    let location := "?expand=true"
    BackendSettings.ofList Sample.webService = .ok Sample.webServiceSettings ∧
      IsBare Sample.webServiceSettings.baseUrl location ∧
      locationIdentifier? Sample.webServiceSettings.baseUrl location = some "v1" ∧
      IsInBody (Sample.created location).body "0000000777" ∧
      receipt Sample.webServiceSettings [] (.ok (Sample.created location)) = .ok ⟨"v1", none⟩ := by
  intro location
  have found : locationIdentifier? Sample.webServiceSettings.baseUrl location = some "v1" := by
    decide +kernel
  have bare : IsBare Sample.webServiceSettings.baseUrl location := by
    unfold IsBare
    decide +kernel
  have taken : receipt Sample.webServiceSettings [] (.ok (Sample.created location)) =
      .ok ⟨"v1", none⟩ := (receipt_of_location _ [] (by decide) rfl).2 "v1" found
  exact ⟨Sample.webService_accepted, bare, found,
    bodyIdentifier?_eq_some_iff.mp (by decide +kernel), taken⟩

end Submission

end LoanGateway
