import LoanGateway.Proofs.Http.Headers
import LoanGateway.Proofs.Session.Attempts
import LoanGateway.Proofs.Session.Steps
import LoanGateway.Proofs.Settings.Accepted

/-!
# The headers of a handshake

The key of the settings is sent in both requests of a handshake, under a name that the settings are
free to choose. The other headers of these requests have names of their own. A key under one of
those names takes the place of a header or gives way to one, and no other name does any harm.

- `Handshake.HasSessionHeaders`, `Handshake.HasTokenHeaders`: what the two requests should carry.
- `Handshake.Complete`: the requests of a handshake, none of them with a header missing.
- `Handshake.headers_kept_iff`: the main statement.
-/

namespace LoanGateway

/-! ## What the requests carry -/

namespace Handshake

/-- What is set in the request for a session, in this order. -/
def sessionEntries (s : IdentitySettings) : List (String × String) :=
  [(s.apiKeyHeader, s.apiKey), ("content-type", "application/json")]

/-- What is set in the request for a token, in this order. -/
def tokenEntries (s : IdentitySettings) (session : String) : List (String × String) :=
  [("content-type", "application/x-www-form-urlencoded"), ("cookie", sessionHeader session),
    (s.apiKeyHeader, s.apiKey)]

/-- A request for a session carries the key and the type of its body, and none of its headers has
replaced another one. -/
structure HasSessionHeaders (s : IdentitySettings) (r : Request) : Prop where
  method : r.method = .post
  key : r.header? (Text.lowercaseString s.apiKeyHeader) = some s.apiKey
  contentType : r.header? "content-type" = some "application/json"
  kept : r.Keeps (sessionEntries s)

/-- A request for a token carries the key and the session, and none of its headers has replaced
another one. -/
structure HasTokenHeaders (s : IdentitySettings) (session : String) (r : Request) : Prop where
  method : r.method = .get
  key : r.header? (Text.lowercaseString s.apiKeyHeader) = some s.apiKey
  cookie : r.header? "cookie" = some ("JSESSIONID=" ++ session)
  kept : r.Keeps (tokenEntries s session)

/-- The requests of a handshake as they should be. There is a second one if the answer to the first
one names a session, and then it carries that session. -/
inductive Complete (s : IdentitySettings) (reply : Reply) : List Request → Prop
  | refused {post : Request} {failure : SignInError} (first : HasSessionHeaders s post)
      (no : sessionOf reply = .error failure) : Complete s reply [post]
  | granted {post get : Request} {session : String} (first : HasSessionHeaders s post)
      (named : sessionOf reply = .ok session) (second : HasTokenHeaders s session get) :
      Complete s reply [post, get]

variable {s : IdentitySettings} {session : String}

theorem lowercase_cookie : Text.lowercaseString "cookie" = "cookie" := by decide +kernel

theorem headers_sessionRequest (s : IdentitySettings) :
    (sessionRequest s).headers =
      ((Request.new .post s.sessionsUrl.text).withHeaders (sessionEntries s)).headers := rfl

theorem headers_tokenRequest (s : IdentitySettings) (session : String) :
    (tokenRequest s session).headers =
      ((Request.new .get s.tokenUrl.text).withHeaders (tokenEntries s session)).headers := rfl

/-- The request for a session is as it should be unless the key goes by the name of its content
type. -/
theorem hasSessionHeaders_iff :
    HasSessionHeaders s (sessionRequest s) ↔
      Text.lowercaseString s.apiKeyHeader ≠ "content-type" := by
  have different_iff : ((Request.entries (sessionEntries s)).map (·.1)).Nodup ↔
      Text.lowercaseString s.apiKeyHeader ≠ "content-type" := by
    simp [Request.entries, sessionEntries, Request.lowercase_contentType]
  have keeps_iff : (sessionRequest s).Keeps (sessionEntries s) ↔
      ((Request.entries (sessionEntries s)).map (·.1)).Nodup := by
    unfold Request.Keeps
    rw [headers_sessionRequest]
    exact Request.keeps_withHeaders_iff ..
  refine ⟨fun has => different_iff.mp (keeps_iff.mp has.kept), fun other => ?_⟩
  have different := different_iff.mpr other
  have kept := keeps_iff.mpr different
  exact
    { method := rfl
      key := kept.header? different (by simp [sessionEntries])
      contentType := Request.lowercase_contentType ▸ kept.header? different (by simp [sessionEntries])
      kept }

/-- The request for a token is as it should be unless the key goes by the name of one of the other
headers. -/
theorem hasTokenHeaders_iff :
    HasTokenHeaders s session (tokenRequest s session) ↔
      Text.lowercaseString s.apiKeyHeader ≠ "content-type" ∧
        Text.lowercaseString s.apiKeyHeader ≠ "cookie" := by
  have different_iff : ((Request.entries (tokenEntries s session)).map (·.1)).Nodup ↔
      Text.lowercaseString s.apiKeyHeader ≠ "content-type" ∧
        Text.lowercaseString s.apiKeyHeader ≠ "cookie" := by
    simp [Request.entries, tokenEntries, Request.lowercase_contentType, lowercase_cookie, eq_comm]
  have keeps_iff : (tokenRequest s session).Keeps (tokenEntries s session) ↔
      ((Request.entries (tokenEntries s session)).map (·.1)).Nodup := by
    unfold Request.Keeps
    rw [headers_tokenRequest]
    exact Request.keeps_withHeaders_iff ..
  refine ⟨fun has => different_iff.mp (keeps_iff.mp has.kept), fun others => ?_⟩
  have different := different_iff.mpr others
  have kept := keeps_iff.mpr different
  have cookie : (tokenRequest s session).header? (Text.lowercaseString "cookie") =
      some (sessionHeader session) := kept.header? different (by simp [tokenEntries])
  rw [lowercase_cookie] at cookie
  exact
    { method := rfl
      key := kept.header? different (by simp [tokenEntries])
      cookie
      kept }

/-! ## Whole handshakes -/

/-- What a handshake sends: a request for a session, and one for a token if there is a session. -/
theorem sent_perform_eq (s : IdentitySettings) (wire : Wire) :
    (perform s wire).2.sent = wire.sent ++ sessionRequest s ::
      match sessionOf (wire.send (sessionRequest s)).1 with
      | .ok session => [tokenRequest s session]
      | .error _ => [] := by
  unfold perform
  dsimp only
  split <;> rename_i result
  · rw [result]
    rfl
  · rw [result]
    exact List.append_assoc ..

theorem sessionOf_granted : sessionOf Sample.granted = .ok "42" := by decide +kernel

/-- A handshake that gets a session sends both requests. -/
theorem sent_granted (s : IdentitySettings) :
    (perform s (.ofReplies [Sample.granted])).2.sent = [sessionRequest s, tokenRequest s "42"] := by
  have answer : (Wire.send (.ofReplies [Sample.granted]) (sessionRequest s)).1 = Sample.granted :=
    rfl
  rw [sent_perform_eq, answer, sessionOf_granted]
  rfl

/-- A handshake that gets a session sends both requests, so it shows whether the names are
different. -/
theorem others_of_complete
    (h : ∃ requests, (perform s (.ofReplies [Sample.granted])).2.sent = requests ∧
      Complete s Sample.granted requests) :
    Text.lowercaseString s.apiKeyHeader ≠ "content-type" ∧
      Text.lowercaseString s.apiKeyHeader ≠ "cookie" := by
  obtain ⟨requests, sent, complete⟩ := h
  rw [← sent, sent_granted] at complete
  cases complete with
  | granted _ other second =>
    cases sessionOf_granted.symm.trans other
    exact hasTokenHeaders_iff.mp second

/-- The handshakes of accepted settings carry the key, the session and the types of the bodies, and
none of their headers replaces another one, if and only if the name of the header with the key is
another one than those of the other headers. To be accepted, a name has only not to be blank. -/
theorem headers_kept_iff (calls : List IdentitySetting) (settings : IdentitySettings)
    (built : IdentitySettings.ofList calls = .ok settings) :
    ((∀ wire, ∃ requests, (perform settings wire).2.sent = wire.sent ++ requests ∧
        Complete settings (wire.send (sessionRequest settings)).1 requests) ↔
      Text.lowercaseString settings.apiKeyHeader ≠ "content-type" ∧
        Text.lowercaseString settings.apiKeyHeader ≠ "cookie") ∧
      ∀ name, Text.isBlankText name = false →
        IdentitySettings.ofList (calls ++ [.apiKeyHeader name]) =
          .ok { settings with apiKeyHeader := name } := by
  refine ⟨⟨fun all => ?_, fun others wire => ?_⟩,
    fun name => IdentitySettings.ofList_apiKeyHeader built⟩
  · exact others_of_complete (all (.ofReplies [Sample.granted]))
  · have first := hasSessionHeaders_iff.mpr others.1
    refine ⟨_, sent_perform_eq settings wire, ?_⟩
    cases result : sessionOf (wire.send (sessionRequest settings)).1 with
    | error e => exact .refused first result
    | ok session => exact .granted first result (hasTokenHeaders_iff.mpr others)

end Handshake

namespace Sample

/-- Settings whose key goes under a name. -/
def keyUnder (name : String) : List IdentitySetting :=
  [.baseUrl "https://idp.example.com/auth", .loginName "svc", .password "hunter2", .apiKey "k",
    .apiKeyHeader name, .clientId "gw"]

theorem exists_keyUnder (name : String)
    (accepted : (IdentitySettings.ofList (keyUnder name)).toOption.map
      (fun s => (s.apiKeyHeader, s.apiKey)) = some (name, "k")) :
    ∃ settings, IdentitySettings.ofList (keyUnder name) = .ok settings ∧
      settings.apiKeyHeader = name ∧ settings.apiKey = "k" := by
  cases built : IdentitySettings.ofList (keyUnder name) with
  | error e =>
    rw [built] at accepted
    cases accepted
  | ok settings =>
    rw [built] at accepted
    obtain ⟨named, key⟩ := Prod.mk.inj (Option.some.inj accepted)
    exact ⟨settings, rfl, named, key⟩

end Sample

namespace Handshake

/-- A key under an ordinary name goes with both requests, and a name that does harm is accepted in
its place. -/
theorem headers_kept_under_apiKey :
    ∃ settings, IdentitySettings.ofList (Sample.keyUnder "apiKey") = .ok settings ∧
      (∀ wire, ∃ requests, (perform settings wire).2.sent = wire.sent ++ requests ∧
        Complete settings (wire.send (sessionRequest settings)).1 requests) ∧
      IdentitySettings.ofList (Sample.keyUnder "apiKey" ++ [.apiKeyHeader "Cookie"]) =
        .ok { settings with apiKeyHeader := "Cookie" } := by
  obtain ⟨settings, built, named, _⟩ := Sample.exists_keyUnder "apiKey" (by decide +kernel)
  obtain ⟨kept_iff, accepts⟩ := headers_kept_iff _ settings built
  refine ⟨settings, built, kept_iff.mpr ?_, accepts "Cookie" (by decide +kernel)⟩
  rw [named]
  decide +kernel

/-- A key under the name of the cookie takes the place of the session. -/
theorem key_replaces_session :
    ∃ settings, IdentitySettings.ofList (Sample.keyUnder "cookie") = .ok settings ∧
      sessionOf Sample.granted = .ok "42" ∧
      (perform settings (.ofReplies [Sample.granted])).2.sent =
        [sessionRequest settings, tokenRequest settings "42"] ∧
      (tokenRequest settings "42").header? "cookie" = some "k" ∧
      ¬ ∀ wire, ∃ requests, (perform settings wire).2.sent = wire.sent ++ requests ∧
        Complete settings (wire.send (sessionRequest settings)).1 requests := by
  obtain ⟨settings, built, named, key⟩ :=
    Sample.exists_keyUnder "cookie" (by decide +kernel)
  have lowercase : Text.lowercaseString settings.apiKeyHeader = "cookie" := by
    rw [named, lowercase_cookie]
  have cookie : (tokenRequest settings "42").header? "cookie" = some "k" := by
    have last : (tokenRequest settings "42").header?
        (Text.lowercaseString settings.apiKeyHeader) = some settings.apiKey :=
      Request.header?_header_self _ settings.apiKeyHeader settings.apiKey
    rwa [lowercase, key] at last
  exact ⟨settings, built, sessionOf_granted, sent_granted settings, cookie,
    fun all => (others_of_complete (all (.ofReplies [Sample.granted]))).2 lowercase⟩

end Handshake

end LoanGateway
