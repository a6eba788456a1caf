import LoanGateway.Proofs.Session.Blocks
import LoanGateway.Session.Authenticator

/-!
# Authenticators with different credentials

Two authenticators whose settings differ in the credentials alone are twins: given the same answers
they give the same outcomes and keep the same memory, and their requests differ in the secrets that
they carry and in nothing else. The secrets stand in the header of the key and in the body of the
request for a session.

- `IdentitySettings.SameButCredentials`: settings that differ in the credentials at most.
- `Request.SameButSecrets`: requests that differ in the secrets at most.
- `Handshake.alike_perform`: the outcome of a handshake does not depend on the credentials.
- `Authenticator.Twins`: authenticators that differ in their settings and in the secrets they sent.
- `Authenticator.Twins.obtain`: calls for a token keep them so.
-/

namespace LoanGateway

/-- The settings differ in the login name, the password and the key at most. -/
structure IdentitySettings.SameButCredentials (s t : IdentitySettings) : Prop where
  baseUrl : s.baseUrl = t.baseUrl
  apiKeyHeader : s.apiKeyHeader = t.apiKeyHeader
  clientId : s.clientId = t.clientId
  tokenTtl : s.tokenTtl = t.tokenTtl
  timeout : s.timeout = t.timeout
  maxRedirects : s.maxRedirects = t.maxRedirects
  maxRetries : s.maxRetries = t.maxRetries
  retryDelay : s.retryDelay = t.retryDelay

/-! ## Requests -/

namespace Request

/-- The headers have the same name, and the same value unless it is the name of the key. -/
def SameHeader (key : String) (h k : String × String) : Prop := h.1 = k.1 ∧ (h.1 ≠ key → h.2 = k.2)

/-- Requests to an identity provider that differ in the value of the key at most, and in the body if
they ask for a session. -/
structure SameButSecrets (s : IdentitySettings) (r q : Request) : Prop where
  method : r.method = q.method
  url : r.url = q.url
  bearer : r.bearer = q.bearer
  timeout : r.timeout = q.timeout
  headers : List.Forall₂ (SameHeader (Text.lowercaseString s.apiKeyHeader)) r.headers q.headers
  body : ¬ OpensSession s r → r.body = q.body

variable {key : String} {r q : Request}

/-- Setting a header to values that differ only for the key. -/
theorem sameHeader_header (headers : List.Forall₂ (SameHeader key) r.headers q.headers)
    (name : String) {value other : String} (same : Text.lowercaseString name ≠ key → value = other) :
    List.Forall₂ (SameHeader key) (r.header name value).headers (q.header name other).headers := by
  -- the headers that are replaced have the same names on both sides
  have names : ∀ ⦃h k⦄, SameHeader key h k →
      (decide (h.1 ≠ Text.lowercaseString name) = true ↔
        decide (k.1 ≠ Text.lowercaseString name) = true) := by
    intro h k alike
    rw [alike.1]
  have others := List.rel_filter names headers
  have last : List.Forall₂ (SameHeader key) [(Text.lowercaseString name, value)]
      [(Text.lowercaseString name, other)] := .cons ⟨rfl, same⟩ .nil
  exact List.rel_append others last

end Request

namespace Handshake

variable {s t : IdentitySettings}

open Request (SameButSecrets sameHeader_header)

theorem sameButSecrets_sessionRequest (same : s.SameButCredentials t) :
    SameButSecrets s (sessionRequest s) (sessionRequest t) where
  method := rfl
  url := by
    show (s.baseUrl.below _).text = (t.baseUrl.below _).text
    rw [same.baseUrl]
  bearer := rfl
  timeout := congrArg some same.timeout
  headers := by
    unfold sessionRequest Request.withJson Request.withTimeout
    rw [← same.apiKeyHeader]
    refine sameHeader_header ?_ "content-type" fun _ => rfl
    dsimp only
    exact sameHeader_header .nil s.apiKeyHeader fun other => absurd rfl other
  body other := absurd (opensSession_sessionRequest s) other

theorem sameButSecrets_tokenRequest (same : s.SameButCredentials t) (session : String) :
    SameButSecrets s (tokenRequest s session) (tokenRequest t session) where
  method := rfl
  url := by
    show ((s.baseUrl.below _).addPair _ s.clientId.toList).text =
      ((t.baseUrl.below _).addPair _ t.clientId.toList).text
    rw [same.baseUrl, same.clientId]
  bearer := rfl
  timeout := congrArg some same.timeout
  headers := by
    unfold tokenRequest Request.withTimeout
    rw [← same.apiKeyHeader]
    dsimp only
    refine sameHeader_header ?_ s.apiKeyHeader fun other => absurd rfl other
    refine sameHeader_header ?_ "cookie" fun _ => rfl
    exact sameHeader_header .nil "content-type" fun _ => rfl
  body _ := rfl

end Handshake

/-! ## Wires -/

namespace Wire

/-- The wires have the same answers to come, and what was sent over them is related one by one. -/
structure Alike (R : Request → Request → Prop) (w v : Wire) : Prop where
  replies : w.replies = v.replies
  sent : List.Forall₂ R w.sent v.sent

variable {R : Request → Request → Prop} {w v : Wire}

/-- Related requests get the same answer. -/
theorem Alike.send (alike : w.Alike R v) {r q : Request} (related : R r q) :
    (w.send r).1 = (v.send q).1 ∧ (w.send r).2.Alike R (v.send q).2 := by
  refine ⟨?_, ?_, ?_⟩
  · show w.replies.head?.getD exhausted = v.replies.head?.getD exhausted
    rw [alike.replies]
  · show w.replies.tail = v.replies.tail
    rw [alike.replies]
  · exact List.rel_append alike.sent (.cons related .nil)

theorem Alike.queue (alike : w.Alike R v) (replies : List Reply) :
    (w.queue replies).Alike R (v.queue replies) :=
  ⟨congrArg (· ++ replies) alike.replies, alike.sent⟩

end Wire

/-! ## Authenticators -/

/-- The outcome of a handshake does not depend on the credentials. -/
theorem Handshake.alike_perform {s t : IdentitySettings} (same : s.SameButCredentials t)
    {w v : Wire} (alike : w.Alike (Request.SameButSecrets s) v) :
    (perform s w).1 = (perform t v).1 ∧
      (perform s w).2.Alike (Request.SameButSecrets s) (perform t v).2 := by
  obtain ⟨first, after⟩ := alike.send (sameButSecrets_sessionRequest same)
  unfold perform
  dsimp only
  rw [← first]
  cases sessionOf (w.send (sessionRequest s)).1 with
  | error e => exact ⟨rfl, after⟩
  | ok session =>
    obtain ⟨second, last⟩ := after.send (sameButSecrets_tokenRequest same session)
    exact ⟨congrArg tokenOf second, last⟩

namespace Authenticator

/-- Authenticators with their own settings each that are in the same state otherwise. Their requests
differ in the secrets at most. -/
structure Twins (s t : IdentitySettings) (a b : Authenticator) : Prop where
  left : a.settings = s
  right : b.settings = t
  memory : a.memory = b.memory
  now : a.now = b.now
  wire : a.wire.Alike (Request.SameButSecrets s) b.wire

variable {s t : IdentitySettings}

/-- Authenticators that have done nothing yet. -/
theorem twins_new (same : s.SameButCredentials t) (replies : List Reply) :
    Twins s t (new s replies) (new t replies) where
  left := rfl
  right := rfl
  memory := congrArg Memory.empty same.tokenTtl
  now := rfl
  wire := ⟨rfl, .nil⟩

/-- A token is put into the cache from outside. -/
def remember (a : Authenticator) (token : String) : Authenticator :=
  { a with memory := { a.memory with cache := a.memory.cache.store token a.now } }

/-- More answers are queued. -/
def queue (a : Authenticator) (replies : List Reply) : Authenticator :=
  { a with wire := a.wire.queue replies }

namespace Twins

variable {a b : Authenticator}

/-- Twins give the same outcome and stay twins. -/
theorem obtain (same : s.SameButCredentials t) (twins : Twins s t a b) :
    a.obtain.1 = b.obtain.1 ∧ Twins s t a.obtain.2 b.obtain.2 := by
  have alike : a.memory.cache.valid? a.now = b.memory.cache.valid? b.now := by
    rw [twins.memory, twins.now]
  cases fresh : a.memory.cache.valid? a.now with
  | some token =>
    rw [obtain_of_valid a token fresh, obtain_of_valid b token (alike.symm.trans fresh)]
    exact ⟨rfl, twins⟩
  | none =>
    rw [obtain_of_none fresh, obtain_of_none (alike.symm.trans fresh), twins.left, twins.right]
    obtain ⟨outcome, wire⟩ := Handshake.alike_perform same twins.wire
    refine ⟨outcome, rfl, rfl, ?_, twins.now, wire⟩
    show a.memory.commit a.now _ = b.memory.commit b.now _
    rw [twins.memory, twins.now, outcome]

theorem invalidate (twins : Twins s t a b) : Twins s t a.invalidate b.invalidate where
  left := twins.left
  right := twins.right
  memory := congrArg Memory.invalidate twins.memory
  now := twins.now
  wire := twins.wire

theorem remember (twins : Twins s t a b) (token : String) :
    Twins s t (a.remember token) (b.remember token) where
  left := twins.left
  right := twins.right
  memory := by
    show { a.memory with cache := a.memory.cache.store token a.now } =
      { b.memory with cache := b.memory.cache.store token b.now }
    rw [twins.memory, twins.now]
  now := twins.now
  wire := twins.wire

theorem advance (twins : Twins s t a b) (time : Duration) :
    Twins s t (a.advance time) (b.advance time) where
  left := twins.left
  right := twins.right
  memory := twins.memory
  now := congrArg (·.after time) twins.now
  wire := twins.wire

theorem queue (twins : Twins s t a b) (replies : List Reply) :
    Twins s t (a.queue replies) (b.queue replies) where
  left := twins.left
  right := twins.right
  memory := twins.memory
  now := twins.now
  wire := twins.wire.queue replies

end Twins

end Authenticator

end LoanGateway
