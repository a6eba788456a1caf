import LoanGateway.Duration

/-!
# Token cache

- `CachedToken`: a token and the instant when it was fetched.
- `TokenCache`: at most one token, which is served for a fixed time.
- `TokenCache.valid?`: the token that may be served at an instant.
-/

namespace LoanGateway

/-- A token with the instant when the handshake that produced it was over. -/
structure CachedToken where
  value : String
  fetchedAt : Instant
  deriving DecidableEq

namespace CachedToken

/-- The time since the token was fetched. -/
def age (t : CachedToken) (now : Instant) : Duration := now.since t.fetchedAt

/-- A token is served until its age reaches the time to live. -/
def isValidAt (t : CachedToken) (now : Instant) (ttl : Duration) : Bool :=
  (t.age now).nanos < ttl.nanos

end CachedToken

/-- At most one token, and for how long it is served. -/
structure TokenCache where
  ttl : Duration
  entry : Option CachedToken
  deriving DecidableEq

namespace TokenCache

def empty (ttl : Duration) : TokenCache := ⟨ttl, none⟩

/-- The token to serve at an instant. -/
def valid? (c : TokenCache) (now : Instant) : Option String :=
  (c.entry.filter (·.isValidAt now c.ttl)).map (·.value)

/-- Replaces the token; it counts as fetched at the given instant. -/
def store (c : TokenCache) (token : String) (now : Instant) : TokenCache :=
  { c with entry := some ⟨token, now⟩ }

/-- Drops the token. -/
def invalidate (c : TokenCache) : TokenCache := { c with entry := none }

@[simp] theorem valid?_invalidate (c : TokenCache) (now : Instant) :
    c.invalidate.valid? now = none := rfl

/-- A cached token is served before its time to live has passed. -/
theorem valid?_of_entry {c : TokenCache} {token : String} {stored now : Instant}
    (entry : c.entry = some ⟨token, stored⟩) (young : now.nanos - stored.nanos < c.ttl.nanos) :
    c.valid? now = some token := by
  have valid : CachedToken.isValidAt ⟨token, stored⟩ now c.ttl = true := by
    exact decide_eq_true young
  rw [valid?, entry, Option.filter_some, if_pos valid]
  rfl

/-- A cached token is not served any more when its time to live has passed. -/
theorem young_of_valid? {c : TokenCache} {t : CachedToken} {now : Instant} {token : String}
    (entry : c.entry = some t) (h : c.valid? now = some token) :
    now.nanos - t.fetchedAt.nanos < c.ttl.nanos := by
  rw [valid?, entry, Option.filter_some] at h
  split at h
  · rename_i valid
    exact of_decide_eq_true valid
  · cases h

/-- A cache that serves nothing serves nothing later on. -/
theorem valid?_eq_none_of_le {c : TokenCache} {now later : Instant} (h : c.valid? now = none)
    (le : now.nanos ≤ later.nanos) : c.valid? later = none := by
  cases entry : c.entry with
  | none => rw [valid?, entry]; rfl
  | some t =>
    cases served : c.valid? later with
    | none => rfl
    | some token =>
      have young := young_of_valid? entry served
      have early : c.valid? now = some t.value := valid?_of_entry entry (by omega)
      cases h.symm.trans early

/-- The cache holds what it serves. -/
theorem entry_of_valid? {c : TokenCache} {now : Instant} {token : String}
    (h : c.valid? now = some token) : ∃ fetched, c.entry = some ⟨token, fetched⟩ := by
  obtain ⟨⟨value, fetched⟩, kept, rfl⟩ := Option.map_eq_some_iff.mp h
  exact ⟨fetched, (Option.filter_eq_some_iff.mp kept).1⟩

end TokenCache

end LoanGateway
