import LoanGateway.Token.Cache

/-!
# A cache and its clock

A cache looks at a clock whenever a token is stored or asked for. The clock goes forward only, and
there is a last instant that it can show.

- `Clock`: a clock; `Clock.advance?`: time passes, as long as the clock can show it.
- `CacheUse`: what can be done with a cache and its clock.
- `ClockedCache.use?`, `ClockedCache.useAll?`: one thing, or one after another.
-/

namespace LoanGateway

/-- A clock that counts from its start up to a last instant. -/
structure Clock where
  now : Instant
  last : Instant
  within : now.nanos ≤ last.nanos

namespace Clock

/-- A clock that has just been started. -/
def start (last : Instant) : Clock := ⟨⟨0⟩, last, Nat.zero_le _⟩

/-- The instant that follows another one after some time, if the clock can show it. -/
def after? (c : Clock) (t : Instant) (d : Duration) : Option Instant :=
  if t.nanos + d.nanos ≤ c.last.nanos then some (t.after d) else none

/-- Time passes. The clock cannot go past its last instant. -/
def advance? (c : Clock) (d : Duration) : Option Clock :=
  if h : c.now.nanos + d.nanos ≤ c.last.nanos then some ⟨c.now.after d, c.last, h⟩ else none

end Clock

/-- A token cache and the clock that it looks at. -/
structure ClockedCache where
  cache : TokenCache
  clock : Clock

/-- What can be done with a cache and its clock. -/
inductive CacheUse
  | store (token : String)
  | invalidate
  | wait (time : Duration)
  | look

namespace ClockedCache

/-- An empty cache and a clock that has just been started. -/
def new (ttl : Duration) (last : Instant) : ClockedCache := ⟨.empty ttl, .start last⟩

/-- The token to serve now. -/
def valid? (c : ClockedCache) : Option String := c.cache.valid? c.clock.now

/-- The cached token, whatever its age. -/
def cached? (c : ClockedCache) : Option CachedToken := c.cache.entry

/-- Does one thing. Nothing but waiting takes time, and looking changes nothing. -/
def use? (c : ClockedCache) : CacheUse → Option ClockedCache
  | .store token => some { c with cache := c.cache.store token c.clock.now }
  | .invalidate => some { c with cache := c.cache.invalidate }
  | .wait time => (c.clock.advance? time).map fun clock => { c with clock }
  | .look => some c

/-- Does one thing after another. -/
def useAll? (c : ClockedCache) (uses : List CacheUse) : Option ClockedCache := uses.foldlM use? c

end ClockedCache

end LoanGateway
