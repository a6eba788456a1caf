import LoanGateway.Token.Clocked
import Mathlib.Data.List.Basic
import Mathlib.Data.List.Induction

/-!
# What a cache has been used for

What a cache serves follows from what has been done with it. It serves the token that was stored last,
unless it was invalidated since or as much time has passed as a token lives.

- `LastStored`: a token was stored, and no token was stored or dropped since.
- `Follows`: a cache is as its uses have left it; `Follows.step`: every use keeps it so.
- `CachedToken.AgesBy`: the age of a token says whether it has expired, although nobody works out when
  it expires.
- `cache_follows_uses`: the main statement.
-/

namespace LoanGateway

/-! ## Uses of a cache -/

namespace CacheUse

/-- How much time a use takes. -/
def nanos : CacheUse → Nat
  | wait time => time.nanos
  | _ => 0

/-- Whether a use puts a token into the cache or takes it out. -/
def writes : CacheUse → Bool
  | store _ | invalidate => true
  | _ => false

end CacheUse

/-- How much time some uses take in all. -/
def elapsed : List CacheUse → Nat
  | [] => 0
  | u :: uses => u.nanos + elapsed uses

/-- A token was stored, and these are the uses since. None of them stored another token or dropped this
one. -/
def LastStored (uses : List CacheUse) (token : String) (since : List CacheUse) : Prop :=
  ∃ before, uses = before ++ .store token :: since ∧ ∀ u ∈ since, u.writes = false

variable {ttl : Duration} {last : Instant} {uses since : List CacheUse} {u : CacheUse}
  {token : String} {c : ClockedCache}

theorem elapsed_append (uses more : List CacheUse) :
    elapsed (uses ++ more) = elapsed uses + elapsed more := by
  induction uses with
  | nil => exact (Nat.zero_add _).symm
  | cons u uses ih => rw [List.cons_append, elapsed, elapsed, ih, Nat.add_assoc]

@[simp] theorem elapsed_singleton (u : CacheUse) : elapsed [u] = u.nanos := Nat.add_zero _

theorem LastStored.elapsed_le (stored : LastStored uses token since) :
    elapsed since ≤ elapsed uses := by
  obtain ⟨before, rfl, _⟩ := stored
  rw [elapsed_append, ← List.singleton_append, elapsed_append]
  omega

/-- The latest use stores the last token, or else it leaves the last token what it is. -/
theorem lastStored_concat_iff :
    LastStored (uses ++ [u]) token since ↔
      (u = .store token ∧ since = []) ∨
        (u.writes = false ∧ ∃ front, since = front ++ [u] ∧ LastStored uses token front) := by
  constructor
  · rintro ⟨before, split, quiet⟩
    rcases List.eq_nil_or_concat' since with rfl | ⟨front, v, rfl⟩
    · exact .inl ⟨(List.cons.inj (List.append_inj' split rfl).2).1, rfl⟩
    · rw [← List.cons_append, ← List.append_assoc] at split
      obtain ⟨rfl, same⟩ := List.append_inj' split rfl
      obtain rfl := (List.cons.inj same).1
      obtain ⟨earlier, latest⟩ := List.forall_mem_append.mp quiet
      exact .inr ⟨latest _ (List.mem_singleton_self _), front, rfl, before, rfl, earlier⟩
  · rintro (⟨rfl, rfl⟩ | ⟨latest, front, rfl, before, rfl, earlier⟩)
    · exact ⟨uses, rfl, nofun⟩
    · refine ⟨before, by simp, List.forall_mem_append.mpr ⟨earlier, ?_⟩⟩
      exact List.forall_mem_singleton.mpr latest

/-! ## Caches after their uses -/

/-- A cache is as its uses have left it: the clock has counted the time that they took, and the cache
holds the token that was stored last, with the instant when that was. -/
structure Follows (ttl : Duration) (last : Instant) (uses : List CacheUse) (c : ClockedCache) :
    Prop where
  ttl : c.cache.ttl = ttl
  last : c.clock.last = last
  now : c.clock.now.nanos = elapsed uses
  cached_iff : ∀ t, c.cached? = some t ↔
    ∃ since, LastStored uses t.value since ∧ t.fetchedAt.nanos + elapsed since = elapsed uses

theorem follows_new : Follows ttl last [] (.new ttl last) where
  ttl := rfl
  last := rfl
  now := rfl
  cached_iff t := by
    refine ⟨nofun, ?_⟩
    rintro ⟨since, ⟨before, split, _⟩, _⟩
    exact absurd split (by simp)

namespace Follows

variable (follows : Follows ttl last uses c)

include follows

/-- What is cached stays, and its age grows with the time that a use takes. -/
theorem cached_iff_of_quiet (quiet : u.writes = false) (t : CachedToken) :
    c.cached? = some t ↔ ∃ since, LastStored (uses ++ [u]) t.value since ∧
      t.fetchedAt.nanos + elapsed since = elapsed (uses ++ [u]) := by
  simp only [follows.cached_iff, lastStored_concat_iff, elapsed_append, elapsed_singleton]
  constructor
  · rintro ⟨since, stored, age⟩
    refine ⟨since ++ [u], .inr ⟨quiet, since, rfl, stored⟩, ?_⟩
    rw [elapsed_append, elapsed_singleton]
    omega
  · rintro ⟨_, ⟨rfl, rfl⟩ | ⟨_, since, rfl, stored⟩, age⟩
    · exact nomatch quiet
    · rw [elapsed_append, elapsed_singleton] at age
      exact ⟨since, stored, by omega⟩

/-- A use that the clock has time for leaves the cache as it should. -/
theorem step (fits : elapsed (uses ++ [u]) ≤ last.nanos) :
    ∃ next, c.use? u = some next ∧ Follows ttl last (uses ++ [u]) next := by
  have grown := elapsed_append uses [u]
  rw [elapsed_singleton] at grown
  cases u with
  | store token =>
    refine ⟨_, rfl, follows.ttl, follows.last, follows.now.trans grown.symm, fun t => ?_⟩
    simp only [lastStored_concat_iff, grown]
    constructor
    · rintro ⟨⟩
      exact ⟨[], .inl ⟨rfl, rfl⟩, follows.now⟩
    · rintro ⟨_, ⟨⟨⟩, rfl⟩ | ⟨⟨⟩, _⟩, age⟩
      show some (CachedToken.mk t.value c.clock.now) = some t
      have fetched : c.clock.now = t.fetchedAt := congrArg Instant.mk (follows.now.trans age.symm)
      rw [fetched]
  | invalidate =>
    refine ⟨_, rfl, follows.ttl, follows.last, follows.now.trans grown.symm, fun t => ?_⟩
    simp only [lastStored_concat_iff]
    refine ⟨nofun, ?_⟩
    rintro ⟨_, ⟨⟨⟩, _⟩ | ⟨⟨⟩, _⟩, _⟩
  | wait time =>
    have room : c.clock.now.nanos + time.nanos ≤ c.clock.last.nanos := by
      rw [follows.now, follows.last]
      exact grown ▸ fits
    refine ⟨_, congrArg (Option.map _) (dif_pos room), follows.ttl, follows.last, ?_,
      follows.cached_iff_of_quiet rfl⟩
    show c.clock.now.nanos + time.nanos = _
    rw [follows.now, grown]
    rfl
  | look =>
    exact ⟨c, rfl, follows.ttl, follows.last, follows.now.trans grown.symm,
      follows.cached_iff_of_quiet rfl⟩

end Follows

/-- A cache is as its uses leave it as long as the clock has time for them. -/
theorem exists_follows (fits : elapsed uses ≤ last.nanos) :
    ∃ c, (ClockedCache.new ttl last).useAll? uses = some c ∧ Follows ttl last uses c := by
  induction uses using List.reverseRecOn with
  | nil => exact ⟨_, rfl, follows_new⟩
  | append_singleton uses u ih =>
    have less : elapsed uses ≤ elapsed (uses ++ [u]) := by
      rw [elapsed_append]
      omega
    obtain ⟨c, run, follows⟩ := ih (Nat.le_trans less fits)
    obtain ⟨next, used, grown⟩ := follows.step fits
    refine ⟨next, ?_, grown⟩
    unfold ClockedCache.useAll? at run ⊢
    rw [List.foldlM_append, run]
    exact (bind_pure _).trans used

/-! ## What is served -/

/-- The cached token is served if it is valid. -/
theorem TokenCache.valid?_eq_some_iff {c : TokenCache} {now : Instant} :
    c.valid? now = some token ↔
      ∃ t, c.entry = some t ∧ t.value = token ∧ t.isValidAt now c.ttl = true := by
  rw [TokenCache.valid?, Option.map_eq_some_iff]
  simp only [Option.filter_eq_some_iff]
  exact exists_congr fun t => by rw [and_assoc, and_comm (a := t.value = token)]

/-- When a token expires, if the clock can show that. -/
def CachedToken.expiry? (t : CachedToken) (clock : Clock) (ttl : Duration) : Option Instant :=
  clock.after? t.fetchedAt ttl

/-- A token was fetched before now, so its age is the time since, which the clock can show. The token is
valid before it expires. This is decided by its age alone, also when the clock cannot show the instant
when the token expires. -/
structure CachedToken.AgesBy (t : CachedToken) (clock : Clock) (ttl : Duration) : Prop where
  past : t.fetchedAt.nanos ≤ clock.now.nanos
  age : t.fetchedAt.nanos + (t.age clock.now).nanos = clock.now.nanos
  shown : (t.age clock.now).nanos ≤ clock.last.nanos
  valid_iff : t.isValidAt clock.now ttl = true ↔
    clock.now.nanos < t.fetchedAt.nanos + ttl.nanos
  valid_iff_of_expiry : ∀ expiry, t.expiry? clock ttl = some expiry →
    (t.isValidAt clock.now ttl = true ↔ clock.now.nanos < expiry.nanos)
  valid_of_overflow : t.expiry? clock ttl = none → t.isValidAt clock.now ttl = true

theorem CachedToken.isValidAt_iff {t : CachedToken} {now : Instant}
    (past : t.fetchedAt.nanos ≤ now.nanos) :
    t.isValidAt now ttl = true ↔ now.nanos < t.fetchedAt.nanos + ttl.nanos := by
  show decide (now.nanos - t.fetchedAt.nanos < ttl.nanos) = true ↔ _
  rw [decide_eq_true_eq]
  omega

theorem CachedToken.agesBy_of_past {t : CachedToken} {clock : Clock}
    (past : t.fetchedAt.nanos ≤ clock.now.nanos) : t.AgesBy clock ttl where
  past
  age := Nat.add_sub_of_le past
  shown := Nat.le_trans (Nat.sub_le _ _) clock.within
  valid_iff := isValidAt_iff past
  valid_iff_of_expiry expiry sum := by
    unfold expiry? Clock.after? at sum
    split at sum
    · obtain rfl := Option.some.inj sum
      exact isValidAt_iff past
    · cases sum
  valid_of_overflow none := by
    unfold expiry? Clock.after? at none
    split at none
    · cases none
    · rename_i overflow
      have within := clock.within
      exact (isValidAt_iff past).mpr (by omega)

/-- A cache that has been used in any way, within the time of its clock, serves the token that was stored
last and not dropped since, as long as less time has passed than a token lives. It holds that token
whatever time has passed. A token that it holds was fetched before now, so that its age says whether it
has expired. -/
theorem cache_follows_uses (ttl : Duration) (last : Instant) (uses : List CacheUse)
    (fits : elapsed uses ≤ last.nanos) :
    ∃ c, (ClockedCache.new ttl last).useAll? uses = some c ∧
      c.clock.now.nanos = elapsed uses ∧ c.clock.last = last ∧
      (∀ token, c.valid? = some token ↔
        ∃ since, LastStored uses token since ∧ elapsed since < ttl.nanos) ∧
      (∀ token, c.cached?.map (·.value) = some token ↔ ∃ since, LastStored uses token since) ∧
      ∀ t, c.cached? = some t → t.AgesBy c.clock ttl := by
  obtain ⟨c, run, follows⟩ : ∃ c, (ClockedCache.new ttl last).useAll? uses = some c ∧
      Follows ttl last uses c := exists_follows fits
  have aged (t : CachedToken) (cached : c.cached? = some t) : t.AgesBy c.clock ttl := by
    obtain ⟨since, _, age⟩ := (follows.cached_iff t).mp cached
    refine CachedToken.agesBy_of_past ?_
    rw [follows.now]
    omega
  -- the instant when a token was stored follows from the time since
  have exists_cached {token : String} {since : List CacheUse}
      (stored : LastStored uses token since) :
      ∃ t, c.cached? = some t ∧ t.value = token ∧
        t.fetchedAt.nanos + elapsed since = elapsed uses := by
    have age : elapsed uses - elapsed since + elapsed since = elapsed uses :=
      Nat.sub_add_cancel stored.elapsed_le
    exact ⟨⟨token, ⟨elapsed uses - elapsed since⟩⟩,
      (follows.cached_iff _).mpr ⟨since, stored, age⟩, rfl, age⟩
  refine ⟨c, run, follows.now, follows.last, fun token => ?_, fun token => ?_, aged⟩
  · rw [ClockedCache.valid?, TokenCache.valid?_eq_some_iff, follows.ttl]
    constructor
    · rintro ⟨t, cached, rfl, valid⟩
      obtain ⟨since, stored, age⟩ := (follows.cached_iff t).mp cached
      have young := (aged t cached).valid_iff.mp valid
      rw [follows.now] at young
      exact ⟨since, stored, by omega⟩
    · rintro ⟨since, stored, young⟩
      obtain ⟨t, cached, value, age⟩ := exists_cached stored
      refine ⟨t, cached, value, (aged t cached).valid_iff.mpr ?_⟩
      rw [follows.now]
      omega
  · rw [Option.map_eq_some_iff]
    constructor
    · rintro ⟨t, cached, rfl⟩
      obtain ⟨since, stored, _⟩ := (follows.cached_iff t).mp cached
      exact ⟨since, stored⟩
    · rintro ⟨since, stored⟩
      obtain ⟨t, cached, value, _⟩ := exists_cached stored
      exact ⟨t, cached, value⟩

/-- A token that lives longer than the clock can count is served to the end, although the clock cannot show
when it expires. -/
theorem second_token_outlasts_clock :
    let ttl : Duration := ⟨18446744073709551616000000000 - 1⟩
    let last : Instant := ⟨9223372036854775808000000000 - 1⟩
    let uses := [.store "first", .wait (.ofMillis 45000), .store "second",
      .wait ⟨last.nanos - 45000000000⟩, .look]
    elapsed uses ≤ last.nanos ∧ ∃ c, (ClockedCache.new ttl last).useAll? uses = some c ∧
      c.clock.now = last ∧ c.valid? = some "second" ∧
      ∃ t, c.cached? = some t ∧ t.expiry? c.clock ttl = none := by
  intro ttl last uses
  have whole : elapsed uses = last.nanos := by decide
  have fits : elapsed uses ≤ last.nanos := Nat.le_of_eq whole
  obtain ⟨c, run, now, end_of_clock, valid_iff, cached_iff, _⟩ := cache_follows_uses ttl last uses fits
  have stored : LastStored uses "second" [.wait ⟨last.nanos - 45000000000⟩, .look] :=
    ⟨[.store "first", .wait (.ofMillis 45000)], rfl, by simp [CacheUse.writes]⟩
  obtain ⟨t, cached, _⟩ := Option.map_eq_some_iff.mp ((cached_iff "second").mpr ⟨_, stored⟩)
  refine ⟨fits, c, run, congrArg Instant.mk (now.trans whole),
    (valid_iff _).mpr ⟨_, stored, by decide⟩, t, cached, ?_⟩
  unfold CachedToken.expiry? Clock.after?
  rw [end_of_clock]
  exact if_neg (by dsimp only [ttl, last]; omega)

end LoanGateway
