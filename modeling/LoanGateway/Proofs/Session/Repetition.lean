import LoanGateway.Proofs.Session.Alone
import LoanGateway.Proofs.Session.Attempts
import LoanGateway.Proofs.Session.Rounds

/-!
# Rounds that are repeated

A call for a token whose attempts are repeated does one round after another, until one of them
succeeds, or fails for good, or is the last one allowed. The answers of the identity provider are
cut into these rounds. The failure that a round leaves in the memory is not what the next one is
told: even at the gate each attempt does a round of its own.

- `Authenticator.Repeats`: rounds that are repeated, with what they leave behind.
- `Authenticator.repeats_executeFrom`: attempts up to the one that counts are such rounds.
- `Calls.Repeats`: the same rounds as calls at the gate, one after another.
- `Calls.exists_retries`: calls that are alone can do them.
- `Retrying.repeats_of_stale`: the main statement.
-/

namespace LoanGateway

open Handshake (Round IsRound)

/-! ## An authenticator that is asked again and again -/

namespace Authenticator

/-- The authenticator after a round. -/
def took (a : Authenticator) (round : Round) : Authenticator :=
  { a with
    wire := a.wire.after round.replies round.requests
    memory := a.memory.commit a.now round.outcome }

/-- A token goes into the cache. -/
theorem cache_took_of_ok {a : Authenticator} {round : Round} {token : String}
    (gives : round.outcome = .ok token) :
    (a.took round).memory.cache = a.memory.cache.store token a.now := by
  show (a.memory.commit a.now round.outcome).cache = _
  rw [gives]
  rfl

/-- A failure leaves the cache as it was. -/
theorem cache_took_of_error {a : Authenticator} {round : Round} {e : SignInError}
    (fails : round.outcome = .error e) : (a.took round).memory.cache = a.memory.cache := by
  show (a.memory.commit a.now round.outcome).cache = _
  rw [fails]
  rfl

/-- Rounds of an authenticator that are repeated: those in front fail for a while, and the last one
is the last one allowed if it does so too. -/
structure Repeats (limit : Nat) (a : Authenticator) (earlier : List Round) (last : Round)
    (b : Authenticator) : Prop where
  rounds : ∀ round ∈ earlier ++ [last], IsRound a.settings round
  /-- The rounds take the next answers, one round after another. -/
  replies : (earlier ++ [last]).flatMap Round.replies =
    a.wire.upcoming ((earlier ++ [last]).flatMap Round.replies).length
  /-- Nothing else is taken from the wire, and only the requests of the rounds are sent. -/
  wire : b.wire = a.wire.after ((earlier ++ [last]).flatMap Round.replies)
    ((earlier ++ [last]).flatMap Round.requests)
  passing : ∀ round ∈ earlier, round.IsPassing
  within : earlier.length < limit
  ends : last.IsPassing → earlier.length + 1 = limit
  /-- A token goes into the cache. -/
  stored : ∀ token, last.outcome = .ok token → b.memory.cache = a.memory.cache.store token a.now
  /-- A failure leaves the cache as it was. -/
  kept : ∀ e, last.outcome = .error e → b.memory.cache = a.memory.cache

variable {a b : Authenticator}

/-- An attempt without a fresh token is a round of the next answers. -/
theorem exists_round_of_stale (stale : a.memory.cache.valid? a.now = none) :
    ∃ round, IsRound a.settings round ∧
      round.replies = a.wire.upcoming round.replies.length ∧
      TokenSource.obtain a = (round.outcome, a.took round) := by
  obtain ⟨round, is, next, performs⟩ := Handshake.exists_round a.settings a.wire
  refine ⟨round, is, next, ?_⟩
  show a.obtain = _
  rw [obtain_of_none stale, performs]
  rfl

/-- A round that is not followed by another one. -/
theorem Repeats.single {limit : Nat} {round : Round} (is : IsRound a.settings round)
    (next : round.replies = a.wire.upcoming round.replies.length) (pos : 0 < limit)
    (ends : round.IsPassing → limit = 1) : Repeats limit a [] round (a.took round) where
  rounds other mem := by
    rw [List.mem_singleton.mp mem]
    exact is
  replies := by
    show round.replies ++ [] = a.wire.upcoming (round.replies ++ []).length
    rw [List.append_nil]
    exact next
  wire := by
    show a.wire.after round.replies round.requests =
      a.wire.after (round.replies ++ []) (round.requests ++ [])
    rw [List.append_nil, List.append_nil]
  passing _ mem := absurd mem List.not_mem_nil
  within := pos
  ends passing := (ends passing).symm
  stored _ gives := cache_took_of_ok gives
  kept _ fails := cache_took_of_error fails

/-- A round that fails for a while in front of others. -/
theorem Repeats.cons {limit : Nat} {round last : Round} {rest : List Round} {e : SignInError}
    (is : IsRound a.settings round) (next : round.replies = a.wire.upcoming round.replies.length)
    (fails : round.outcome = .error e) (passing : round.IsPassing)
    (repeats : Repeats limit (a.took round) rest last b) :
    Repeats (limit + 1) a (round :: rest) last b where
  rounds other mem := by
    rcases List.mem_cons.mp mem with rfl | later
    · exact is
    · exact repeats.rounds other later
  replies := by
    have later : _ = (a.wire.after round.replies round.requests).upcoming _ := repeats.replies
    rw [List.cons_append, List.flatMap_cons, List.length_append,
      a.wire.upcoming_add round.replies round.requests, ← next, ← later]
  wire := by
    rw [repeats.wire, took, Wire.after_after]
    rfl
  passing other mem := by
    rcases List.mem_cons.mp mem with rfl | later
    · exact passing
    · exact repeats.passing other later
  within := Nat.succ_lt_succ repeats.within
  ends ends := congrArg (· + 1) (repeats.ends ends)
  stored token gives := by
    rw [repeats.stored token gives, cache_took_of_error fails]
    rfl
  kept e' fails' := by rw [repeats.kept e' fails', cache_took_of_error fails]

/-- Attempts up to the one that counts are rounds that are repeated. -/
theorem repeats_executeFrom (wait : Nat → Duration) (more attempt : Nat)
    (stale : a.memory.cache.valid? a.now = none) :
    ∃ earlier last,
      Repeats (more + 1) a earlier last
        (Retry.executeFrom wait TokenSource.obtain more attempt a).state ∧
      (Retry.executeFrom wait TokenSource.obtain more attempt a).outcome = last.outcome := by
  -- every further attempt begins where the round of the one before it ends
  induction more generalizing attempt a with
  | zero =>
    obtain ⟨round, is, next, obtains⟩ := exists_round_of_stale stale
    rw [Retry.executeFrom_zero, obtains]
    exact ⟨[], round, .single is next Nat.one_pos fun _ => rfl, rfl⟩
  | succ more ih =>
    obtain ⟨round, is, next, obtains⟩ := exists_round_of_stale stale
    by_cases passing : round.IsPassing
    · obtain ⟨e, fails, transient⟩ := is.isPassing_iff.mp passing
      have still : (a.took round).memory.cache.valid? a.now = none := by
        rw [cache_took_of_error fails]
        exact stale
      obtain ⟨rest, last, repeats, same⟩ := ih (attempt + 1) still
      rw [fails] at obtains
      rw [Retry.executeFrom_of_transient obtains transient]
      exact ⟨round :: rest, last, .cons is next fails passing repeats, same⟩
    · have final : ∀ e, round.outcome = .error e → ¬ e.isTransient := by
        intro e fails transient
        exact passing (is.isPassing_iff.mpr ⟨e, fails, transient⟩)
      rw [Retry.executeFrom_of_final obtains final]
      exact ⟨[], round, .single is next (Nat.succ_pos _) (absurd · passing), rfl⟩

end Authenticator

/-! ## At the gate -/

namespace Calls

variable {settings : IdentitySettings} {s t : Calls}

/-- A call that does a round from its beginning to its end, with nobody else at the gate. -/
structure Does (settings : IdentitySettings) (s : Calls) (call : Nat) (round : Round) (t : Calls) :
    Prop where
  goes : ∃ begun, Step settings s (.begin call) begun ∧ Goes settings call round.replies begun t
  ended : Ended s call round.outcome (s.memory.commit s.now round.outcome) round.requests t

/-- Without a fresh token a call that is alone can do any round. -/
theorem exists_does {call : Nat} {round : Round} (is : IsRound settings round)
    (absent : s.stage call = .absent) (free : s.gate = [])
    (stale : s.memory.cache.valid? s.now = none) : ∃ t, Does settings s call round t := by
  have begins : Step settings s (.begin call) (s.place call .arrived) := .begin absent
  obtain ⟨t, goes, ended⟩ := ends_of_arrived is (stage_place_self s call .arrived) free stale
  refine ⟨t, ⟨_, begins, goes⟩, ended.stage, ended.memory, ended.now, ended.gate, ?_, ended.requests⟩
  intro other ne
  rw [ended.others other ne, stage_place_of_ne _ _ _ _ ne]

/-- Calls at the gate one after another, each of which does a round. Time passes before each. -/
inductive Repeats (settings : IdentitySettings) (pause : Nat → Duration) :
    Calls → Nat → List Round → Calls → Prop
  | nil (s : Calls) (call : Nat) : Repeats settings pause s call [] s
  | cons {s t u : Calls} {call : Nat} {round : Round} {rest : List Round}
      (does : Does settings { s with now := s.now.after (pause call) } call round t)
      (others : Repeats settings pause t (call + 1) rest u) :
      Repeats settings pause s call (round :: rest) u

/-- Calls that do rounds one after another, all of which fail but the last one, and what they leave
behind. -/
structure Retries (settings : IdentitySettings) (pause : Nat → Duration) (s : Calls) (call : Nat)
    (earlier : List Round) (last : Round) (t : Calls) : Prop where
  repeats : Repeats settings pause s call (earlier ++ [last]) t
  ended : t.stage (call + earlier.length) = .finished last.outcome
  gate : t.gate = []
  requests : t.requests = s.requests ++ (earlier ++ [last]).flatMap Round.requests
  /-- A token goes into the cache. -/
  stored : ∀ token, last.outcome = .ok token → t.memory.cache = s.memory.cache.store token t.now
  /-- A failure leaves the cache as it was. -/
  kept : ∀ e, last.outcome = .error e → t.memory.cache = s.memory.cache

variable {pause : Nat → Duration} {call : Nat}

/-- A round with no other one in front. -/
theorem Retries.single {last : Round}
    (does : Does settings { s with now := s.now.after (pause call) } call last t) :
    Retries settings pause s call [] last t where
  repeats := .cons does (.nil ..)
  ended := does.ended.stage
  gate := does.ended.gate
  requests := by
    show t.requests = s.requests ++ (last.requests ++ [])
    rw [does.ended.requests, List.append_nil]
    rfl
  stored token gives := by
    rw [does.ended.memory, does.ended.now, gives]
    rfl
  kept e fails := by
    rw [does.ended.memory, fails]
    rfl

/-- A failed round in front of others. -/
theorem Retries.cons {u : Calls} {round last : Round} {rest : List Round} {e : SignInError}
    (does : Does settings { s with now := s.now.after (pause call) } call round t)
    (fails : round.outcome = .error e)
    (others : Retries settings pause t (call + 1) rest last u) :
    Retries settings pause s call (round :: rest) last u where
  repeats := .cons does others.repeats
  ended := by
    have ended := others.ended
    rw [Nat.add_assoc, Nat.add_comm 1] at ended
    exact ended
  gate := others.gate
  requests := by
    show u.requests = s.requests ++ (round.requests ++ (rest ++ [last]).flatMap Round.requests)
    rw [others.requests, does.ended.requests, List.append_assoc]
    rfl
  stored token gives := by
    rw [others.stored token gives, does.ended.memory, fails]
    rfl
  kept e' fails' := by
    rw [others.kept e' fails', does.ended.memory, fails]
    rfl

/-- Calls that are alone can do any rounds, all of which fail but the last one, whatever time passes
in between. None of them is told the failure of the one before it. -/
theorem exists_retries {earlier : List Round} {last : Round}
    (rounds : ∀ round ∈ earlier ++ [last], IsRound settings round)
    (fails : ∀ round ∈ earlier, ∃ e, round.outcome = .error e)
    (absent : ∀ other, call ≤ other → s.stage other = .absent) (free : s.gate = [])
    (stale : s.memory.cache.valid? s.now = none) :
    ∃ t, Retries settings pause s call earlier last t := by
  -- no round before the last one stores a token, so each begins with the cache as stale as before
  induction earlier generalizing s call with
  | nil =>
    have is := rounds last (List.mem_singleton_self last)
    have later := TokenCache.valid?_eq_none_of_le stale (Nat.le_add_right _ (pause call).nanos)
    obtain ⟨t, does⟩ := exists_does (s := { s with now := s.now.after (pause call) }) is
      (absent call (Nat.le_refl call)) free later
    exact ⟨t, .single does⟩
  | cons round rest ih =>
    have is := rounds round (List.mem_cons_self ..)
    have later := TokenCache.valid?_eq_none_of_le stale (Nat.le_add_right _ (pause call).nanos)
    obtain ⟨t, does⟩ := exists_does (s := { s with now := s.now.after (pause call) }) is
      (absent call (Nat.le_refl call)) free later
    obtain ⟨e, failed⟩ := fails round (List.mem_cons_self ..)
    have still : t.memory.cache.valid? t.now = none := by
      rw [does.ended.memory, does.ended.now, failed]
      exact later
    have untouched : ∀ other, call + 1 ≤ other → t.stage other = .absent := by
      intro other le
      rw [does.ended.others other (by omega)]
      exact absent other (by omega)
    obtain ⟨u, others⟩ := ih (fun other mem => rounds other (List.mem_cons_of_mem _ mem))
      (fun other mem => fails other (List.mem_cons_of_mem _ mem)) untouched does.ended.gate still
    exact ⟨u, .cons does failed others⟩

end Calls

/-! ## A source that repeats its attempts -/

namespace Retrying

/-- One call of an authenticator without a fresh token, with attempts that are repeated, cuts the
answers of the identity provider into rounds and gives the outcome of the last one: the first that
succeeds or fails for good, or the last one that is allowed. It sends the requests of these rounds.
A token that it gives is in the cache, and otherwise the cache is as before. The gate and the failures
that are remembered change none of this: as calls that are alone, the attempts do the same rounds. -/
theorem repeats_of_stale (r : Retrying Authenticator)
    (stale : r.inner.memory.cache.valid? r.inner.now = none) :
    ∃ earlier last,
      Authenticator.Repeats (max r.policy.maxAttempts 1) r.inner earlier last r.obtain.2.inner ∧
      r.obtain.1 = last.outcome ∧
      ∀ (s : Calls) (call : Nat) (pause : Nat → Duration), s.gate = [] →
        (∀ other, call ≤ other → s.stage other = .absent) → s.memory = r.inner.memory →
        s.now = r.inner.now →
          ∃ t, Calls.Retries r.inner.settings pause s call earlier last t := by
  have limit : r.policy.attempts - 1 + 1 = max r.policy.maxAttempts 1 := by
    show max r.policy.maxAttempts 1 - 1 + 1 = max r.policy.maxAttempts 1
    omega
  obtain ⟨earlier, last, repeats, same⟩ :=
    Authenticator.repeats_executeFrom (r.policy.delay 0) (r.policy.attempts - 1) 0 stale
  rw [limit] at repeats
  refine ⟨earlier, last, repeats, same, ?_⟩
  intro s call pause free absent memory now
  have fails : ∀ round ∈ earlier, ∃ e, round.outcome = .error e := by
    intro round mem
    have is := repeats.rounds round (List.mem_append_left _ mem)
    obtain ⟨e, failed, _⟩ := is.isPassing_iff.mp (repeats.passing round mem)
    exact ⟨e, failed⟩
  rw [← memory, ← now] at stale
  exact Calls.exists_retries repeats.rounds fails absent free stale

end Retrying

namespace Sample

/-- Three attempts at a token, of which the first two meet an identity provider that is out of order.
The token in the cache is too old. -/
def patient : Retrying Authenticator where
  policy := ⟨3, ⟨0⟩, ⟨0⟩, 1, 0⟩
  inner := {
    settings
    memory := ⟨⟨settings.tokenTtl, some ⟨"old", ⟨0⟩⟩⟩, none, 1⟩
    now := ⟨100⟩
    wire := .ofReplies
      [.error (.connectionFailed "reset"), granted, .ok (.new 503 "busy"), granted, sold "abc"] }
  stats := .none
  now := ⟨100⟩

end Sample

namespace Retrying

/-- The third attempt gives a token, which takes the place of the one in the cache. -/
theorem third_attempt_gives_token :
    Sample.patient.inner.memory.cache.valid? Sample.patient.inner.now = none ∧
      Sample.patient.obtain.1 = .ok "abc" ∧
      Sample.patient.obtain.2.inner.memory.cache.entry = some ⟨"abc", ⟨100⟩⟩ ∧
      ∃ earlier last,
        Authenticator.Repeats 3 Sample.patient.inner earlier last Sample.patient.obtain.2.inner ∧
        Sample.patient.obtain.1 = last.outcome := by
  have stale : Sample.patient.inner.memory.cache.valid? Sample.patient.inner.now = none := by decide
  obtain ⟨earlier, last, repeats, same, _⟩ := repeats_of_stale Sample.patient stale
  have gives : Sample.patient.obtain.1 = .ok "abc" := by decide +kernel
  have stored : Sample.patient.obtain.2.inner.memory.cache.entry = some ⟨"abc", ⟨100⟩⟩ := by
    rw [repeats.stored "abc" (same.symm.trans gives)]
    rfl
  exact ⟨stale, gives, stored, earlier, last, repeats, same⟩

end Retrying

end LoanGateway
