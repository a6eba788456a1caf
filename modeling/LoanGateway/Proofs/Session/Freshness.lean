import LoanGateway.Proofs.Session.History
import LoanGateway.Proofs.Session.Reuse
import LoanGateway.Proofs.Session.Writes

/-!
# Tokens are fresh when they are given

A call gets a token from its own handshake, or it reads it from the cache, and then the token is
what a handshake stored last and has not been dropped or become too old. An invalidation therefore
cuts off all calls that begin later from the tokens stored before it.

- `TokenAnswer.IsProper`: what a token looks like.
- `Calls.Stored`: what a run stored last.
- `Calls.exists_stored`: the cache holds what was stored last, and nothing was written since.
- `Calls.Reachable.proper`: handshakes give proper tokens.
- `Calls.tokens_are_fresh`: the main statement.
-/

namespace LoanGateway

/-! ## Proper tokens -/

/-- A token that is worth sending: not empty, without blanks at its ends, and no word for an absent
one. -/
structure TokenAnswer.IsProper (token : String) : Prop where
  ne_empty : token ≠ ""
  begins : ∀ c, token.toList.head? = some c → Text.isBlank c = false
  ends : ∀ c, token.toList.getLast? = some c → Text.isBlank c = false
  ne_null : token ≠ "null"
  ne_undefined : token ≠ "undefined"

/-- The token of an answer is proper. -/
theorem TokenAnswer.isProper_of_token? {answer : TokenAnswer} {token : String}
    (h : answer.token? = some token) : IsProper token := by
  obtain ⟨trimmed, isToken⟩ := Option.filter_eq_some_iff.mp h
  obtain ⟨raw, _, rfl⟩ := Option.map_eq_some_iff.mp trimmed
  have chars : (Text.trimString raw).toList = Text.trim raw.toList := String.toList_ofList
  simp only [TokenAnswer.isToken, Bool.and_eq_true, decide_eq_true_eq] at isToken
  exact
    { ne_empty := isToken.1.1
      begins := fun c first => Text.isBlank_of_head?_trim (chars ▸ first)
      ends := fun c last => Text.isBlank_of_getLast?_trim (chars ▸ last)
      ne_null := isToken.1.2
      ne_undefined := isToken.2 }

/-- The token of a handshake is proper. -/
theorem Handshake.isProper_of_tokenOf {reply : Reply} {token : String}
    (h : tokenOf reply = .ok token) : TokenAnswer.IsProper token := by
  unfold tokenOf at h
  split at h
  · cases h
  · split at h
    · rename_i given
      cases h
      unfold tokenOfBody? at given
      split at given
      · exact TokenAnswer.isProper_of_token? given
      · cases given
    · cases h

namespace Calls

variable {settings : IdentitySettings} {s t u r : Calls} {action : Action}
  {actions before after : List Action} {call owner : Nat} {token : String}

/-- A handshake ends well only with a proper token. -/
theorem Reachable.proper (h : Reachable settings s) (settled : s.stage call = .settled (.ok token)) :
    TokenAnswer.IsProper token := by
  have all : ∀ call token, s.stage call = .settled (.ok token) → TokenAnswer.IsProper token := by
    refine h.induction (P := fun s => ∀ call token, s.stage call = .settled (.ok token) →
      TokenAnswer.IsProper token) nofun ?_
    intro s action t step before call token settled
    by_cases mover : action.call? = some call
    · cases step with
      | @settle _ reply _ =>
        cases mover
        rw [stage_place_self] at settled
        exact Handshake.isProper_of_tokenOf (Stage.settled.inj settled)
      | invalidate => cases mover
      | pass _ => cases mover
      | _ =>
        cases mover
        rw [stage_place_self] at settled
        cases settled
    · exact before call token ((stage_of_step step mover).symm.trans settled)
  exact all call token settled

/-! ## What was stored last -/

/-- The run to `s` stored the token in the state `r`, when a handshake that gave it was completed.
Since then nothing was written to the cache, neither by a handshake nor by an invalidation. -/
def Stored (settings : IdentitySettings) (actions : List Action) (s : Calls) (token : String)
    (r : Calls) : Prop :=
  ∃ owner before since t, actions = before ++ .proceed owner :: since ∧
    (initial settings).run? settings before = some r ∧ r.stage owner = .settled (.ok token) ∧
    r.step? settings (.proceed owner) = some t ∧ t.run? settings since = some s ∧
    t.writes settings since = []

namespace Stored

/-- An action that writes nothing. -/
theorem append (h : Stored settings actions s token r) (step : Step settings s action t)
    (unwritten : s.write? action = none) : Stored settings (actions ++ [action]) t token r := by
  obtain ⟨owner, before, since, v, rfl, reached, settled, commits, goes, nothing⟩ := h
  refine ⟨owner, before, since ++ [action], v, by simp, reached, settled, commits,
    run?_snoc goes step, ?_⟩
  rw [writes_snoc goes step, nothing, unwritten]
  rfl

/-- The end of a handshake. -/
theorem last (run : (initial settings).run? settings actions = some s)
    (settled : s.stage owner = .settled (.ok token)) (step : Step settings s (.proceed owner) t) :
    Stored settings (actions ++ [.proceed owner]) t token s :=
  ⟨owner, actions, [], t, rfl, run, settled, step?_of_step step, rfl, rfl⟩

theorem proper (h : Stored settings actions s token r) : TokenAnswer.IsProper token := by
  obtain ⟨owner, before, _, _, _, reached, settled, _⟩ := h
  exact Reachable.proper ⟨before, reached⟩ settled

end Stored

/-- What is cached is what was stored last. -/
theorem exists_stored {fetched : Instant} (run : (initial settings).run? settings actions = some s)
    (cached : s.memory.cache.entry = some ⟨token, fetched⟩) :
    ∃ r, Stored settings actions s token r ∧ r.now = fetched := by
  have all := history_induction (P := fun actions s => ∀ token fetched,
    s.memory.cache.entry = some ⟨token, fetched⟩ →
      ∃ r, Stored settings actions s token r ∧ r.now = fetched) run nofun ?_
  · exact all token fetched cached
  · intro actions s action t run step before token fetched cached
    rw [entry_step step] at cached
    cases written : s.write? action with
    | none =>
      rw [written] at cached
      obtain ⟨r, stored, now⟩ := before token fetched cached
      exact ⟨r, stored.append step written, now⟩
    | some entry =>
      rw [written] at cached
      obtain rfl : entry = some ⟨token, fetched⟩ := cached
      -- only the end of a handshake writes a token
      cases action with
      | proceed owner =>
        obtain ⟨bought, is, same⟩ := Option.map_eq_some_iff.mp written
        cases same
        exact ⟨s, .last run (Stage.bought?_eq_some_iff.mp is) step, rfl⟩
      | invalidate => cases written
      | _ => cases written

/-- What is read from the cache was stored last, less than the time to live ago. -/
theorem exists_stored_of_valid? (run : (initial settings).run? settings actions = some s)
    (fresh : s.memory.cache.valid? s.now = some token) :
    ∃ r, Stored settings actions s token r ∧
      s.now.nanos < r.now.nanos + settings.tokenTtl.nanos := by
  obtain ⟨fetched, cached⟩ := TokenCache.entry_of_valid? fresh
  obtain ⟨r, stored, rfl⟩ := exists_stored run cached
  refine ⟨r, stored, ?_⟩
  have ttl : s.memory.cache.ttl = settings.tokenTtl := Reachable.ttl ⟨actions, run⟩
  have young : s.now.nanos - r.now.nanos < s.memory.cache.ttl.nanos :=
    TokenCache.young_of_valid? cached fresh
  rw [ttl] at young
  omega

/-! ## Before and after an invalidation -/

/-- An invalidation and a step of a call in one run: either of them may come first. -/
theorem split_cases {later rest : List Action}
    (split : before ++ .invalidate :: after = later ++ .proceed owner :: rest) :
    (∃ between, later = before ++ .invalidate :: between ∧
        after = between ++ .proceed owner :: rest) ∨
      ∃ between, before = later ++ .proceed owner :: between ∧
        rest = between ++ .invalidate :: after := by
  rcases List.append_eq_append_iff.mp split with ⟨between, rfl, tail⟩ | ⟨between, rfl, tail⟩
  · cases between with
    | nil => cases tail
    | cons first between =>
      cases tail
      exact .inl ⟨between, rfl, rfl⟩
  · cases between with
    | nil => cases tail
    | cons first between =>
      cases tail
      exact .inr ⟨between, rfl, rfl⟩

/-- What a call does that begins after an invalidation comes after it. -/
theorem after_of_absent {later rest : List Action}
    (split : before ++ .invalidate :: after = later ++ .proceed call :: rest)
    (reached : (initial settings).run? settings before = some t) (absent : t.stage call = .absent)
    (run : (initial settings).run? settings later = some u) (begun : u.stage call ≠ .absent) :
    ∃ between, later = before ++ .invalidate :: between ∧
      after = between ++ .proceed call :: rest := by
  rcases split_cases split with later | ⟨between, rfl, _⟩
  · exact later
  · obtain ⟨v, here, goes⟩ := run?_append_eq_some_iff.mp reached
    cases run.symm.trans here
    exact absurd absent
      (run_induction (P := fun t => t.stage call ≠ .absent)
        (fun _ step begun => begun_of_step step begun) goes begun)

/-- What was stored last in a run with an invalidation was stored after it. -/
theorem Stored.after_invalidation (h : Stored settings (before ++ .invalidate :: after) s token r) :
    ∃ owner between rest, after = between ++ .proceed owner :: rest ∧
      (initial settings).run? settings (before ++ .invalidate :: between) = some r ∧
      r.stage owner = .settled (.ok token) := by
  obtain ⟨owner, earlier, since, v, split, reached, settled, _, goes, unwritten⟩ := h
  rcases split_cases split with ⟨between, rfl, rfl⟩ | ⟨between, _, rfl⟩
  · exact ⟨owner, between, since, rfl, reached, settled⟩
  · refine absurd ?_ (not_mem_of_writes_eq_nil goes unwritten)
    exact List.mem_append_right _ List.mem_cons_self

/-! ## Freshness -/

/-- Where a call has its token from: from its own handshake, or from one of its two looks into the
cache. -/
theorem exists_source (run : (initial settings).run? settings actions = some s)
    (ended : s.stage call = .finished (.ok token)) :
    (∃ t, Completes settings actions call (.ok token) t) ∨
      ∃ before after t, actions = before ++ .proceed call :: after ∧
        (initial settings).run? settings before = some t ∧
        (t.stage call = .arrived ∨ ∃ seen, t.stage call = .admitted seen) ∧
        t.memory.cache.valid? t.now = some token := by
  have has : (s.stage call).outcome? = some (.ok token) := by
    rw [ended]
    rfl
  obtain ⟨before, after, t, rfl, reached, origin⟩ := exists_origin run has
  cases origin with
  | served stage fresh => exact .inr ⟨before, after, t, rfl, reached, .inl stage, fresh⟩
  | @told seen _ stage known =>
    exact .inr ⟨before, after, t, rfl, reached, .inr ⟨seen, stage⟩, Memory.valid?_of_known? known⟩
  | completed stage => exact .inl ⟨t, before, after, rfl, reached, stage⟩

/-- A token that a call ends with is the result of its own handshake, or else it was read from the
cache while the call was under way, and then a handshake had stored it less than the time to live
ago and nothing had been written to the cache since. If the call began after an invalidation, the
token comes from a handshake that was completed after that. All tokens, cached or given, are
proper. -/
theorem tokens_are_fresh (settings : IdentitySettings) (actions : List Action) (s : Calls)
    (run : (initial settings).run? settings actions = some s) :
    (∀ call token, s.stage call = .finished (.ok token) →
        (∃ t, Completes settings actions call (.ok token) t) ∨
          ∃ before after t r, actions = before ++ .proceed call :: after ∧
            (initial settings).run? settings before = some t ∧
            (t.stage call = .arrived ∨ ∃ seen, t.stage call = .admitted seen) ∧
            t.memory.cache.valid? t.now = some token ∧ Stored settings before t token r ∧
            t.now.nanos < r.now.nanos + settings.tokenTtl.nanos) ∧
      (∀ before after t call token, actions = before ++ .invalidate :: after →
        (initial settings).run? settings before = some t → t.stage call = .absent →
        s.stage call = .finished (.ok token) →
        ∃ owner between rest r, after = between ++ .proceed owner :: rest ∧
          (initial settings).run? settings (before ++ .invalidate :: between) = some r ∧
          r.stage owner = .settled (.ok token)) ∧
      ∀ token, ((∃ fetched, s.memory.cache.entry = some ⟨token, fetched⟩) ∨
        ∃ call, s.stage call = .finished (.ok token)) → TokenAnswer.IsProper token := by
  refine ⟨?_, ?_, ?_⟩
  · intro call token ended
    rcases exists_source run ended with own | ⟨before, after, t, split, reached, look, fresh⟩
    · exact .inl own
    · obtain ⟨r, stored, young⟩ := exists_stored_of_valid? reached fresh
      exact .inr ⟨before, after, t, r, split, reached, look, fresh, stored, young⟩
  · rintro before after t call token rfl reached absent ended
    rcases exists_source run ended with ⟨r, earlier, rest, split, here, settled⟩ |
      ⟨earlier, rest, u, split, here, look, fresh⟩
    · obtain ⟨between, rfl, rfl⟩ :=
        after_of_absent split reached absent here (by rw [settled]; nofun)
      exact ⟨call, between, rest, r, rfl, here, settled⟩
    · have begun : u.stage call ≠ .absent := by
        rcases look with stage | ⟨_, stage⟩ <;> (rw [stage]; nofun)
      obtain ⟨between, rfl, rfl⟩ := after_of_absent split reached absent here begun
      obtain ⟨r, stored, _⟩ := exists_stored_of_valid? here fresh
      obtain ⟨owner, middle, since, rfl, at_r, settled⟩ := stored.after_invalidation
      exact ⟨owner, middle, since ++ .proceed call :: rest, r, by simp, at_r, settled⟩
  · rintro token (⟨fetched, cached⟩ | ⟨call, ended⟩)
    · obtain ⟨r, stored, _⟩ := exists_stored run cached
      exact stored.proper
    · rcases exists_source run ended with ⟨t, before, _, _, reached, settled⟩ |
        ⟨_, _, t, _, reached, _, fresh⟩
      · exact Reachable.proper ⟨before, reached⟩ settled
      · obtain ⟨r, stored, _⟩ := exists_stored_of_valid? reached fresh
        exact stored.proper

end Calls

namespace Sample

/-- A call does a handshake and is over, its token is dropped, and two calls come. The first of them
does a handshake, and the second one waits at the gate and ends with its token. -/
def renewed : List Action :=
  [[.begin 0], steps 0 6, [.answer 0 granted, .proceed 0, .answer 0 (sold "abc")], steps 0 2,
    [.invalidate, .begin 1, .begin 2], steps 1 6, steps 2 3,
    [.answer 1 granted, .proceed 1, .answer 1 (sold "def")], steps 1 2, steps 2 3].flatten

end Sample

namespace Calls

/-- The last of three calls, which began after an invalidation, ends with the token of a handshake
that was completed since. -/
theorem third_call_gets_new_token :
    ∃ before after t s, Sample.renewed = before ++ .invalidate :: after ∧
      (initial Sample.settings).run? Sample.settings before = some t ∧ t.stage 2 = .absent ∧
      t.memory.cache.valid? t.now = some "abc" ∧
      (initial Sample.settings).run? Sample.settings Sample.renewed = some s ∧
      s.stage 2 = .finished (.ok "def") ∧ TokenAnswer.IsProper "def" ∧
      ∃ owner between rest r, after = between ++ .proceed owner :: rest ∧
        (initial Sample.settings).run? Sample.settings (before ++ .invalidate :: between) = some r ∧
        r.stage owner = .settled (.ok "def") := by
  have split : Sample.renewed = Sample.renewed.take 12 ++ .invalidate :: Sample.renewed.drop 13 :=
    rfl
  have starts : ((initial Sample.settings).run? Sample.settings (Sample.renewed.take 12)).map
      (fun t => ((t.begin? 2).isSome, t.memory.cache.valid? t.now)) =
        some (true, some "abc") := by decide +kernel
  have ends : ((initial Sample.settings).run? Sample.settings Sample.renewed).map
      (fun s => (s.outcome? 2).bind Except.toOption) = some (some "def") := by decide +kernel
  obtain ⟨t, reached, here⟩ := Option.map_eq_some_iff.mp starts
  obtain ⟨free, cached⟩ := Prod.mk.inj here
  have absent : t.stage 2 = .absent := by
    unfold begin? at free
    split at free
    · assumption
    · cases free
  obtain ⟨s, run, last⟩ := Option.map_eq_some_iff.mp ends
  have finished : s.stage 2 = .finished (.ok "def") := by
    obtain ⟨outcome, is, ok⟩ := Option.bind_eq_some_iff.mp last
    cases outcome with
    | error e => cases ok
    | ok token =>
      cases ok
      unfold outcome? at is
      split at is
      · cases is
        assumption
      · cases is
  obtain ⟨_, renews, proper⟩ := tokens_are_fresh Sample.settings Sample.renewed s run
  exact ⟨_, _, t, s, split, reached, absent, cached, run, finished,
    proper "def" (.inr ⟨2, finished⟩), renews _ _ t 2 "def" split reached absent finished⟩

end Calls

end LoanGateway
