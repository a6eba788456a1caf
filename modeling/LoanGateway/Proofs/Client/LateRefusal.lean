import LoanGateway.Proofs.Client.Moves
import LoanGateway.Proofs.Session.Writes

/-!
# A refusal that comes late

An operation that is told that its token is not accepted drops whatever is cached then. This is its
own token unless the cache was written to since the call for it. When a handshake has stored a newer
token meanwhile, it is the newer one that is dropped.

- `Errands.write?`, `Errands.writes`: what moves write to the cache.
- `Errands.entry_run`: the cache holds what was written last.
- `Errands.Carrying`: the invariant that requests go with the tokens of their calls.
- `Errands.refusal_drops_last_write`: the main statement.
-/

namespace LoanGateway

/-- The token that the request of an operation was sent with. -/
def Progress.token? {α : Type} : Progress α → Option String
  | sent _ token | answered _ token _ => some token
  | _ => none

/-- The token of a request that was answered, and whether it was refused. -/
def Progress.verdict? {α : Type} : Progress α → Option (String × Bool)
  | answered _ token reply => some (token, reply.refusesToken)
  | _ => none

namespace Errands

variable {α : Type} {backend : BackendSettings} {identity : IdentitySettings} {s t u : Errands α}
  {move : Move α}

/-- What is cached. -/
def entry (s : Errands α) : Option CachedToken := s.calls.memory.cache.entry

/-- What a move writes to the cache: a handshake that ends well stores its token, and an
invalidation and a refusal leave nothing. -/
def write? (s : Errands α) : Move α → Option (Option CachedToken)
  | .session action => s.calls.write? action
  | .conclude number =>
    match s.progress number with
    | .answered _ _ reply => if reply.refusesToken then some none else none
    | _ => none
  | .start _ _ | .send _ | .answer _ _ | .drop _ => none

/-- What is written to the cache in the course of some moves. -/
def writes (backend : BackendSettings) (identity : IdentitySettings) (s : Errands α) :
    List (Move α) → List (Option CachedToken)
  | [] => []
  | move :: rest =>
    (s.write? move).toList ++
      match s.step? backend identity move with
      | some t => t.writes backend identity rest
      | none => []

/-- Every move leaves the cache alone or writes to it what `write?` says. -/
theorem entry_step (step : Step backend identity s move t) :
    t.entry = (s.write? move).getD s.entry := by
  cases step with
  | start _ _ begins => exact Calls.entry_step begins
  | session step _ => exact Calls.entry_step step
  | conclude answered =>
    simp only [write?, answered, entry, calls_place, heed]
    split <;> rfl
  | dropCall _ drops => exact Calls.entry_step drops
  | _ => rfl

/-- The cache holds what was written last. -/
theorem entry_run {moves : List (Move α)} (run : s.run? backend identity moves = some t) :
    t.entry = (s.writes backend identity moves).getLast?.getD s.entry := by
  induction moves generalizing s with
  | nil =>
    cases run
    rfl
  | cons move rest ih =>
    obtain ⟨u, first, run⟩ := run?_cons_eq_some_iff.mp run
    -- what the rest writes comes after what this move writes
    have here : (s.write? move).toList.getLast? = s.write? move := by
      cases s.write? move <;> rfl
    rw [writes, step?_of_step first, List.getLast?_append, Option.getD_or, here, ih run,
      entry_step first]

/-! ## Requests and their tokens -/

/-- Requests are sent with the tokens of their calls. -/
def Carrying (s : Errands α) : Prop :=
  ∀ number token, (s.progress number).token? = some token →
    (s.calls.stage number).given? = some token

/-- What a call was given stays with it. -/
theorem given?_step {call : Nat} {token : String} (step : Step backend identity s move t)
    (h : (s.calls.stage call).given? = some token) :
    (t.calls.stage call).given? = some token := by
  cases step with
  | start _ _ begins => exact Calls.given?_step begins h
  | session step _ => exact Calls.given?_step step h
  | conclude _ =>
    simp only [calls_place, heed]
    split <;> exact h
  | dropCall _ drops => exact Calls.given?_step drops h
  | _ => exact h

/-- A token that a call is given is in the cache at that time. -/
theorem entry_of_given? {call : Nat} {token : String} (step : Step backend identity s move t)
    (before : (s.calls.stage call).given? = none)
    (after : (t.calls.stage call).given? = some token) :
    ∃ fetched, t.entry = some ⟨token, fetched⟩ := by
  cases step with
  | start _ _ begins => exact Calls.entry_of_given? begins before after
  | session step _ => exact Calls.entry_of_given? step before after
  | conclude _ =>
    simp only [calls_place, heed] at after
    split at after <;> exact nomatch before.symm.trans after
  | dropCall _ drops => exact Calls.entry_of_given? drops before after
  | _ => exact nomatch before.symm.trans after

namespace Carrying

theorem initial : Carrying (initial identity : Errands α) := nofun

/-- The calls go on. -/
theorem calls (h : Carrying s) {calls : Calls}
    (keeps : ∀ call token, (s.calls.stage call).given? = some token →
      (calls.stage call).given? = some token) : Carrying { s with calls } :=
  fun number token carries => keeps number token (h number token carries)

/-- An operation moves on. -/
theorem place (h : Carrying s) {number : Nat} {progress : Progress α}
    (own : ∀ token, progress.token? = some token →
      (s.calls.stage number).given? = some token) : Carrying (s.place number progress) := by
  intro other token carries
  by_cases same : other = number
  · rw [same, progress_place_self] at carries
    rw [same]
    exact own token carries
  · rw [progress_place_of_ne _ _ _ _ same] at carries
    exact h other token carries

theorem record (h : Carrying s) (event : Event) : Carrying (s.record event) := h

end Carrying

/-- Every move preserves that requests carry the tokens of their calls. -/
theorem carrying_step (step : Step backend identity s move t) (h : Carrying s) : Carrying t := by
  cases step with
  | start _ _ begins =>
    refine Carrying.place ?_ nofun
    exact h.calls fun _ _ given => Calls.given?_step begins given
  | skip _ _ => exact h.place nofun
  | session step _ => exact h.calls fun _ _ given => Calls.given?_step step given
  | @send number _ _ _ ends =>
    refine (h.record _).place fun token carries => ?_
    cases carries
    show (s.calls.stage number).given? = _
    unfold Calls.outcome? at ends
    split at ends
    · rename_i finished
      cases ends
      rw [finished]
      rfl
    · cases ends
  | fail _ _ => exact h.place nofun
  | @answer number _ _ _ sent =>
    refine (h.record _).place fun token carries => ?_
    cases carries
    exact h number _ (by rw [sent]; rfl)
  | conclude _ =>
    refine Carrying.place ?_ nofun
    unfold heed
    split
    · exact h
    · exact h
  | dropCall _ drops =>
    refine Carrying.place ?_ nofun
    exact h.calls fun _ _ given => Calls.given?_step drops given
  | dropRequest _ => exact h.place nofun

/-! ## Late refusals -/

/-- An operation that heeds a refusal empties the cache, whatever it holds. It holds what was
written to it last since the call of the operation was given its token, and that token if nothing
was. Hence nothing but the refused token is dropped as long as no handshake has stored another one
since, and a token that was stored last is dropped in its place. -/
theorem refusal_drops_last_write (backend : BackendSettings) (identity : IdentitySettings)
    (moves : List (Move α)) (u v : Errands α) (number : Nat) (errand : Errand α) (token : String)
    (reply : Reply)
    (run : (initial identity : Errands α).run? backend identity moves = some u)
    (answered : u.progress number = .answered errand token reply)
    (refused : reply.refusesToken = true)
    (concludes : u.step? backend identity (.conclude number) = some v) :
    v.calls.memory = u.calls.memory.invalidate ∧ v.entry = none ∧
      ∃ before move after s t fetched, moves = before ++ move :: after ∧
        (initial identity : Errands α).run? backend identity before = some s ∧
        s.step? backend identity move = some t ∧ t.run? backend identity after = some u ∧
        (s.calls.stage number).given? = none ∧ (t.calls.stage number).given? = some token ∧
        t.entry = some ⟨token, fetched⟩ ∧
        u.entry = (t.writes backend identity after).getLast?.getD (some ⟨token, fetched⟩) ∧
        ((∀ written ∈ t.writes backend identity after, written = none) →
          u.entry = none ∨ u.entry = some ⟨token, fetched⟩) := by
  have carrying : Carrying u :=
    run_induction (P := Carrying) (fun step h => carrying_step step h) run .initial
  have given : (u.calls.stage number).given? = some token :=
    carrying number token (by rw [answered]; rfl)
  -- the move that gave the call its token
  obtain ⟨before, move, after, s, t, rfl, reached, not_yet, step, now, goes⟩ :=
    exists_first (P := fun s => (s.calls.stage number).given? = some token) run nofun given
  -- it had no other one before, for that would have stayed with it
  have nothing : (s.calls.stage number).given? = none := by
    cases earlier : (s.calls.stage number).given? with
    | none => rfl
    | some other =>
      cases now.symm.trans (given?_step step earlier)
      exact absurd earlier not_yet
  obtain ⟨fetched, entry⟩ := entry_of_given? step nothing now
  have last := entry_run goes
  rw [entry] at last
  have emptied : v.calls.memory = u.calls.memory.invalidate := by
    cases step?_eq_some_iff.mp concludes with
    | conclude here =>
      cases answered.symm.trans here
      simp only [calls_place, heed, refused, if_true]
  refine ⟨emptied, ?_, before, move, after, s, t, fetched, rfl, reached, step?_of_step step, goes,
    nothing, now, entry, last, fun unstored => ?_⟩
  · show v.calls.memory.cache.entry = none
    rw [emptied]
    rfl
  · cases latest : (t.writes backend identity after).getLast? with
    | none =>
      rw [latest] at last
      exact .inr last
    | some written =>
      rw [latest, unstored written (List.mem_of_getLast? latest)] at last
      exact .inl last

end Errands

/-! ## A race -/

namespace Sample

/-- What a call for a token does that has to do a handshake. -/
def handshake (call : Nat) (token : String) : List (Move Json) :=
  [steps call 6, [.answer call granted, .proceed call, .answer call (sold token)],
    steps call 2].flatten.map .session

/-- Two readings. The answer to the first one comes when its token is too old and the second one has
got a new one. -/
def race : List (Move Json) :=
  let reading : Operation Json := .get "Deal" .deal some
  [[.start 0 reading], handshake 0 "first", [.send 0, .session (.pass ⟨60⟩), .start 1 reading],
    handshake 1 "second", [.answer 0 (.ok (.new 401 "Unauthorized"))]].flatten

theorem race_ends : ∃ u errand reply,
    (Errands.initial settings).run? backend settings race = some u ∧
      u.progress 0 = .answered errand "first" reply ∧ reply.refusesToken = true ∧
      u.entry = some ⟨"second", ⟨60⟩⟩ := by
  have ends : ((Errands.initial settings).run? backend settings race).map
      (fun u => ((u.progress 0).verdict?, u.entry)) =
        some (some ("first", true), some ⟨"second", ⟨60⟩⟩) := by decide +kernel
  obtain ⟨u, run, here⟩ := Option.map_eq_some_iff.mp ends
  obtain ⟨verdict, entry⟩ := Prod.mk.inj here
  cases progress : u.progress 0 with
  | answered errand token reply =>
    rw [progress] at verdict
    obtain ⟨rfl, refused⟩ := Prod.mk.inj (Option.some.inj verdict)
    exact ⟨u, errand, reply, run, progress, refused, entry⟩
  | _ =>
    rw [progress] at verdict
    cases verdict

end Sample

namespace Errands

/-- What the refusal of a token drops is not always that token. -/
theorem refusal_may_drop_newer_token :
    ¬ ∀ (moves : List (Move Json)) (u v : Errands Json) (number : Nat) (errand : Errand Json)
      (token : String) (reply : Reply),
      (initial Sample.settings).run? Sample.backend Sample.settings moves = some u →
      u.progress number = .answered errand token reply → reply.refusesToken = true →
      u.step? Sample.backend Sample.settings (.conclude number) = some v →
      ∀ cached, u.entry = some cached → v.entry = some cached ∨ cached.value = token := by
  intro always
  obtain ⟨u, errand, reply, run, answered, refused, entry⟩ := Sample.race_ends
  have step : Step Sample.backend Sample.settings u (.conclude 0) _ := .conclude answered
  have dropped : (u.heed reply).entry = none := by
    rw [heed, if_pos refused]
    rfl
  have concludes := step?_of_step step
  rcases always _ u _ 0 errand _ _ run answered refused concludes _ entry with kept | same
  · cases kept.symm.trans dropped
  · exact absurd same (by decide)

/-- The refusal of the first token drops the second one. -/
theorem refusal_in_race_drops_second_token :
    ∃ u v errand reply,
      (initial Sample.settings).run? Sample.backend Sample.settings Sample.race = some u ∧
      u.progress 0 = .answered errand "first" reply ∧ reply.refusesToken = true ∧
      u.entry = some ⟨"second", ⟨60⟩⟩ ∧
      u.step? Sample.backend Sample.settings (.conclude 0) = some v ∧ v.entry = none := by
  obtain ⟨u, errand, reply, run, answered, refused, entry⟩ := Sample.race_ends
  have step : Step Sample.backend Sample.settings u (.conclude 0) _ := .conclude answered
  have concludes := step?_of_step step
  obtain ⟨_, dropped, _⟩ := refusal_drops_last_write Sample.backend Sample.settings Sample.race u _
    0 errand "first" reply run answered refused concludes
  exact ⟨u, _, errand, reply, run, answered, refused, entry, concludes, dropped⟩

end Errands

end LoanGateway
