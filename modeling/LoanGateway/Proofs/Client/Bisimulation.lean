import LoanGateway.Proofs.Client.Traffic
import LoanGateway.Retry.Source

/-!
# Sources that cannot be told apart

When two sources of tokens give equal outcomes whatever is asked of them, sources that repeat their
attempts do so too, and clients of them give equal results and send equal requests to the backend.

- `TokenSource.IsBisimulation`: relations between sources that cannot be told apart.
- `Retrying.Alike`: sources with repeated attempts over related ones.
- `Client.Alike`: clients that differ in their sources alone, which are related.
- `Client.Alike.perform`, `Client.Alike.performAll`: operations keep clients so and give equal results.
-/

namespace LoanGateway

/-- Related sources give the same outcome, and they stay related whatever is asked of them. -/
structure TokenSource.IsBisimulation {σ τ : Type} [TokenSource σ] [TokenSource τ]
    (R : σ → τ → Prop) : Prop where
  outcome : ∀ {s t}, R s t → (TokenSource.obtain s).1 = (TokenSource.obtain t).1
  obtain : ∀ {s t}, R s t → R (TokenSource.obtain s).2 (TokenSource.obtain t).2
  invalidate : ∀ {s t}, R s t → R (TokenSource.invalidate s) (TokenSource.invalidate t)

open TokenSource (IsBisimulation)

variable {σ τ : Type} {R : σ → τ → Prop}

/-! ## Repeated attempts -/

namespace Retry

/-- Executions that differ in the states that they leave alone, which are related. -/
structure Execution.Alike {α : Type} (R : σ → τ → Prop) (e : Execution σ α)
    (f : Execution τ α) : Prop where
  outcome : e.outcome = f.outcome
  state : R e.state f.state
  waits : e.waits = f.waits

/-- They count alike. -/
theorem Execution.Alike.add_eq {α : Type} {e : Execution σ α} {f : Execution τ α}
    (alike : e.Alike R f) (stats : Stats) : stats.add e = stats.add f := by
  unfold Stats.add attempts
  rw [alike.outcome, alike.waits]

variable [TokenSource σ] [TokenSource τ]

/-- Attempts of related sources end alike, after as many attempts. -/
theorem alike_executeFrom (bisimulation : IsBisimulation R) (wait : Nat → Duration)
    (more attempt : Nat) {s : σ} {t : τ} (related : R s t) :
    (executeFrom wait TokenSource.obtain more attempt s).Alike R
      (executeFrom wait TokenSource.obtain more attempt t) := by
  induction more generalizing attempt s t with
  | zero => exact ⟨bisimulation.outcome related, bisimulation.obtain related, rfl⟩
  | succ more ih =>
    have after := bisimulation.obtain related
    have first : TokenSource.obtain s = ((TokenSource.obtain s).1, (TokenSource.obtain s).2) := rfl
    have second : TokenSource.obtain t = ((TokenSource.obtain s).1, (TokenSource.obtain t).2) :=
      Prod.ext (bisimulation.outcome related).symm rfl
    by_cases again : ∃ e, (TokenSource.obtain s).1 = .error e ∧ e.isTransient = true
    · obtain ⟨e, fails, transient⟩ := again
      rw [fails] at first second
      rw [executeFrom_of_transient first transient, executeFrom_of_transient second transient]
      have rest := ih (attempt + 1) after
      exact ⟨rest.outcome, rest.state, congrArg (wait attempt :: ·) rest.waits⟩
    · have final : ∀ e, (TokenSource.obtain s).1 = .error e → ¬ e.isTransient = true := by
        intro e fails transient
        exact again ⟨e, fails, transient⟩
      rw [executeFrom_of_final first final, executeFrom_of_final second final]
      exact ⟨rfl, after, rfl⟩

end Retry

namespace Retrying

/-- Sources that repeat the attempts of related ones in the same way. -/
structure Alike (R : σ → τ → Prop) (r : Retrying σ) (q : Retrying τ) : Prop where
  policy : r.policy = q.policy
  inner : R r.inner q.inner
  stats : r.stats = q.stats
  now : r.now = q.now

variable [TokenSource σ] [TokenSource τ]

theorem Alike.execution {r : Retrying σ} {q : Retrying τ} (bisimulation : IsBisimulation R)
    (alike : Alike R r q) : r.execution.Alike R q.execution := by
  unfold Retrying.execution Retry.execute
  rw [← alike.policy]
  exact Retry.alike_executeFrom bisimulation _ _ 0 alike.inner

/-- Sources with repeated attempts cannot be told apart if those below cannot. -/
theorem isBisimulation_alike (bisimulation : IsBisimulation R) : IsBisimulation (Alike R) where
  outcome alike := (alike.execution bisimulation).outcome
  obtain {r q} alike := by
    have executions := alike.execution bisimulation
    refine ⟨alike.policy, executions.state, ?_, ?_⟩
    · show r.stats.add r.execution = q.stats.add q.execution
      rw [alike.stats, executions.add_eq]
    · show r.execution.waits.foldl Instant.after r.now = q.execution.waits.foldl Instant.after q.now
      rw [alike.now, executions.waits]
  invalidate alike := ⟨alike.policy, bisimulation.invalidate alike.inner, alike.stats, alike.now⟩

end Retrying

/-! ## Clients -/

namespace Client

variable {α β : Type}

/-- Clients that differ in their sources alone, which are related. -/
structure Alike (R : σ → τ → Prop) (c : Client σ) (d : Client τ) : Prop where
  settings : c.settings = d.settings
  wire : c.wire = d.wire
  source : R c.source d.source
  desk : c.desk = d.desk

/-- Equal results, and clients that differ in their sources alone. -/
structure AlikeWith (R : σ → τ → Prop) (x : β × Client σ) (y : β × Client τ) : Prop where
  result : x.1 = y.1
  client : Alike R x.2 y.2

/-- What is made of equal results is equal. -/
theorem AlikeWith.map {x : α × Client σ} {y : α × Client τ} (alike : AlikeWith R x y) (f : α → β) :
    AlikeWith R (f x.1, x.2) (f y.1, y.2) := ⟨congrArg f alike.result, alike.client⟩

variable [TokenSource σ] [TokenSource τ] {c : Client σ} {d : Client τ}

namespace Alike

/-- A refused token is forgotten on both sides. -/
theorem heed (bisimulation : IsBisimulation R) (alike : Alike R c d) (reply : Reply) :
    Alike R (c.heed reply) (d.heed reply) := by
  unfold Client.heed
  split
  · exact ⟨alike.settings, alike.wire, bisimulation.invalidate alike.source, alike.desk⟩
  · exact alike

theorem asked (bisimulation : IsBisimulation R) (alike : Alike R c d) : Alike R c.asked d.asked :=
  ⟨alike.settings, alike.wire, bisimulation.obtain alike.source, alike.desk⟩

theorem token (bisimulation : IsBisimulation R) (alike : Alike R c d) :
    AlikeWith R c.token d.token := by
  rw [token_eq, token_eq, ← bisimulation.outcome alike.source]
  cases (TokenSource.obtain c.source).1 with
  | error e => exact ⟨rfl, alike.asked bisimulation⟩
  | ok token => exact ⟨rfl, alike.asked bisimulation⟩

theorem exchange (bisimulation : IsBisimulation R) (alike : Alike R c d) (request : Request)
    (phrases : List String) :
    AlikeWith R (c.exchange request phrases) (d.exchange request phrases) := by
  have asked := alike.asked bisimulation
  rw [exchange_eq, exchange_eq, ← bisimulation.outcome alike.source, ← alike.wire]
  cases (TokenSource.obtain c.source).1 with
  | error e => exact ⟨rfl, asked⟩
  | ok token =>
    have sent : Alike R { c.asked with wire := (c.wire.send (request.withBearer token)).2 }
        { d.asked with wire := (c.wire.send (request.withBearer token)).2 } :=
      ⟨asked.settings, rfl, asked.source, asked.desk⟩
    exact ⟨rfl, sent.heed bisimulation _⟩

theorem send (bisimulation : IsBisimulation R) (alike : Alike R c d) (method : Method)
    (path : String) (body : Payload) (resource : Resource) :
    AlikeWith R (c.send method path body resource) (d.send method path body resource) := by
  unfold Client.send
  rw [← alike.settings]
  cases (Request.new method (c.settings.urlFor path).text).json body with
  | error fault => exact ⟨rfl, alike⟩
  | ok request => exact alike.exchange bisimulation request _

theorem submitFor (bisimulation : IsBisimulation R) (alike : Alike R c d) (bundle : Bundle)
    (resource : Resource) :
    AlikeWith R (c.submitFor bundle resource) (d.submitFor bundle resource) := by
  have asked := alike.asked bisimulation
  unfold Client.submitFor
  split
  · exact ⟨rfl, alike⟩
  · rw [token_eq, token_eq, ← bisimulation.outcome alike.source]
    cases (TokenSource.obtain c.source).1 with
    | error e => exact ⟨rfl, asked⟩
    | ok token =>
      dsimp only
      rw [← asked.settings, ← asked.wire, ← asked.desk]
      exact ⟨rfl, rfl, rfl, asked.source, rfl⟩

theorem get (bisimulation : IsBisimulation R) (alike : Alike R c d) (path : String)
    (resource : Resource) (decode : Json → Option α) :
    AlikeWith R (c.get path resource decode) (d.get path resource decode) := by
  unfold Client.get
  rw [← alike.settings]
  exact (alike.exchange bisimulation _ _).map fun result => result.bind (readAnswer decode _)

theorem post (bisimulation : IsBisimulation R) (alike : Alike R c d) (path : String)
    (body : Payload) (resource : Resource) :
    AlikeWith R (c.post path body resource) (d.post path body resource) := by
  unfold Client.post
  rw [← alike.settings]
  exact (alike.send bisimulation .post path body resource).map fun result =>
    result.map fun response =>
      (response.header? "location").bind (Backend.locationIdentifier? c.settings.baseUrl)

theorem put (bisimulation : IsBisimulation R) (alike : Alike R c d) (path : String)
    (body : Payload) (resource : Resource) :
    AlikeWith R (c.put path body resource) (d.put path body resource) :=
  (alike.send bisimulation .put path body resource).map fun result => result.map fun _ => ()

/-- Clients whose sources cannot be told apart give equal results, and they send the same. -/
theorem perform (bisimulation : IsBisimulation R) (alike : Alike R c d) (operation : Operation α) :
    AlikeWith R (c.perform operation) (d.perform operation) := by
  cases operation with
  | token => exact (alike.token bisimulation).map _
  | get path resource decode => exact (alike.get bisimulation path resource decode).map _
  | post path body resource => exact (alike.post bisimulation path body resource).map _
  | put path body resource => exact (alike.put bisimulation path body resource).map _
  | submit bundle => exact (alike.submitFor bisimulation bundle bundle.resource).map _
  | submitFor bundle resource => exact (alike.submitFor bisimulation bundle resource).map _

/-- They do so however many operations there are. -/
theorem performAll (bisimulation : IsBisimulation R) (alike : Alike R c d)
    (operations : List (Operation α)) :
    AlikeWith R (c.performAll operations) (d.performAll operations) := by
  induction operations generalizing c d with
  | nil => exact ⟨rfl, alike⟩
  | cons operation rest ih =>
    have first := alike.perform bisimulation operation
    have others := ih first.client
    rw [performAll_cons, performAll_cons, first.result]
    exact others.map ((d.perform operation).1 :: ·)

end Alike

end Client

end LoanGateway
