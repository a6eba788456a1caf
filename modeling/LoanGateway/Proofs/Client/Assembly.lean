import LoanGateway.Client.Assembly
import LoanGateway.Proofs.Checks
import LoanGateway.Proofs.Client.Effects
import LoanGateway.Proofs.Retry.Execution
import LoanGateway.Proofs.Session.Headers

/-!
# What assembled clients do

Whether attempts are repeated is settled when a client is assembled, and nothing else depends on
it: the client does what one does whose attempts always follow the policy of the settings. The
settings bound the requests that operations take.

- `Client.assemble_eq_ok_iff`, `Client.ofVariables_eq_ok_iff`: which clients are assembled.
- `Client.assemble_eq_error_iff`, `Client.ofVariables_eq_error_iff`: the first fault if none is.
- `Provider.exists_repeating_iff`: when attempts are repeated.
- `Provider.IsLike`: sources that cannot be told apart from those with a policy.
- `Provider.attempts`, `Provider.length_sent_obtain_le`: the attempts of a call for a token, and
  their requests.
- `Client.Spends`, `Client.spends_performAll`: the requests of one operation and of many.
- `Client.assembled_follows_policy`: the main statement.
-/

namespace LoanGateway

open Retry (Policy)

/-! ## Assembling -/

namespace Network

/-- The library makes transports with these limits. -/
def Admits (network : Network) (timeout : Duration) (maxRedirects : Nat) : Prop :=
  network.refusal? timeout (if maxRedirects = 0 then none else some maxRedirects) = none

/-- The library makes no transports with these limits, and the error says why. -/
def Refuses (network : Network) (timeout : Duration) (maxRedirects : Nat) (e : SettingsError) :
    Prop :=
  ∃ reason, e = .httpClient reason ∧
    network.refusal? timeout (if maxRedirects = 0 then none else some maxRedirects) = some reason

variable {network : Network} {timeout : Duration} {maxRedirects : Nat} {replies : List Reply}

theorem connect_eq_ok_iff {wire : Wire} :
    network.connect timeout maxRedirects replies = .ok wire ↔
      network.Admits timeout maxRedirects ∧ wire = .ofReplies replies := by
  unfold connect Admits
  cases network.refusal? timeout (if maxRedirects = 0 then none else some maxRedirects) with
  | some reason => exact ⟨nofun, nofun⟩
  | none =>
    constructor
    · intro same
      exact ⟨rfl, (Except.ok.inj same).symm⟩
    · rintro ⟨_, rfl⟩
      rfl

theorem connect_eq_error_iff {e : SettingsError} :
    network.connect timeout maxRedirects replies = .error e ↔
      network.Refuses timeout maxRedirects e := by
  unfold connect Refuses
  cases network.refusal? timeout (if maxRedirects = 0 then none else some maxRedirects) with
  | some reason =>
    constructor
    · intro same
      exact ⟨reason, (Except.error.inj same).symm, rfl⟩
    · rintro ⟨_, rfl, ⟨⟩⟩
      rfl
  | none => exact ⟨nofun, nofun⟩

end Network

namespace Client

variable {network : Network} {backend : BackendSettings} {identity : IdentitySettings}
  {lookup : Settings.Lookup} {c : Client Provider} {e : SettingsError}

/-- A client is assembled if both transports can be made. Nothing has been sent over them. -/
theorem assemble_eq_ok_iff :
    assemble network backend identity = .ok c ↔
      network.Admits identity.timeout identity.maxRedirects ∧
        network.Admits backend.timeout backend.maxRedirects ∧
        c = { new backend (Provider.ofSettings identity (.ofReplies network.identity)) with
          wire := .ofReplies network.backend } := by
  unfold assemble
  simp only [bind_eq_ok_iff, Network.connect_eq_ok_iff]
  constructor
  · rintro ⟨_, ⟨first, rfl⟩, _, ⟨second, rfl⟩, made⟩
    exact ⟨first, second, (Except.ok.inj made).symm⟩
  · rintro ⟨first, second, rfl⟩
    exact ⟨_, ⟨first, rfl⟩, _, ⟨second, rfl⟩, rfl⟩

/-- A transport may be refused, and the one to the identity provider is asked for first. -/
theorem assemble_eq_error_iff :
    assemble network backend identity = .error e ↔
      network.Refuses identity.timeout identity.maxRedirects e ∨
        network.Admits identity.timeout identity.maxRedirects ∧
          network.Refuses backend.timeout backend.maxRedirects e := by
  unfold assemble
  simp only [bind_eq_error_iff, Network.connect_eq_ok_iff, Network.connect_eq_error_iff]
  constructor
  · rintro (first | ⟨_, ⟨admits, _⟩, second | ⟨_, _, ⟨⟩⟩⟩)
    · exact .inl first
    · exact .inr ⟨admits, second⟩
  · rintro (first | ⟨admits, second⟩)
    · exact .inl first
    · exact .inr ⟨_, ⟨admits, rfl⟩, .inl second⟩

/-- A client is assembled from variables if they amount to settings of both parties. -/
theorem ofVariables_eq_ok_iff :
    ofVariables network lookup = .ok c ↔
      ∃ backend, BackendSettings.ofList [.variables lookup] = .ok backend ∧
        ∃ identity, IdentitySettings.ofList [.variables lookup] = .ok identity ∧
          assemble network backend identity = .ok c := by
  unfold ofVariables
  simp only [bind_eq_ok_iff]

/-- A fault in the settings of the backend comes before one in those of the identity provider, and
no transport is asked for before both are accepted. -/
theorem ofVariables_eq_error_iff :
    ofVariables network lookup = .error e ↔
      BackendSettings.ofList [.variables lookup] = .error e ∨
        ∃ backend, BackendSettings.ofList [.variables lookup] = .ok backend ∧
          (IdentitySettings.ofList [.variables lookup] = .error e ∨
            ∃ identity, IdentitySettings.ofList [.variables lookup] = .ok identity ∧
              assemble network backend identity = .error e) := by
  unfold ofVariables
  simp only [bind_eq_error_iff]

end Client

/-! ## Policies of settings -/

namespace Retry.Policy

variable {policy : Policy} {identity : IdentitySettings}

/-- A policy that repeats nothing allows one attempt. -/
theorem attempts_of_not_isEnabled (disabled : ¬ policy.isEnabled = true) : policy.attempts = 1 := by
  have few : ¬ 1 < policy.maxAttempts := fun many => disabled (decide_eq_true many)
  unfold attempts
  omega

/-- The policy of settings repeats something exactly if they allow repetitions. -/
theorem isEnabled_ofSettings_iff : (ofSettings identity).isEnabled = true ↔ 0 < identity.maxRetries := by
  show decide (1 < min (identity.maxRetries + 1) 4294967295) = true ↔ _
  rw [decide_eq_true_eq]
  omega

/-- The policy of settings allows an attempt, and the repetitions that they name. -/
theorem attempts_ofSettings_le : (ofSettings identity).attempts ≤ identity.maxRetries + 1 := by
  show max (min (identity.maxRetries + 1) 4294967295) 1 ≤ _
  omega

end Retry.Policy

/-! ## Sources with a policy -/

namespace Provider

/-- A source that repeats nothing is like one whose policy allows a single attempt. -/
inductive IsLike : Provider → Retrying Authenticator → Prop
  | once {r : Retrying Authenticator} (single : r.policy.attempts = 1) : IsLike (.once r.inner) r
  | repeating (r : Retrying Authenticator) : IsLike (.repeating r) r

theorem IsLike.authenticator_eq {p : Provider} {r : Retrying Authenticator} (like : p.IsLike r) :
    p.authenticator = r.inner := by
  cases like <;> rfl

/-- With a single attempt a source does what the one below does. -/
theorem execution_of_single {r : Retrying Authenticator} (single : r.policy.attempts = 1) :
    r.execution = ⟨r.inner.obtain.1, r.inner.obtain.2, []⟩ := by
  unfold Retrying.execution
  rw [single]
  rfl

/-- A policy with a single attempt cannot be noticed. -/
theorem isBisimulation_isLike : TokenSource.IsBisimulation IsLike where
  outcome like := by
    cases like with
    | once single => exact (congrArg Retry.Execution.outcome (execution_of_single single)).symm
    | repeating => rfl
  obtain {p r} like := by
    cases like with
    | once single =>
      -- the policy stays as it is, and the state below becomes what the single attempt leaves
      have state : (TokenSource.obtain r).2.inner = r.inner.obtain.2 :=
        congrArg Retry.Execution.state (execution_of_single single)
      have after : IsLike (.once (TokenSource.obtain r).2.inner) (TokenSource.obtain r).2 :=
        .once single
      rw [state] at after
      exact after
    | repeating => exact .repeating (TokenSource.obtain r).2
  invalidate {p r} like := by
    cases like with
    | once single =>
      have after : IsLike (.once (TokenSource.invalidate r).inner) (TokenSource.invalidate r) :=
        .once single
      exact after
    | repeating => exact .repeating (TokenSource.invalidate r)

/-- Attempts are repeated exactly if the settings allow repetitions. -/
theorem exists_repeating_iff {identity : IdentitySettings} {wire : Wire} :
    (∃ r, ofSettings identity wire = .repeating r) ↔ 0 < identity.maxRetries := by
  rw [← Policy.isEnabled_ofSettings_iff]
  unfold ofSettings
  dsimp only
  split
  · next enabled => exact iff_of_true ⟨_, rfl⟩ enabled
  · next disabled =>
    refine iff_of_false ?_ disabled
    rintro ⟨r, same⟩
    cases same

/-- A source of the settings is like one with the policy of the settings. -/
theorem isLike_ofSettings (identity : IdentitySettings) (wire : Wire) :
    (ofSettings identity wire).IsLike
      (.new (Policy.ofSettings identity) { Authenticator.new identity [] with wire }) := by
  unfold ofSettings
  dsimp only
  split
  · exact .repeating _
  · next disabled =>
    have single := Policy.attempts_of_not_isEnabled disabled
    exact .once (r := .new (Policy.ofSettings identity) _) single

/-! ## The requests of a call for a token -/

/-- How many attempts a call for a token may take. -/
def attempts : Provider → Nat
  | once _ => 1
  | repeating r => r.policy.attempts

@[simp] theorem attempts_obtain (p : Provider) : (TokenSource.obtain p).2.attempts = p.attempts := by
  cases p <;> rfl

@[simp] theorem attempts_invalidate (p : Provider) :
    (TokenSource.invalidate p).attempts = p.attempts := by
  cases p <;> rfl

/-- A source of settings makes no more attempts than they allow. -/
theorem attempts_ofSettings_le (identity : IdentitySettings) (wire : Wire) :
    (ofSettings identity wire).attempts ≤ identity.maxRetries + 1 := by
  unfold ofSettings
  dsimp only
  split
  · exact Policy.attempts_ofSettings_le
  · exact Nat.succ_pos _

end Provider

/-- A handshake takes two requests at most. -/
theorem Handshake.length_sent_perform_le (s : IdentitySettings) (wire : Wire) :
    (perform s wire).2.sent.length ≤ wire.sent.length + 2 := by
  rw [sent_perform_eq, List.length_append, List.length_cons]
  split
  · exact Nat.le_refl _
  · exact Nat.le_succ _

theorem Authenticator.length_sent_obtain_le (a : Authenticator) :
    (TokenSource.obtain a).2.wire.sent.length ≤ a.wire.sent.length + 2 := by
  show a.obtain.2.wire.sent.length ≤ _
  cases fresh : a.memory.cache.valid? a.now with
  | some token =>
    rw [obtain_of_valid a token fresh]
    exact Nat.le_add_right ..
  | none =>
    rw [obtain_of_none fresh]
    exact Handshake.length_sent_perform_le ..

/-- A policy allows two requests for each attempt. -/
theorem Retrying.length_sent_obtain_le (r : Retrying Authenticator) :
    r.obtain.2.inner.wire.sent.length ≤ r.inner.wire.sent.length + r.policy.attempts * 2 := by
  have spent := Retry.size_executeFrom_le (fun a : Authenticator => a.wire.sent.length)
    Authenticator.length_sent_obtain_le (r.policy.delay 0) (r.policy.attempts - 1) 0 r.inner
  have allowed := Retry.attempts_executeFrom_le (r.policy.delay 0) TokenSource.obtain
    (r.policy.attempts - 1) 0 r.inner
  have one : 1 ≤ r.policy.attempts := le_max_right ..
  show r.execution.state.wire.sent.length ≤ _
  unfold execution Retry.execute
  omega

theorem Provider.length_sent_obtain_le (p : Provider) :
    (TokenSource.obtain p).2.authenticator.wire.sent.length ≤
      p.authenticator.wire.sent.length + p.attempts * 2 := by
  cases p with
  | once a => exact a.length_sent_obtain_le
  | repeating r => exact r.length_sent_obtain_le

instance : RestsOnAuthenticator Provider where
  authenticator := Provider.authenticator
  attempts p := by
    cases p with
    | once a => exact .last a
    | repeating r => exact RestsOnAuthenticator.attempts r
  invalidate p := by
    cases p <;> rfl

/-! ## The requests of operations -/

namespace Client

variable {α : Type} {c d e : Client Provider} {operation : Operation α}

/-- What some operations of a client take at most: each of them one request to the backend, and two
to the identity provider for each attempt. -/
structure Spends (c d : Client Provider) (count : Nat) : Prop where
  direct : d.desk = .direct
  attempts : d.source.attempts = c.source.attempts
  backend : d.wire.sent.length ≤ c.wire.sent.length + count
  identity : d.authenticator.wire.sent.length ≤
    c.authenticator.wire.sent.length + count * (c.source.attempts * 2)

theorem Spends.trans {m n : Nat} (first : c.Spends d m) (rest : d.Spends e n) :
    c.Spends e (n + m) where
  direct := rest.direct
  attempts := rest.attempts.trans first.attempts
  backend := by
    have := first.backend
    have := rest.backend
    omega
  identity := by
    have before := first.identity
    have after := rest.identity
    rw [first.attempts] at after
    rw [Nat.add_mul]
    omega

theorem spends_asked (direct : c.desk = .direct) : c.Spends c.asked 1 where
  direct := direct
  attempts := c.source.attempts_obtain
  backend := Nat.le_succ _
  identity := by
    rw [Nat.one_mul]
    exact c.source.length_sent_obtain_le

/-- Forgetting a token takes no request. -/
theorem Spends.heed {count : Nat} (spends : c.Spends d count) (reply : Reply) :
    c.Spends (d.heed reply) count := by
  unfold Client.heed
  split
  · refine ⟨spends.direct, ?_, spends.backend, ?_⟩
    · exact d.source.attempts_invalidate.trans spends.attempts
    · show (RestsOnAuthenticator.authenticator (TokenSource.invalidate d.source)).wire.sent.length ≤ _
      rw [RestsOnAuthenticator.invalidate]
      exact spends.identity
  · exact spends

theorem spends_perform (direct : c.desk = .direct) : c.Spends (c.perform operation).2 1 := by
  have asked := spends_asked direct
  have sent (request : Request) : c.Spends { c.asked with wire := (c.wire.send request).2 } 1 := by
    refine ⟨asked.direct, asked.attempts, ?_, asked.identity⟩
    show (c.wire.sent ++ [request]).length ≤ _
    rw [List.length_append]
    exact Nat.le_refl _
  -- what the operation sends is known from its traffic, whatever it returns
  have traffic := c.traffic_perform operation direct
  generalize operation.isSubmission = submission, (c.perform operation).2 = after at traffic
  cases traffic with
  | nothing => exact ⟨direct, rfl, Nat.le_succ _, Nat.le_add_right ..⟩
  | asked => exact asked
  | exchanged => exact (sent _).heed _
  | submitted => exact sent _

theorem spends_performAll (operations : List (Operation α)) (direct : c.desk = .direct) :
    c.Spends (c.performAll operations).2 operations.length := by
  induction operations generalizing c with
  | nil => exact ⟨direct, rfl, Nat.le_refl _, Nat.le_add_right ..⟩
  | cons operation rest ih =>
    have first : c.Spends (c.perform operation).2 1 := spends_perform direct
    exact first.trans (ih first.direct)

/-! ## The main statement -/

/-- A client of some settings whose attempts follow the policy of the settings, whatever it is. -/
def following (network : Network) (backend : BackendSettings) (identity : IdentitySettings) :
    Client (Retrying Authenticator) :=
  { new backend (.new (Policy.ofSettings identity) (.new identity network.identity)) with
    wire := .ofReplies network.backend }

/-- An assembled client follows the policy of the settings. Over any operations it gives the results
of a client that does, and sends the same requests to both parties. It sends the backend one request
for each operation at most, and the identity provider two for each attempt that the settings allow.
-/
theorem assembled_follows_policy {network : Network} {backend : BackendSettings}
    {identity : IdentitySettings} (assembled : assemble network backend identity = .ok c)
    (operations : List (Operation α)) :
    AlikeWith Provider.IsLike (c.performAll operations)
        ((following network backend identity).performAll operations) ∧
      (c.performAll operations).2.wire.sent.length ≤ operations.length ∧
      (c.performAll operations).2.authenticator.wire.sent.length ≤
        operations.length * ((identity.maxRetries + 1) * 2) := by
  obtain ⟨_, _, made⟩ := assemble_eq_ok_iff.mp assembled
  -- the two clients start alike, and the source decides nothing but the number of attempts
  have start : Alike Provider.IsLike c (following network backend identity) := by
    rw [made]
    exact ⟨rfl, rfl, Provider.isLike_ofSettings identity _, rfl⟩
  have allowed : c.source.attempts ≤ identity.maxRetries + 1 := by
    rw [made]
    exact Provider.attempts_ofSettings_le identity _
  have unused : c.wire.sent = [] ∧ c.authenticator.wire.sent = [] := by
    have below : c.authenticator.wire = .ofReplies network.identity :=
      congrArg Authenticator.wire start.source.authenticator_eq
    rw [below, made]
    exact ⟨rfl, rfl⟩
  have spends := spends_performAll operations (start.desk : c.desk = .direct)
  have toBackend := spends.backend
  have toIdentity := spends.identity
  rw [unused.1, List.length_nil, Nat.zero_add] at toBackend
  rw [unused.2, List.length_nil, Nat.zero_add] at toIdentity
  refine ⟨start.performAll Provider.isBisimulation_isLike operations, toBackend, ?_⟩
  calc (c.performAll operations).2.authenticator.wire.sent.length
    _ ≤ operations.length * (c.source.attempts * 2) := toIdentity
    _ ≤ operations.length * ((identity.maxRetries + 1) * 2) :=
      Nat.mul_le_mul_left _ (Nat.mul_le_mul_right 2 allowed)

end Client

end LoanGateway
