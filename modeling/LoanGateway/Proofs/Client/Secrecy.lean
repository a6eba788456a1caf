import LoanGateway.Proofs.Client.Bisimulation
import LoanGateway.Proofs.Client.Crowd
import LoanGateway.Proofs.Client.Refusal

/-!
# Credentials go to the identity provider alone

Whatever is done with a client and with the authenticator that it rests on, the credentials decide
nothing. Two clients whose settings differ in the credentials alone give the same results, send the
same requests to the backend and as many to the identity provider, and those differ in the secrets
that they carry and in nothing else.

- `OverAuthenticator`: sources whose authenticator can be got at.
- `Deed`, `Sight`: what can be done with a client, and what is seen of it.
- `Client.act`, `Client.actAll`: deeds, one after another.
- `IsTwinning`: relations between sources that rest on twins and cannot be told apart.
- `Client.Alike.act`, `Client.Alike.actAll`: one deed and many keep clients alike.
- `Client.credentials_decide_nothing`: the main statement.
-/

namespace LoanGateway

/-- Sources over an authenticator, to which something can be done. -/
class OverAuthenticator (σ : Type) [TokenSource σ] extends RestsOnAuthenticator σ where
  adjust : (Authenticator → Authenticator) → σ → σ

instance : OverAuthenticator Authenticator where
  adjust change a := change a

instance {σ : Type} [TokenSource σ] [OverAuthenticator σ] : OverAuthenticator (Retrying σ) where
  adjust change r := { r with inner := OverAuthenticator.adjust change r.inner }

/-! ## Deeds -/

/-- What can be done with a client and what it rests on. -/
inductive Deed (α : Type)
  /-- The client carries out an operation. -/
  | perform (operation : Operation α)
  /-- The source of the client is asked for a token. -/
  | obtain
  /-- The authenticator itself is asked for a token. -/
  | signIn
  /-- The source drops its token. -/
  | invalidate
  /-- A token is put into the cache. -/
  | remember (token : String)
  /-- Somebody looks into the cache. -/
  | look
  /-- Time passes. -/
  | pass (time : Duration)
  /-- The backend has more answers. -/
  | queue (replies : List Reply)
  /-- The identity provider has more answers. -/
  | queueIdentity (replies : List Reply)

/-- What is seen of a deed. -/
inductive Sight (α : Type)
  | result (result : Except GatewayError (Outcome α))
  | outcome (outcome : Except SignInError String)
  | cached (entry : Option CachedToken) (valid : Option String)
  | nothing

namespace Client

variable {σ τ α : Type} [TokenSource σ] [TokenSource τ] [OverAuthenticator σ] [OverAuthenticator τ]

/-- Does something to the authenticator of a client. -/
def adjust (c : Client σ) (change : Authenticator → Authenticator) : Client σ :=
  { c with source := OverAuthenticator.adjust change c.source }

/-- Does a deed. -/
def act (c : Client σ) : Deed α → Sight α × Client σ
  | .perform operation =>
    let (result, c) := c.perform operation
    (.result result, c)
  | .obtain =>
    let (outcome, source) := TokenSource.obtain c.source
    (.outcome outcome, { c with source })
  | .signIn => (.outcome c.authenticator.obtain.1, c.adjust fun a => a.obtain.2)
  | .invalidate => (.nothing, { c with source := TokenSource.invalidate c.source })
  | .remember token => (.nothing, c.adjust (·.remember token))
  | .look =>
    let cache := c.authenticator.memory.cache
    (.cached cache.entry (cache.valid? c.authenticator.now), c)
  | .pass time => (.nothing, c.adjust (·.advance time))
  | .queue replies => (.nothing, { c with wire := c.wire.queue replies })
  | .queueIdentity replies => (.nothing, c.adjust (·.queue replies))

/-- Does deeds one after another. -/
def actAll (c : Client σ) : List (Deed α) → List (Sight α) × Client σ
  | [] => ([], c)
  | deed :: rest =>
    let (sight, c) := c.act deed
    let (sights, c) := c.actAll rest
    (sight :: sights, c)

theorem actAll_cons (c : Client σ) (deed : Deed α) (rest : List (Deed α)) :
    c.actAll (deed :: rest) =
      ((c.act deed).1 :: ((c.act deed).2.actAll rest).1, ((c.act deed).2.actAll rest).2) := rfl

end Client

/-! ## Twins below -/

/-- Related sources cannot be told apart. They rest on twins, and they stay related when these are
changed and stay twins. -/
structure IsTwinning {σ τ : Type} [TokenSource σ] [TokenSource τ] [OverAuthenticator σ]
    [OverAuthenticator τ] (s t : IdentitySettings) (R : σ → τ → Prop) : Prop where
  bisimulation : TokenSource.IsBisimulation R
  below : ∀ {x y}, R x y →
    Authenticator.Twins s t (RestsOnAuthenticator.authenticator x)
      (RestsOnAuthenticator.authenticator y)
  adjust : ∀ {x y}, R x y → ∀ {change : Authenticator → Authenticator},
    (∀ {a b}, Authenticator.Twins s t a b → Authenticator.Twins s t (change a) (change b)) →
      R (OverAuthenticator.adjust change x) (OverAuthenticator.adjust change y)

variable {s t : IdentitySettings}

theorem isTwinning_twins (same : s.SameButCredentials t) :
    IsTwinning s t (Authenticator.Twins s t) where
  bisimulation := {
    outcome twins := (twins.obtain same).1
    obtain twins := (twins.obtain same).2
    invalidate twins := twins.invalidate }
  below twins := twins
  adjust twins _ keeps := keeps twins

theorem isTwinning_alike {σ τ : Type} [TokenSource σ] [TokenSource τ] [OverAuthenticator σ]
    [OverAuthenticator τ] {R : σ → τ → Prop} (twinning : IsTwinning s t R) :
    IsTwinning s t (Retrying.Alike R) where
  bisimulation := Retrying.isBisimulation_alike twinning.bisimulation
  below alike := twinning.below alike.inner
  adjust alike _ keeps := ⟨alike.policy, twinning.adjust alike.inner keeps, alike.stats, alike.now⟩

namespace Client

variable {σ τ α : Type} [TokenSource σ] [TokenSource τ] [OverAuthenticator σ] [OverAuthenticator τ]
  {R : σ → τ → Prop} {c : Client σ} {d : Client τ}

/-- A change under which twins stay twins keeps clients alike. -/
theorem Alike.adjust (twinning : IsTwinning s t R) (alike : Alike R c d)
    {change : Authenticator → Authenticator}
    (keeps : ∀ {a b}, Authenticator.Twins s t a b → Authenticator.Twins s t (change a) (change b)) :
    Alike R (c.adjust change) (d.adjust change) :=
  ⟨alike.settings, alike.wire, twinning.adjust alike.source keeps, alike.desk⟩

/-- The same is seen of a deed, and clients stay alike. -/
theorem Alike.act (twinning : IsTwinning s t R) (same : s.SameButCredentials t) (alike : Alike R c d)
    (deed : Deed α) : AlikeWith R (c.act deed) (d.act deed) := by
  have below := twinning.below alike.source
  cases deed with
  | perform operation => exact (alike.perform twinning.bisimulation operation).map Sight.result
  | obtain =>
    exact ⟨congrArg Sight.outcome (twinning.bisimulation.outcome alike.source),
      alike.asked twinning.bisimulation⟩
  | signIn =>
    exact ⟨congrArg Sight.outcome (below.obtain same).1,
      alike.adjust twinning fun twins => (twins.obtain same).2⟩
  | invalidate =>
    exact ⟨rfl, alike.settings, alike.wire, twinning.bisimulation.invalidate alike.source, alike.desk⟩
  | remember token => exact ⟨rfl, alike.adjust twinning fun twins => twins.remember token⟩
  | look =>
    refine ⟨?_, alike⟩
    show Sight.cached c.authenticator.memory.cache.entry
        (c.authenticator.memory.cache.valid? c.authenticator.now) =
      Sight.cached d.authenticator.memory.cache.entry
        (d.authenticator.memory.cache.valid? d.authenticator.now)
    have memory : c.authenticator.memory = d.authenticator.memory := below.memory
    have now : c.authenticator.now = d.authenticator.now := below.now
    rw [memory, now]
  | pass time => exact ⟨rfl, alike.adjust twinning fun twins => twins.advance time⟩
  | queue replies =>
    exact ⟨rfl, alike.settings, congrArg (·.queue replies) alike.wire, alike.source, alike.desk⟩
  | queueIdentity replies => exact ⟨rfl, alike.adjust twinning fun twins => twins.queue replies⟩

/-- The same is seen of all deeds. -/
theorem Alike.actAll (twinning : IsTwinning s t R) (same : s.SameButCredentials t)
    (alike : Alike R c d) (deeds : List (Deed α)) :
    AlikeWith R (c.actAll deeds) (d.actAll deeds) := by
  induction deeds generalizing c d with
  | nil => exact ⟨rfl, alike⟩
  | cons deed rest ih =>
    have first := alike.act twinning same deed
    have others := ih first.client
    rw [actAll_cons, actAll_cons, first.result]
    exact others.map ((d.act deed).1 :: ·)

/-- Credentials decide nothing. Clients of authenticators with different credentials, with repeated
attempts or without, give the same results whatever is done with them, and they send the same to the
backend. The identity provider gets as many requests from both, in the same order, and these differ in
the value of the key and in what a session is bought with, and in nothing else. All this is so as well
when operations and calls for a token go on at the same time. It holds from the beginning if only the
credentials of the settings differ. -/
theorem credentials_decide_nothing (α : Type) (same : s.SameButCredentials t) :
    (∀ (c d : Client Authenticator) (deeds : List (Deed α)), Alike (Authenticator.Twins s t) c d →
        AlikeWith (Authenticator.Twins s t) (c.actAll deeds) (d.actAll deeds)) ∧
      (∀ (c d : Client (Retrying Authenticator)) (deeds : List (Deed α)),
        Alike (Retrying.Alike (Authenticator.Twins s t)) c d →
          AlikeWith (Retrying.Alike (Authenticator.Twins s t)) (c.actAll deeds) (d.actAll deeds)) ∧
      (∀ (backend : BackendSettings) (x y u : Errands α) (moves : List (Move α)),
        Errands.Twins s x y → x.run? backend s moves = some u →
          ∃ v, y.run? backend t moves = some v ∧ Errands.Twins s u v) ∧
      (∀ replies, Authenticator.Twins s t (.new s replies) (.new t replies)) ∧
      Retry.Policy.ofSettings s = Retry.Policy.ofSettings t ∧
      Errands.Twins s (.initial s : Errands α) (.initial t) := by
  refine ⟨?_, ?_, ?_, Authenticator.twins_new same, ?_, Errands.twins_initial same⟩
  · intro c d deeds alike
    exact alike.actAll (isTwinning_twins same) same deeds
  · intro c d deeds alike
    exact alike.actAll (isTwinning_alike (isTwinning_twins same)) same deeds
  · intro backend x y u moves twins run
    exact Errands.twins_run same twins run
  · unfold Retry.Policy.ofSettings
    rw [same.maxRetries, same.retryDelay]

end Client

namespace Sample

/-- The settings with other credentials. -/
def otherSettings : IdentitySettings :=
  { settings with loginName := "somebody", password := "swordfish", apiKey := "other-key" }

/-- A client over an authenticator that can do one handshake. -/
def customer (settings : IdentitySettings) : Client Authenticator :=
  .new backend (.new settings [granted, sold "abc"])

/-- A reading, a look into the cache, and a reading without a token that can be had. -/
def visit : List (Deed Json) :=
  [.queue [.ok (.new 200 "[1]")], .perform (.get "Deal" .deal some), .look, .invalidate,
    .perform (.get "Deal" .deal some)]

end Sample

namespace Client

/-- A visit with other credentials looks the same. It takes three requests to the identity provider,
who can tell them apart. -/
theorem visits_look_the_same :
    Sample.settings.SameButCredentials Sample.otherSettings ∧
      ((Sample.customer Sample.settings).actAll Sample.visit).1 =
        ((Sample.customer Sample.otherSettings).actAll Sample.visit).1 ∧
      ((Sample.customer Sample.settings).actAll Sample.visit).2.wire =
        ((Sample.customer Sample.otherSettings).actAll Sample.visit).2.wire ∧
      ((Sample.customer Sample.settings).actAll Sample.visit).2.source.wire.sent.length = 3 ∧
      ((Sample.customer Sample.settings).actAll Sample.visit).2.source.wire.sent ≠
        ((Sample.customer Sample.otherSettings).actAll Sample.visit).2.source.wire.sent := by
  have same : Sample.settings.SameButCredentials Sample.otherSettings := by
    constructor <;> rfl
  obtain ⟨plain, _, _, new, _⟩ := credentials_decide_nothing Json same
  have alike : Alike (Authenticator.Twins Sample.settings Sample.otherSettings)
      (Sample.customer Sample.settings) (Sample.customer Sample.otherSettings) :=
    ⟨rfl, rfl, new _, rfl⟩
  have visits := plain _ _ Sample.visit alike
  exact ⟨same, visits.result, visits.client.wire, by decide +kernel, by decide +kernel⟩

end Client

end LoanGateway
