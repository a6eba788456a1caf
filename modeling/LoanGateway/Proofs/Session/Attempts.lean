import LoanGateway.Retry.Source
import LoanGateway.Session.Authenticator

/-!
# Where a token comes from

A call for a token is one attempt of an authenticator or several of them. A token that it gives is
in the cache afterwards. It was there before, or else it comes from a handshake of this very call.

- `Handshake.Bought`: a handshake between two states of a wire gave a token.
- `Attempts`: attempts of an authenticator, all of which fail but the last one.
- `RestsOnAuthenticator`: sources whose calls are such attempts, repeated or not.
- `Attempts.kept`, `Attempts.served`, `Attempts.bought`: what is known about the token.
-/

namespace LoanGateway

/-! ## Handshakes over a wire -/

namespace Handshake

/-- Between two states of a wire to the identity provider, a session was asked for and exchanged
for a token. Other requests may have been sent before. -/
def Bought (s : IdentitySettings) (token : String) (before after : Wire) : Prop :=
  ∃ start earlier session, start.sent = before.sent ++ earlier ∧
    perform s start = (.ok token, after) ∧
    after.sent = start.sent ++ [sessionRequest s, tokenRequest s session]

/-- A handshake sends something and takes nothing back. -/
theorem sent_perform (s : IdentitySettings) (wire : Wire) :
    ∃ requests, (perform s wire).2.sent = wire.sent ++ requests := by
  unfold perform
  dsimp only
  split
  · exact ⟨_, rfl⟩
  · exact ⟨[_, _], List.append_assoc ..⟩

/-- A handshake that ends well takes both exchanges. -/
theorem bought_of_perform {s : IdentitySettings} {wire after : Wire} {token : String}
    (h : perform s wire = (.ok token, after)) : Bought s token wire after := by
  have sent : ∃ session, after.sent = wire.sent ++ [sessionRequest s, tokenRequest s session] := by
    unfold perform at h
    dsimp only at h
    split at h
    · cases h
    · cases (Prod.mk.inj h).2
      exact ⟨_, List.append_assoc ..⟩
  obtain ⟨session, sent⟩ := sent
  exact ⟨wire, [], session, (List.append_nil _).symm, h, sent⟩

/-- What was sent before the first state does not matter. -/
theorem Bought.of_sent {s : IdentitySettings} {token : String} {before middle after : Wire}
    (h : Bought s token middle after) (sent : ∃ requests, middle.sent = before.sent ++ requests) :
    Bought s token before after := by
  obtain ⟨start, earlier, session, begins, rest⟩ := h
  obtain ⟨requests, sent⟩ := sent
  refine ⟨start, requests ++ earlier, session, ?_, rest⟩
  rw [begins, sent, List.append_assoc]

end Handshake

/-! ## One attempt -/

namespace Authenticator

/-- After a failed attempt there is still no fresh token, and the wire has only more requests. -/
theorem obtain_of_error {a : Authenticator} {e : SignInError} (h : a.obtain.1 = .error e) :
    a.obtain.2.memory.cache.valid? a.obtain.2.now = none ∧ a.obtain.2.settings = a.settings ∧
      ∃ requests, a.obtain.2.wire.sent = a.wire.sent ++ requests := by
  cases fresh : a.memory.cache.valid? a.now with
  | some token =>
    rw [obtain_of_valid a token fresh] at h
    cases h
  | none =>
    rw [obtain_of_none fresh] at h ⊢
    refine ⟨?_, rfl, Handshake.sent_perform ..⟩
    dsimp only at h ⊢
    rw [h, Memory.cache_commit_error]
    exact fresh

end Authenticator

/-! ## Several attempts -/

/-- Attempts of an authenticator, one after another. Each but the last one fails. -/
inductive Attempts : Authenticator → Except SignInError String → Authenticator → Prop
  | last (a : Authenticator) : Attempts a a.obtain.1 a.obtain.2
  | failed {a b : Authenticator} {r : Except SignInError String} {e : SignInError}
      (fails : a.obtain.1 = .error e) (rest : Attempts a.obtain.2 r b) : Attempts a r b

namespace Attempts

variable {a b : Authenticator} {token : String}

/-- Attempts after failed attempts. -/
theorem trans {c : Authenticator} {r q : Except SignInError String} {e : SignInError}
    (h : Attempts a r b) (fails : r = .error e) (k : Attempts b q c) : Attempts a q c := by
  induction h with
  | last a => exact .failed fails k
  | failed first _ ih => exact .failed first (ih fails k)

/-- A token that is given is in the cache afterwards. -/
theorem kept {r : Except SignInError String} (h : Attempts a r b) (gives : r = .ok token) :
    ∃ fetched, b.memory.cache.entry = some ⟨token, fetched⟩ := by
  induction h with
  | last a =>
    cases fresh : a.memory.cache.valid? a.now with
    | some served =>
      rw [Authenticator.obtain_of_valid a served fresh] at gives ⊢
      cases gives
      exact TokenCache.entry_of_valid? fresh
    | none =>
      rw [Authenticator.obtain_of_none fresh] at gives ⊢
      dsimp only at gives ⊢
      rw [gives]
      exact ⟨a.now, rfl⟩
  | failed _ _ ih => exact ih gives

/-- A fresh token is given without a request. -/
theorem served {r : Except SignInError String} (h : Attempts a r b)
    (fresh : a.memory.cache.valid? a.now = some token) : r = .ok token ∧ b = a := by
  have first := Authenticator.obtain_of_valid a token fresh
  cases h with
  | last =>
    rw [first]
    exact ⟨rfl, rfl⟩
  | failed fails _ =>
    rw [first] at fails
    cases fails

/-- Without a fresh token, a token that is given comes from a handshake. -/
theorem bought {r : Except SignInError String} (h : Attempts a r b) (gives : r = .ok token)
    (stale : a.memory.cache.valid? a.now = none) :
    Handshake.Bought a.settings token a.wire b.wire := by
  induction h with
  | last a =>
    rw [Authenticator.obtain_of_none stale] at gives ⊢
    exact Handshake.bought_of_perform (Prod.ext gives rfl)
  | failed fails _ ih =>
    -- a failed attempt stores nothing, so the next one finds the cache as stale as before
    obtain ⟨still, settings, sent⟩ := Authenticator.obtain_of_error fails
    have rest := ih gives still
    rw [settings] at rest
    exact rest.of_sent sent

end Attempts

/-! ## Sources over an authenticator -/

/-- Token sources whose calls are attempts of an authenticator. -/
class RestsOnAuthenticator (σ : Type) [TokenSource σ] where
  authenticator : σ → Authenticator
  attempts (s : σ) : Attempts (authenticator s) (TokenSource.obtain s).1
    (authenticator (TokenSource.obtain s).2)
  invalidate (s : σ) : authenticator (TokenSource.invalidate s) = (authenticator s).invalidate

instance : RestsOnAuthenticator Authenticator where
  authenticator a := a
  attempts a := .last a
  invalidate _ := rfl

/-- Repeated calls are more attempts. -/
theorem attempts_executeFrom {σ : Type} [TokenSource σ] [RestsOnAuthenticator σ]
    (wait : Nat → Duration) (more attempt : Nat) (s : σ) :
    Attempts (RestsOnAuthenticator.authenticator s)
      (Retry.executeFrom wait TokenSource.obtain more attempt s).outcome
      (RestsOnAuthenticator.authenticator
        (Retry.executeFrom wait TokenSource.obtain more attempt s).state) := by
  induction more generalizing attempt s with
  | zero => exact RestsOnAuthenticator.attempts s
  | succ more ih =>
    have first := RestsOnAuthenticator.attempts s
    unfold Retry.executeFrom
    split
    · rename_i obtained
      rw [obtained] at first
      exact first
    · rename_i obtained
      rw [obtained] at first
      split
      · exact first.trans rfl (ih (attempt + 1) _)
      · exact first

instance {σ : Type} [TokenSource σ] [RestsOnAuthenticator σ] :
    RestsOnAuthenticator (Retrying σ) where
  authenticator r := RestsOnAuthenticator.authenticator r.inner
  attempts _ := attempts_executeFrom ..
  invalidate r := RestsOnAuthenticator.invalidate r.inner

end LoanGateway
