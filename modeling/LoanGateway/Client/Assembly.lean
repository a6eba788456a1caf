import LoanGateway.Client.Basic
import LoanGateway.Retry.Source
import LoanGateway.Session.Authenticator

/-!
# Assembled clients

A client is assembled from the settings of the backend and of the identity provider, with a
transport to each of them. Its tokens come from an authenticator, and attempts are repeated only if
the settings ask for it.

- `Network`: the library that makes transports, and the answers that come over them.
- `Network.connect`: a transport to one of the parties.
- `Provider`: the source of tokens of an assembled client.
- `Client.assemble`, `Client.ofVariables`: a client from settings, and from variables.
-/

namespace LoanGateway

open Retry (Policy)

/-- What a client finds around it: the library that makes transports, and what the parties answer. -/
structure Network where
  /-- Why the library makes no transport with a limit on time that follows some redirects or none. -/
  refusal? : Duration → Option Nat → Option String
  identity : List Reply
  backend : List Reply

/-- A transport with a limit on time and on redirects, over which some answers come. With no
redirects allowed it follows none, and a redirection is an answer like any other. -/
def Network.connect (network : Network) (timeout : Duration) (maxRedirects : Nat)
    (replies : List Reply) : Except SettingsError Wire :=
  match network.refusal? timeout (if maxRedirects = 0 then none else some maxRedirects) with
  | some reason => .error (.httpClient reason)
  | none => .ok (.ofReplies replies)

/-- The source of tokens of an assembled client. -/
inductive Provider
  | once (authenticator : Authenticator)
  | repeating (retrying : Retrying Authenticator)

namespace Provider

/-- An authenticator over a wire. Its attempts are repeated only if the settings ask for it. -/
def ofSettings (identity : IdentitySettings) (wire : Wire) : Provider :=
  let authenticator := { Authenticator.new identity [] with wire }
  let policy := Policy.ofSettings identity
  if policy.isEnabled then .repeating (.new policy authenticator) else .once authenticator

def obtain : Provider → Except SignInError String × Provider
  | once a =>
    let (outcome, a) := a.obtain
    (outcome, .once a)
  | repeating r =>
    let (outcome, r) := r.obtain
    (outcome, .repeating r)

def invalidate : Provider → Provider
  | once a => .once a.invalidate
  | repeating r => .repeating r.invalidate

/-- The authenticator that the tokens come from. -/
def authenticator : Provider → Authenticator
  | once a => a
  | repeating r => r.inner

/-- Does something to the authenticator. -/
def adjust (change : Authenticator → Authenticator) : Provider → Provider
  | once a => .once (change a)
  | repeating r => .repeating { r with inner := change r.inner }

end Provider

instance : TokenSource Provider := ⟨Provider.obtain, Provider.invalidate⟩

namespace Client

/-- A client of a backend, with tokens of an identity provider. The transport to the identity
provider is made first. -/
def assemble (network : Network) (backend : BackendSettings) (identity : IdentitySettings) :
    Except SettingsError (Client Provider) := do
  let signIn ← network.connect identity.timeout identity.maxRedirects network.identity
  let wire ← network.connect backend.timeout backend.maxRedirects network.backend
  return { Client.new backend (Provider.ofSettings identity signIn) with wire }

/-- A client whose settings are variables. Those of the backend are read first. -/
def ofVariables (network : Network) (lookup : Settings.Lookup) :
    Except SettingsError (Client Provider) := do
  let backend ← BackendSettings.ofList [.variables lookup]
  let identity ← IdentitySettings.ofList [.variables lookup]
  assemble network backend identity

end Client

end LoanGateway
