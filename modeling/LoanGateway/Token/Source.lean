import LoanGateway.Failure.SignIn

/-!
# Token sources

- `TokenSource`: states from which a token can be obtained.
- `TokenScript`: a source whose answers are given in advance. It counts what it is asked.
-/

namespace LoanGateway

/-- States from which a token can be obtained. -/
class TokenSource (σ : Type) where
  /-- A valid token, or why there is none, and the state afterwards. -/
  obtain : σ → Except SignInError String × σ
  /-- Forgets a token, so that the next one is a new one. -/
  invalidate : σ → σ

/-- Answers given in advance, and the token of all later answers. -/
structure TokenScript where
  answers : List (Except SignInError String)
  standard : Option String
  calls : Nat
  invalidations : Nat

namespace TokenScript

/-- Always the same token. -/
def ofToken (token : String) : TokenScript := ⟨[], some token, 0, 0⟩

/-- An error and then never a token. -/
def failing (error : SignInError) : TokenScript := ⟨[.error error], none, 0, 0⟩

/-- Adds answers behind those to come. -/
def queue (s : TokenScript) (answers : List (Except SignInError String)) : TokenScript :=
  { s with answers := s.answers ++ answers }

/-- The answer when no other is left. -/
def lastAnswer (s : TokenScript) : Except SignInError String :=
  match s.standard with
  | some token => .ok token
  | none => .error .tokenMissing

def obtain (s : TokenScript) : Except SignInError String × TokenScript :=
  (s.answers.head?.getD s.lastAnswer, { s with answers := s.answers.tail, calls := s.calls + 1 })

def invalidate (s : TokenScript) : TokenScript := { s with invalidations := s.invalidations + 1 }

end TokenScript

instance : TokenSource TokenScript := ⟨TokenScript.obtain, TokenScript.invalidate⟩

end LoanGateway
