import LoanGateway.Settings.Identity

/-!
# Retry policies

- `Policy`: how often an attempt is repeated and how long to wait in between.
- `Policy.delay`: the time to wait after an attempt.
- `Policy.ofSettings`: the policy of an identity provider: always the same delay.
-/

namespace LoanGateway.Retry

/-- How often an attempt is repeated and how long to wait in between. The delay grows by
`multiplier` with each attempt up to `maxDelay`, and varies by the share `jitter` of it. -/
structure Policy where
  maxAttempts : Nat
  initialDelay : Duration
  maxDelay : Duration
  multiplier : Float
  jitter : Float

namespace Policy

/-- The policy of an identity provider. Counts stay within 32 bits. -/
def ofSettings (s : IdentitySettings) : Policy where
  maxAttempts := min (s.maxRetries + 1) 4294967295
  initialDelay := s.retryDelay
  maxDelay := s.retryDelay
  multiplier := 1
  jitter := 0

/-- Whether the policy repeats anything. -/
def isEnabled (p : Policy) : Bool := 1 < p.maxAttempts

/-- Attempts that are really made: at least one. -/
def attempts (p : Policy) : Nat := max p.maxAttempts 1

/-- The power of a number by repeated squaring: `acc` holds the factors taken so far. The exponent
halves in each of at most `fuel` steps. -/
def powerBySquaring : Nat → Float → Nat → Float → Float
  | 0, _, _, acc => acc
  | fuel + 1, x, n, acc =>
    let acc := if n % 2 = 1 then acc * x else acc
    if n / 2 = 0 then acc else powerBySquaring fuel (x * x) (n / 2) acc

/-- A whole power of a number; a negative one is the inverse of the power. -/
def power (x : Float) (n : Int) : Float :=
  let p := powerBySquaring 32 x n.natAbs 1
  if n < 0 then 1 / p else p

/-- The smaller of two numbers; what is not a number does not count. -/
def smaller (x y : Float) : Float :=
  if x.isNaN then y else if y.isNaN then x else if x < y then x else y

/-- The larger of two numbers; what is not a number does not count. -/
def larger (x y : Float) : Float :=
  if x.isNaN then y else if y.isNaN then x else if x < y then y else x

/-- The delay in milliseconds before it is varied. The number of the attempt counts as a signed
number of 32 bits. -/
def cappedDelay (p : Policy) (attempt : Nat) : Float :=
  let grown := Float.ofNat p.initialDelay.millis * power p.multiplier (Int.bmod attempt 4294967296)
  smaller grown (Float.ofNat p.maxDelay.millis)

/-- The time to wait after the attempt of a number, from zero on: whole milliseconds. The delay is
varied by the share `spread` of the jitter, which lies between -1 and 1. -/
def delay (p : Policy) (spread : Float) (attempt : Nat) : Duration :=
  let capped := p.cappedDelay attempt
  .ofMillis (larger (capped + spread * (capped * p.jitter)) 0).toUInt64.toNat

end Policy

end LoanGateway.Retry
