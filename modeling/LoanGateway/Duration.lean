/-!
# Durations and instants

Time is counted in whole nanoseconds.

- `Duration`: a length of time; `Instant`: a point on the clock, counted from its start.
- `Instant.since`: the time from one instant to a later one, zero when there is none.
- `Duration.text`: the written form, in the largest unit that leaves a whole part.
-/

namespace LoanGateway

/-- A length of time in nanoseconds. -/
structure Duration where
  nanos : Nat
  deriving DecidableEq

/-- A point in time, in nanoseconds from the start of the clock. -/
structure Instant where
  nanos : Nat
  deriving DecidableEq

namespace Duration

def ofMillis (ms : Nat) : Duration := ⟨ms * 1000000⟩

/-- Whole milliseconds; what is left over is dropped. -/
def millis (d : Duration) : Nat := d.nanos / 1000000

@[simp] theorem millis_ofMillis (ms : Nat) : (ofMillis ms).millis = ms := by
  simp [ofMillis, millis]

/-- Decimal places of a fraction `part / 10 ^ places`, without trailing zeros and with the point,
or nothing when the fraction is zero. -/
def fractionText (part places : Nat) : List Char :=
  let digits := (Nat.toDigits 10 (Nat.pow 10 places + part)).drop 1
  let kept := (digits.reverse.dropWhile (· == '0')).reverse
  if kept.isEmpty then [] else '.' :: kept

/-- The duration in units of `10 ^ places` nanoseconds. -/
def inUnit (d : Duration) (places : Nat) (unit : List Char) : List Char :=
  let scale := Nat.pow 10 places
  Nat.toDigits 10 (d.nanos / scale) ++ fractionText (d.nanos % scale) places ++ unit

/-- The written form: seconds, else milliseconds, microseconds or nanoseconds, whichever is the
largest unit that the duration reaches. -/
def text (d : Duration) : String :=
  String.ofList <|
    if 1000000000 ≤ d.nanos then d.inUnit 9 ['s']
    else if 1000000 ≤ d.nanos then d.inUnit 6 ['m', 's']
    else if 1000 ≤ d.nanos then d.inUnit 3 ['µ', 's']
    else d.inUnit 0 ['n', 's']

end Duration

namespace Instant

def after (t : Instant) (d : Duration) : Instant := ⟨t.nanos + d.nanos⟩

/-- The time from `start` to `t`; zero if `t` is not after `start`. -/
def since (t start : Instant) : Duration := ⟨t.nanos - start.nanos⟩

end Instant

end LoanGateway
