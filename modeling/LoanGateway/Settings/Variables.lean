import LoanGateway.Duration
import LoanGateway.Settings.Error
import LoanGateway.Text.Blank
import LoanGateway.Text.Quoted
import LoanGateway.Url.Endpoint

/-!
# Variables and checks

What the settings of both endpoints have in common.

- `Lookup`: variables by name.
- `numberVariable`: the number that a variable holds, if it is set.
- `requiredText`, `requiredSecret`, `requiredUrl`, `positive`: what a setting has to be.
-/

namespace LoanGateway.Settings

/-- Variables by name, such as those of the environment. -/
abbrev Lookup := String → Option String

/-- The number of a text: decimal digits below a bound, with an optional plus sign and blanks
around. -/
def readNumber? (bound : Nat) (raw : String) : Option Nat :=
  let digits := match Text.trim raw.toList with
    | '+' :: rest => rest
    | s => s
  if digits.isEmpty || !digits.all Char.isDigit then none
  else
    let n := Nat.ofDigitChars 10 digits 0
    if n < bound then some n else none

/-- The number that a variable holds, or nothing if it is not set. -/
def numberVariable (lookup : Lookup) (name : String) (bound : Nat) :
    Except SettingsError (Option Nat) :=
  match lookup name with
  | none => .ok none
  | some raw =>
    match readNumber? bound raw with
    | some n => .ok (some n)
    | none => .error (.invalid (name ++ " is not a valid number: " ++ Text.quoteString raw))

/-- Bounds of the numbers: 64 bits for times and counts of redirects, 32 for counts of retries. -/
def wordBound : Nat := Nat.pow 2 64
def halfWordBound : Nat := 4294967296

/-- The default of both time limits. -/
def defaultTimeout : Duration := .ofMillis 30000

/-- The default number of redirects that are followed. -/
def defaultRedirects : Nat := 5

/-- A text that is set and not blank. -/
def requiredText (field : String) (value : Option String) : Except SettingsError String :=
  match value with
  | some s => if Text.isBlankText s then .error (.missing field) else .ok s
  | none => .error (.missing field)

/-- A secret that is set and not empty; blanks are as good as other characters. -/
def requiredSecret (field : String) (value : Option String) : Except SettingsError String :=
  match value with
  | some s => if s.isEmpty then .error (.missing field) else .ok s
  | none => .error (.missing field)

/-- The base address of an endpoint, which is one of the web. -/
def requiredUrl (field : String) (value : Option String) : Except SettingsError Url := do
  let raw ← requiredText field value
  match Url.parse? none raw with
  | some url =>
    if url.scheme = "http".toList || url.scheme = "https".toList then return url
    else throw (.endpoint raw)
  | none => throw (.endpoint raw)

/-- A duration that is not zero. -/
def positive (field : String) (d : Duration) : Except SettingsError Duration :=
  if d.nanos = 0 then .error (.invalid (field ++ " must be greater than zero")) else .ok d

end LoanGateway.Settings
