import LoanGateway.Settings.Variables

/-!
# Settings of the backend

- `BackendSettings`: where the backend is and what limits requests to it have.
- `BackendSettings.urlFor`: the address of a resource.
- `BackendSetting`, `BackendForm`: single settings, and a form that collects them.
- `BackendSettings.ofList`: the settings that some single ones amount to.
-/

namespace LoanGateway

/-- Where the backend is and what limits requests to it have. -/
structure BackendSettings where
  baseUrl : Url
  timeout : Duration
  maxRedirects : Nat
  deriving DecidableEq

/-- The address of a path below the base address. -/
def BackendSettings.urlFor (s : BackendSettings) (path : String) : Url :=
  s.baseUrl.below path.toList

/-- A single setting, or variables to take settings from. -/
inductive BackendSetting
  | baseUrl (url : String)
  | timeout (limit : Duration)
  | maxRedirects (count : Nat)
  | variables (lookup : Settings.Lookup)

/-- The settings collected so far. The first variable that did not hold a number is remembered. -/
structure BackendForm where
  baseUrl : Option String := none
  timeout : Option Duration := none
  maxRedirects : Option Nat := none
  fault : Option SettingsError := none

namespace BackendForm

open Settings

/-- Takes a number from a variable, if it is set; a text that is no number is a fault unless there
already is one. -/
def takeNumber (form : BackendForm) (lookup : Lookup) (name : String) (bound : Nat)
    (set : BackendForm → Nat → BackendForm) : BackendForm :=
  match numberVariable lookup name bound with
  | .ok (some n) => set form n
  | .ok none => form
  | .error e => { form with fault := form.fault.or (some e) }

/-- Takes the settings that are set as variables. -/
def takeVariables (form : BackendForm) (lookup : Lookup) : BackendForm :=
  { form with baseUrl := (lookup "ACBS_BASE_URL").or form.baseUrl }
    |>.takeNumber lookup "ACBS_TIMEOUT" wordBound
      (fun form n => { form with timeout := some (.ofMillis n) })
    |>.takeNumber lookup "ACBS_MAX_REDIRECTS" wordBound
      (fun form n => { form with maxRedirects := some n })

/-- Enters a setting; a later one counts. -/
def enter (form : BackendForm) : BackendSetting → BackendForm
  | .baseUrl url => { form with baseUrl := some url }
  | .timeout limit => { form with timeout := some limit }
  | .maxRedirects count => { form with maxRedirects := some count }
  | .variables lookup => form.takeVariables lookup

/-- The settings of the form, or the first fault. -/
def build (form : BackendForm) : Except SettingsError BackendSettings := do
  if let some fault := form.fault then throw fault
  return {
    baseUrl := ← requiredUrl "base_url" form.baseUrl
    timeout := ← positive "timeout" (form.timeout.getD defaultTimeout)
    maxRedirects := form.maxRedirects.getD defaultRedirects }

end BackendForm

/-- The settings that some single ones amount to. -/
def BackendSettings.ofList (settings : List BackendSetting) :
    Except SettingsError BackendSettings :=
  (settings.foldl BackendForm.enter {}).build

end LoanGateway
