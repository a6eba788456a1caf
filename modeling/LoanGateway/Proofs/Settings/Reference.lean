import LoanGateway.Proofs.Settings.Accepted
import LoanGateway.Proofs.Settings.Written
import LoanGateway.Settings.Backend

/-!
# What settings amount to

Settings are collected in a form, one call after the other, and checked at the end. What they amount to
can be said without the form: each value is the one that was written last or else its default, the first
variable that holds no number is a fault that nothing clears, and otherwise the first objection in a fixed
order is the answer.

- `IdentitySetting.entries`, `IdentitySetting.readings`: what one call writes, and which numbers it reads.
- `IdentityForm.enter_eq`, `IdentityForm.foldl_enter`: a call, and a sequence of calls.
- `IdentitySettings.MadeBy`, `IdentitySettings.Amount`: what a sequence of calls amounts to.
- `IdentitySettings.IsUsable`: what accepted settings can be relied on for.
- `settings_by_reference`: the same for the backend, and the result for both.
-/

namespace LoanGateway

open Settings

/-! ## The identity provider -/

namespace IdentitySetting

/-- What a call writes into a form. -/
def entries : IdentitySetting → IdentityForm
  | .baseUrl url => { baseUrl := some url }
  | .loginName name => { loginName := some name }
  | .password secret => { password := some secret }
  | .apiKey secret => { apiKey := some secret }
  | .apiKeyHeader name => { apiKeyHeader := some name }
  | .clientId id => { clientId := some id }
  | .tokenTtl ttl => { tokenTtl := some ttl }
  | .timeout limit => { timeout := some limit }
  | .maxRedirects count => { maxRedirects := some count }
  | .maxRetries count => { maxRetries := some count }
  | .retryDelay delay => { retryDelay := some delay }
  | .variables lookup =>
    let number (name : String) (bound : Nat) : Option Nat := Reading.number? ⟨lookup, name, bound⟩
    { baseUrl := lookup "ACBS_AUTHENTICATION_BASE_URL"
      loginName := lookup "ACBS_AUTHENTICATION_LOGIN_NAME"
      password := lookup "ACBS_AUTHENTICATION_PASSWORD"
      apiKey := lookup "ACBS_AUTHENTICATION_API_KEY"
      apiKeyHeader := lookup "ACBS_AUTHENTICATION_API_KEY_HEADER_NAME"
      clientId := lookup "ACBS_AUTHENTICATION_CLIENT_ID"
      tokenTtl := (number "ACBS_AUTHENTICATION_ID_TOKEN_CACHE_TTL_IN_MILLISECONDS" wordBound).map
        .ofMillis
      timeout := (number "ACBS_AUTHENTICATION_TIMEOUT" wordBound).map .ofMillis
      maxRedirects := number "ACBS_AUTHENTICATION_MAX_REDIRECTS" wordBound
      maxRetries := number "ACBS_AUTHENTICATION_MAX_NUMBER_OF_RETRIES" halfWordBound
      retryDelay := (number "ACBS_AUTHENTICATION_RETRY_DELAY_IN_MILLISECONDS" wordBound).map
        .ofMillis }

/-- The variables that a call reads as numbers, in this order. -/
def readings : IdentitySetting → List Reading
  | .variables lookup =>
    [⟨lookup, "ACBS_AUTHENTICATION_ID_TOKEN_CACHE_TTL_IN_MILLISECONDS", wordBound⟩,
      ⟨lookup, "ACBS_AUTHENTICATION_TIMEOUT", wordBound⟩,
      ⟨lookup, "ACBS_AUTHENTICATION_MAX_REDIRECTS", wordBound⟩,
      ⟨lookup, "ACBS_AUTHENTICATION_MAX_NUMBER_OF_RETRIES", halfWordBound⟩,
      ⟨lookup, "ACBS_AUTHENTICATION_RETRY_DELAY_IN_MILLISECONDS", wordBound⟩]
  | _ => []

end IdentitySetting

namespace IdentityForm

/-- The entries of a form over those of another one, which keeps its fault. -/
def upon (later earlier : IdentityForm) : IdentityForm where
  baseUrl := later.baseUrl.or earlier.baseUrl
  loginName := later.loginName.or earlier.loginName
  password := later.password.or earlier.password
  apiKey := later.apiKey.or earlier.apiKey
  apiKeyHeader := later.apiKeyHeader.or earlier.apiKeyHeader
  clientId := later.clientId.or earlier.clientId
  tokenTtl := later.tokenTtl.or earlier.tokenTtl
  timeout := later.timeout.or earlier.timeout
  maxRedirects := later.maxRedirects.or earlier.maxRedirects
  maxRetries := later.maxRetries.or earlier.maxRetries
  retryDelay := later.retryDelay.or earlier.retryDelay
  fault := earlier.fault

/-- Remembers a fault unless there already is one. -/
def blame (form : IdentityForm) (fault? : Option SettingsError) : IdentityForm :=
  { form with fault := form.fault.or fault? }

theorem takeNumber_eq (form : IdentityForm) (r : Reading) (set : IdentityForm → Nat → IdentityForm) :
    form.takeNumber r.lookup r.name r.bound set = (r.number?.elim form (set form)).blame r.fault? := by
  unfold takeNumber blame
  rw [Reading.numberVariable_eq]
  cases faults : r.fault? with
  | none => cases r.number? <;> simp
  | some e => rw [Reading.number?_eq_none_of_fault? faults]; rfl

theorem takeVariables_eq (form : IdentityForm) (lookup : Lookup) :
    form.takeVariables lookup = ((IdentitySetting.variables lookup).entries.upon form).blame
      ((IdentitySetting.variables lookup).readings.findSome? Reading.fault?) := by
  have ttl (n? : Option Nat) (form : IdentityForm) :
      (n?.elim form fun n => { form with tokenTtl := some (.ofMillis n) }) =
        { form with tokenTtl := (n?.map .ofMillis).or form.tokenTtl } := by cases n? <;> rfl
  have timeout (n? : Option Nat) (form : IdentityForm) :
      (n?.elim form fun n => { form with timeout := some (.ofMillis n) }) =
        { form with timeout := (n?.map .ofMillis).or form.timeout } := by cases n? <;> rfl
  have redirects (n? : Option Nat) (form : IdentityForm) :
      (n?.elim form fun n => { form with maxRedirects := some n }) =
        { form with maxRedirects := n?.or form.maxRedirects } := by cases n? <;> rfl
  have retries (n? : Option Nat) (form : IdentityForm) :
      (n?.elim form fun n => { form with maxRetries := some n }) =
        { form with maxRetries := n?.or form.maxRetries } := by cases n? <;> rfl
  have delay (n? : Option Nat) (form : IdentityForm) :
      (n?.elim form fun n => { form with retryDelay := some (.ofMillis n) }) =
        { form with retryDelay := (n?.map .ofMillis).or form.retryDelay } := by cases n? <;> rfl
  have take (form : IdentityForm) (name : String) (bound : Nat)
      (set : IdentityForm → Nat → IdentityForm) :
      form.takeNumber lookup name bound set = _ := takeNumber_eq form ⟨lookup, name, bound⟩ set
  unfold takeVariables
  simp only [take, ttl, timeout, redirects, retries, delay]
  simp only [blame, upon, IdentitySetting.entries, IdentitySetting.readings, findSome?_cons_eq_or,
    List.findSome?_nil, Option.or_none, Option.or_assoc]

theorem enter_eq (form : IdentityForm) (call : IdentitySetting) :
    form.enter call =
      (call.entries.upon form).blame (call.readings.findSome? Reading.fault?) := by
  cases call with
  | «variables» lookup => exact takeVariables_eq form lookup
  | _ => simp [enter, upon, blame, IdentitySetting.entries, IdentitySetting.readings]

/-- The form that some calls fill in: what was written last, and the first fault. -/
def ofCalls (calls : List IdentitySetting) : IdentityForm where
  baseUrl := latest? (·.entries.baseUrl) calls
  loginName := latest? (·.entries.loginName) calls
  password := latest? (·.entries.password) calls
  apiKey := latest? (·.entries.apiKey) calls
  apiKeyHeader := latest? (·.entries.apiKeyHeader) calls
  clientId := latest? (·.entries.clientId) calls
  tokenTtl := latest? (·.entries.tokenTtl) calls
  timeout := latest? (·.entries.timeout) calls
  maxRedirects := latest? (·.entries.maxRedirects) calls
  maxRetries := latest? (·.entries.maxRetries) calls
  retryDelay := latest? (·.entries.retryDelay) calls
  fault := (calls.flatMap IdentitySetting.readings).findSome? Reading.fault?

theorem foldl_enter (calls : List IdentitySetting) : calls.foldl enter {} = ofCalls calls := by
  induction calls using List.reverseRecOn with
  | nil => rfl
  | append_singleton calls call ih =>
    rw [List.foldl_append, ih, List.foldl_cons, List.foldl_nil, enter_eq]
    simp only [ofCalls, upon, blame, latest?_concat, List.flatMap_append, List.findSome?_append,
      List.flatMap_singleton]

/-- Variables that are taken twice in a row count once. -/
theorem takeVariables_takeVariables (form : IdentityForm) (lookup : Lookup) :
    (form.takeVariables lookup).takeVariables lookup = form.takeVariables lookup := by
  simp only [takeVariables_eq, upon, blame, or_or_self_left, or_or_self_right]

end IdentityForm

namespace IdentitySettings

/-- The faults of the variables that are read as numbers, in the order of reading. -/
def faults (calls : List IdentitySetting) : List (SettingsError → Prop) :=
  (calls.flatMap IdentitySetting.readings).map Reading.Faults

/-- The objections to what was written, in the order of the checks. -/
def objections (calls : List IdentitySetting) : List (SettingsError → Prop) :=
  [RefusesUrl "base_url" (·.entries.baseUrl) calls,
    RefusesText "login_name" (·.entries.loginName) calls,
    RefusesSecret "password" (·.entries.password) calls,
    RefusesSecret "api_key" (·.entries.apiKey) calls,
    RefusesText "client_id" (·.entries.clientId) calls,
    RefusesTextOr "x-api-key" "api_key_header_name" (·.entries.apiKeyHeader) calls,
    RefusesLimit (.ofMillis 30000) "timeout" (·.entries.timeout) calls]

/-- The settings consist of what was written last or else of defaults, and nothing is wrong with it. -/
structure MadeBy (calls : List IdentitySetting) (s : IdentitySettings) : Prop where
  baseUrl : ∃ raw, LastWritten (·.entries.baseUrl) calls raw ∧ IsWebAddress raw s.baseUrl
  loginName : LastWritten (·.entries.loginName) calls s.loginName ∧
    Text.isBlankText s.loginName = false
  password : LastWritten (·.entries.password) calls s.password ∧ s.password ≠ ""
  apiKey : LastWritten (·.entries.apiKey) calls s.apiKey ∧ s.apiKey ≠ ""
  clientId : LastWritten (·.entries.clientId) calls s.clientId ∧ Text.isBlankText s.clientId = false
  apiKeyHeader : LastWrittenOr "x-api-key" (·.entries.apiKeyHeader) calls s.apiKeyHeader ∧
    Text.isBlankText s.apiKeyHeader = false
  timeout : LastWrittenOr (.ofMillis 30000) (·.entries.timeout) calls s.timeout ∧
    s.timeout.nanos ≠ 0
  tokenTtl : LastWrittenOr (.ofMillis 1800000) (·.entries.tokenTtl) calls s.tokenTtl
  maxRedirects : LastWrittenOr 5 (·.entries.maxRedirects) calls s.maxRedirects
  maxRetries : LastWrittenOr 0 (·.entries.maxRetries) calls s.maxRetries
  retryDelay : LastWrittenOr (.ofMillis 500) (·.entries.retryDelay) calls s.retryDelay

variable {calls : List IdentitySetting} {e : SettingsError} {s : IdentitySettings}

theorem build_eq_error_iff (faultless : (IdentityForm.ofCalls calls).fault = none) :
    (IdentityForm.ofCalls calls).build = .error e ↔ FirstOf (objections calls) e := by
  have checks : objections calls =
      [(requiredUrl "base_url" (latest? (·.entries.baseUrl) calls) = .error ·),
        (requiredText "login_name" (latest? (·.entries.loginName) calls) = .error ·),
        (requiredSecret "password" (latest? (·.entries.password) calls) = .error ·),
        (requiredSecret "api_key" (latest? (·.entries.apiKey) calls) = .error ·),
        (requiredText "client_id" (latest? (·.entries.clientId) calls) = .error ·),
        (requiredText "api_key_header_name"
          (some ((latest? (·.entries.apiKeyHeader) calls).getD "x-api-key")) = .error ·),
        (positive "timeout" ((latest? (·.entries.timeout) calls).getD defaultTimeout) = .error ·)] := by
    simp only [requiredUrl_latest?_eq_error_iff, requiredText_latest?_eq_error_iff,
      requiredSecret_latest?_eq_error_iff, requiredText_getD_eq_error_iff,
      positive_getD_eq_error_iff]
    rfl
  unfold IdentityForm.build
  rw [faultless, checks]
  refine bind_eq_error_iff_firstOf fun _ => ?_
  refine bind_eq_error_iff_firstOf fun _ => ?_
  refine bind_eq_error_iff_firstOf fun _ => ?_
  refine bind_eq_error_iff_firstOf fun _ => ?_
  refine bind_eq_error_iff_firstOf fun _ => ?_
  refine bind_eq_error_iff_firstOf fun _ => ?_
  refine bind_eq_error_iff_firstOf fun _ => ?_
  exact ⟨nofun, nofun⟩

theorem build_eq_ok_iff_madeBy (faultless : (IdentityForm.ofCalls calls).fault = none) :
    (IdentityForm.ofCalls calls).build = .ok s ↔ s.MadeBy calls := by
  rw [IdentityForm.build_eq_ok_iff]
  constructor
  · intro amounts
    exact
      { baseUrl := requiredUrl_latest?_eq_ok_iff.mp amounts.baseUrl
        loginName := requiredText_latest?_eq_ok_iff.mp amounts.loginName
        password := requiredSecret_latest?_eq_ok_iff.mp amounts.password
        apiKey := requiredSecret_latest?_eq_ok_iff.mp amounts.apiKey
        clientId := requiredText_latest?_eq_ok_iff.mp amounts.clientId
        apiKeyHeader := ⟨getD_latest?_eq_iff.mp amounts.apiKeyHeader, amounts.written⟩
        timeout := positive_getD_eq_ok_iff.mp amounts.timeout
        tokenTtl := getD_latest?_eq_iff.mp amounts.tokenTtl
        maxRedirects := getD_latest?_eq_iff.mp amounts.maxRedirects
        maxRetries := getD_latest?_eq_iff.mp amounts.maxRetries
        retryDelay := getD_latest?_eq_iff.mp amounts.retryDelay }
  · intro made
    exact
      { fault := faultless
        baseUrl := requiredUrl_latest?_eq_ok_iff.mpr made.baseUrl
        loginName := requiredText_latest?_eq_ok_iff.mpr made.loginName
        password := requiredSecret_latest?_eq_ok_iff.mpr made.password
        apiKey := requiredSecret_latest?_eq_ok_iff.mpr made.apiKey
        clientId := requiredText_latest?_eq_ok_iff.mpr made.clientId
        apiKeyHeader := getD_latest?_eq_iff.mpr made.apiKeyHeader.1
        written := made.apiKeyHeader.2
        timeout := positive_getD_eq_ok_iff.mpr made.timeout
        tokenTtl := getD_latest?_eq_iff.mpr made.tokenTtl
        maxRedirects := getD_latest?_eq_iff.mpr made.maxRedirects
        maxRetries := getD_latest?_eq_iff.mpr made.maxRetries
        retryDelay := getD_latest?_eq_iff.mpr made.retryDelay }

/-- The settings that some calls amount to, or else the first thing that is wrong. -/
def Amount (calls : List IdentitySetting) : Except SettingsError IdentitySettings → Prop :=
  ComesTo (faults calls) (objections calls) (MadeBy calls)

theorem ofList_eq_iff_amount {r : Except SettingsError IdentitySettings} :
    ofList calls = r ↔ Amount calls r := by
  rw [ofList, IdentityForm.foldl_enter]
  refine eq_iff_comesTo (fun e fault => ?_) (fun faultless _ => build_eq_error_iff faultless)
    (fun faultless _ => build_eq_ok_iff_madeBy faultless)
  have remembered : (IdentityForm.ofCalls calls).fault = some e := fault
  unfold IdentityForm.build
  rw [remembered]
  rfl

/-- An address of the web, a limit above zero, and names and secrets that say something. -/
structure IsUsable (s : IdentitySettings) : Prop where
  web : s.baseUrl.scheme = "http".toList ∨ s.baseUrl.scheme = "https".toList
  timeout : s.timeout.nanos ≠ 0
  loginName : Text.isBlankText s.loginName = false
  clientId : Text.isBlankText s.clientId = false
  apiKeyHeader : Text.isBlankText s.apiKeyHeader = false
  password : s.password ≠ ""
  apiKey : s.apiKey ≠ ""

theorem MadeBy.isUsable (made : MadeBy calls s) : s.IsUsable := by
  obtain ⟨_, _, address⟩ := made.baseUrl
  exact
    { web := address.web
      timeout := made.timeout.2
      loginName := made.loginName.2
      clientId := made.clientId.2
      apiKeyHeader := made.apiKeyHeader.2
      password := made.password.2
      apiKey := made.apiKey.2 }

theorem isUsable_of_ofList (accepted : ofList calls = .ok s) : s.IsUsable := by
  cases ofList_eq_iff_amount.mp accepted with
  | accepted _ as => exact as.isUsable

end IdentitySettings

/-! ## The backend -/

namespace BackendSetting

/-- What a call writes into a form. -/
def entries : BackendSetting → BackendForm
  | .baseUrl url => { baseUrl := some url }
  | .timeout limit => { timeout := some limit }
  | .maxRedirects count => { maxRedirects := some count }
  | .variables lookup =>
    { baseUrl := lookup "ACBS_BASE_URL"
      timeout := (Reading.number? ⟨lookup, "ACBS_TIMEOUT", wordBound⟩).map .ofMillis
      maxRedirects := Reading.number? ⟨lookup, "ACBS_MAX_REDIRECTS", wordBound⟩ }

/-- The variables that a call reads as numbers, in this order. -/
def readings : BackendSetting → List Reading
  | .variables lookup =>
    [⟨lookup, "ACBS_TIMEOUT", wordBound⟩, ⟨lookup, "ACBS_MAX_REDIRECTS", wordBound⟩]
  | _ => []

end BackendSetting

namespace BackendForm

/-- The entries of a form over those of another one, which keeps its fault. -/
def upon (later earlier : BackendForm) : BackendForm where
  baseUrl := later.baseUrl.or earlier.baseUrl
  timeout := later.timeout.or earlier.timeout
  maxRedirects := later.maxRedirects.or earlier.maxRedirects
  fault := earlier.fault

/-- Remembers a fault unless there already is one. -/
def blame (form : BackendForm) (fault? : Option SettingsError) : BackendForm :=
  { form with fault := form.fault.or fault? }

theorem takeNumber_eq (form : BackendForm) (r : Reading) (set : BackendForm → Nat → BackendForm) :
    form.takeNumber r.lookup r.name r.bound set = (r.number?.elim form (set form)).blame r.fault? := by
  unfold takeNumber blame
  rw [Reading.numberVariable_eq]
  cases faults : r.fault? with
  | none => cases r.number? <;> simp
  | some e => rw [Reading.number?_eq_none_of_fault? faults]; rfl

theorem takeVariables_eq (form : BackendForm) (lookup : Lookup) :
    form.takeVariables lookup = ((BackendSetting.variables lookup).entries.upon form).blame
      ((BackendSetting.variables lookup).readings.findSome? Reading.fault?) := by
  have timeout (n? : Option Nat) (form : BackendForm) :
      (n?.elim form fun n => { form with timeout := some (.ofMillis n) }) =
        { form with timeout := (n?.map .ofMillis).or form.timeout } := by cases n? <;> rfl
  have redirects (n? : Option Nat) (form : BackendForm) :
      (n?.elim form fun n => { form with maxRedirects := some n }) =
        { form with maxRedirects := n?.or form.maxRedirects } := by cases n? <;> rfl
  have take (form : BackendForm) (name : String) (bound : Nat)
      (set : BackendForm → Nat → BackendForm) :
      form.takeNumber lookup name bound set = _ := takeNumber_eq form ⟨lookup, name, bound⟩ set
  unfold takeVariables
  simp only [take, timeout, redirects]
  simp only [blame, upon, BackendSetting.entries, BackendSetting.readings, findSome?_cons_eq_or,
    List.findSome?_nil, Option.or_none, Option.or_assoc]

theorem enter_eq (form : BackendForm) (call : BackendSetting) :
    form.enter call =
      (call.entries.upon form).blame (call.readings.findSome? Reading.fault?) := by
  cases call with
  | «variables» lookup => exact takeVariables_eq form lookup
  | _ => simp [enter, upon, blame, BackendSetting.entries, BackendSetting.readings]

/-- The form that some calls fill in: what was written last, and the first fault. -/
def ofCalls (calls : List BackendSetting) : BackendForm where
  baseUrl := latest? (·.entries.baseUrl) calls
  timeout := latest? (·.entries.timeout) calls
  maxRedirects := latest? (·.entries.maxRedirects) calls
  fault := (calls.flatMap BackendSetting.readings).findSome? Reading.fault?

theorem foldl_enter (calls : List BackendSetting) : calls.foldl enter {} = ofCalls calls := by
  induction calls using List.reverseRecOn with
  | nil => rfl
  | append_singleton calls call ih =>
    rw [List.foldl_append, ih, List.foldl_cons, List.foldl_nil, enter_eq]
    simp only [ofCalls, upon, blame, latest?_concat, List.flatMap_append, List.findSome?_append,
      List.flatMap_singleton]

/-- Variables that are taken twice in a row count once. -/
theorem takeVariables_takeVariables (form : BackendForm) (lookup : Lookup) :
    (form.takeVariables lookup).takeVariables lookup = form.takeVariables lookup := by
  simp only [takeVariables_eq, upon, blame, or_or_self_left, or_or_self_right]

end BackendForm

namespace BackendSettings

/-- The faults of the variables that are read as numbers, in the order of reading. -/
def faults (calls : List BackendSetting) : List (SettingsError → Prop) :=
  (calls.flatMap BackendSetting.readings).map Reading.Faults

/-- The objections to what was written, in the order of the checks. -/
def objections (calls : List BackendSetting) : List (SettingsError → Prop) :=
  [RefusesUrl "base_url" (·.entries.baseUrl) calls,
    RefusesLimit (.ofMillis 30000) "timeout" (·.entries.timeout) calls]

/-- The settings consist of what was written last or else of defaults, and nothing is wrong with it. -/
structure MadeBy (calls : List BackendSetting) (s : BackendSettings) : Prop where
  baseUrl : ∃ raw, LastWritten (·.entries.baseUrl) calls raw ∧ IsWebAddress raw s.baseUrl
  timeout : LastWrittenOr (.ofMillis 30000) (·.entries.timeout) calls s.timeout ∧
    s.timeout.nanos ≠ 0
  maxRedirects : LastWrittenOr 5 (·.entries.maxRedirects) calls s.maxRedirects

variable {calls : List BackendSetting} {e : SettingsError} {s : BackendSettings}

theorem build_eq_error_iff (faultless : (BackendForm.ofCalls calls).fault = none) :
    (BackendForm.ofCalls calls).build = .error e ↔ FirstOf (objections calls) e := by
  have checks : objections calls =
      [(requiredUrl "base_url" (latest? (·.entries.baseUrl) calls) = .error ·),
        (positive "timeout" ((latest? (·.entries.timeout) calls).getD defaultTimeout) = .error ·)] := by
    simp only [requiredUrl_latest?_eq_error_iff, positive_getD_eq_error_iff]
    rfl
  unfold BackendForm.build
  rw [faultless, checks]
  refine bind_eq_error_iff_firstOf fun _ => ?_
  refine bind_eq_error_iff_firstOf fun _ => ?_
  exact ⟨nofun, nofun⟩

theorem build_eq_ok_iff_madeBy (faultless : (BackendForm.ofCalls calls).fault = none) :
    (BackendForm.ofCalls calls).build = .ok s ↔ s.MadeBy calls := by
  unfold BackendForm.build
  rw [faultless]
  constructor
  · intro built
    obtain ⟨_, baseUrl, built⟩ := bind_eq_ok_iff.mp built
    obtain ⟨_, timeout, built⟩ := bind_eq_ok_iff.mp built
    cases built
    exact
      { baseUrl := requiredUrl_latest?_eq_ok_iff.mp baseUrl
        timeout := positive_getD_eq_ok_iff.mp timeout
        maxRedirects := getD_latest?_eq_iff.mp rfl }
  · intro made
    refine bind_eq_ok_iff.mpr ⟨_, requiredUrl_latest?_eq_ok_iff.mpr made.baseUrl, ?_⟩
    refine bind_eq_ok_iff.mpr ⟨_, positive_getD_eq_ok_iff.mpr made.timeout, ?_⟩
    have redirects : (BackendForm.ofCalls calls).maxRedirects.getD defaultRedirects = s.maxRedirects :=
      getD_latest?_eq_iff.mpr made.maxRedirects
    rw [redirects]
    rfl

/-- The settings that some calls amount to, or else the first thing that is wrong. -/
def Amount (calls : List BackendSetting) : Except SettingsError BackendSettings → Prop :=
  ComesTo (faults calls) (objections calls) (MadeBy calls)

theorem ofList_eq_iff_amount {r : Except SettingsError BackendSettings} :
    ofList calls = r ↔ Amount calls r := by
  rw [ofList, BackendForm.foldl_enter]
  refine eq_iff_comesTo (fun e fault => ?_) (fun faultless _ => build_eq_error_iff faultless)
    (fun faultless _ => build_eq_ok_iff_madeBy faultless)
  have remembered : (BackendForm.ofCalls calls).fault = some e := fault
  unfold BackendForm.build
  rw [remembered]
  rfl

/-- An address of the web and a limit above zero. -/
structure IsUsable (s : BackendSettings) : Prop where
  web : s.baseUrl.scheme = "http".toList ∨ s.baseUrl.scheme = "https".toList
  timeout : s.timeout.nanos ≠ 0

theorem MadeBy.isUsable (made : MadeBy calls s) : s.IsUsable := by
  obtain ⟨_, _, address⟩ := made.baseUrl
  exact ⟨address.web, made.timeout.2⟩

theorem isUsable_of_ofList (accepted : ofList calls = .ok s) : s.IsUsable := by
  cases ofList_eq_iff_amount.mp accepted with
  | accepted _ as => exact as.isUsable

end BackendSettings

/-! ## Both endpoints -/

/-- A variable counts if it is set to the text of a number. What calls come to is what they amount to,
accepted settings are usable, and variables that are taken twice in a row count once. -/
theorem settings_by_reference :
    (∀ (r : Reading) n, r.number? = some n ↔
      ∃ raw, r.lookup r.name = some raw ∧ IsNumber r.bound raw n) ∧
    (∀ calls r, IdentitySettings.ofList calls = r ↔ IdentitySettings.Amount calls r) ∧
    (∀ calls s, IdentitySettings.ofList calls = .ok s → s.IsUsable) ∧
    (∀ (form : IdentityForm) lookup,
      (form.enter (.variables lookup)).enter (.variables lookup) = form.enter (.variables lookup)) ∧
    (∀ calls r, BackendSettings.ofList calls = r ↔ BackendSettings.Amount calls r) ∧
    (∀ calls s, BackendSettings.ofList calls = .ok s → s.IsUsable) ∧
    ∀ (form : BackendForm) lookup,
      (form.enter (.variables lookup)).enter (.variables lookup) = form.enter (.variables lookup) :=
  ⟨fun _ _ => Reading.number?_eq_some_iff,
    fun _ _ => IdentitySettings.ofList_eq_iff_amount,
    fun _ _ => IdentitySettings.isUsable_of_ofList,
    IdentityForm.takeVariables_takeVariables,
    fun _ _ => BackendSettings.ofList_eq_iff_amount,
    fun _ _ => BackendSettings.isUsable_of_ofList,
    BackendForm.takeVariables_takeVariables⟩

end LoanGateway
