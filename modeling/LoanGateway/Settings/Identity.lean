import LoanGateway.Settings.Variables

/-!
# Settings of the identity provider

- `IdentitySettings`: where the identity provider is, the credentials, and the limits.
- `IdentitySettings.sessionsUrl`, `IdentitySettings.tokenUrl`: the addresses of the handshake.
- `IdentitySettings.summary`: the settings on one line, without the secrets.
- `IdentitySetting`, `IdentityForm`: single settings, and a form that collects them.
- `IdentitySettings.ofList`: the settings that some single ones amount to.
-/

namespace LoanGateway

/-- Where the identity provider is, the credentials, and the limits. -/
structure IdentitySettings where
  baseUrl : Url
  loginName : String
  password : String
  apiKey : String
  apiKeyHeader : String
  clientId : String
  tokenTtl : Duration
  timeout : Duration
  maxRedirects : Nat
  maxRetries : Nat
  retryDelay : Duration
  deriving DecidableEq

namespace IdentitySettings

/-- Where sessions are created. -/
def sessionsUrl (s : IdentitySettings) : Url := s.baseUrl.below "sessions".toList

/-- Where a session is exchanged for a token. -/
def tokenUrl (s : IdentitySettings) : Url :=
  (s.baseUrl.below "idptoken/openid-connect".toList).addPair "client_id".toList s.clientId.toList

/-- What stands for a secret. -/
def redacted : String := Text.quoteString "[REDACTED]"

/-- The settings on one line, without the secrets. -/
def summary (s : IdentitySettings) : String :=
  "AcbsAuthConfig \x7b " ++ String.intercalate ", " [
    "base_url: " ++ Text.quoteString s.baseUrl.text,
    "login_name: " ++ Text.quoteString s.loginName,
    "password: " ++ redacted,
    "api_key: " ++ redacted,
    "api_key_header_name: " ++ Text.quoteString s.apiKeyHeader,
    "client_id: " ++ Text.quoteString s.clientId,
    "id_token_cache_ttl: " ++ s.tokenTtl.text,
    "timeout: " ++ s.timeout.text,
    "max_redirects: " ++ toString s.maxRedirects,
    "max_retries: " ++ toString s.maxRetries,
    "retry_delay: " ++ s.retryDelay.text] ++ " \x7d"

end IdentitySettings

/-- A single setting, or variables to take settings from. -/
inductive IdentitySetting
  | baseUrl (url : String)
  | loginName (name : String)
  | password (secret : String)
  | apiKey (secret : String)
  | apiKeyHeader (name : String)
  | clientId (id : String)
  | tokenTtl (ttl : Duration)
  | timeout (limit : Duration)
  | maxRedirects (count : Nat)
  | maxRetries (count : Nat)
  | retryDelay (delay : Duration)
  | variables (lookup : Settings.Lookup)

/-- The settings collected so far. The first variable that did not hold a number is remembered. -/
structure IdentityForm where
  baseUrl : Option String := none
  loginName : Option String := none
  password : Option String := none
  apiKey : Option String := none
  apiKeyHeader : Option String := none
  clientId : Option String := none
  tokenTtl : Option Duration := none
  timeout : Option Duration := none
  maxRedirects : Option Nat := none
  maxRetries : Option Nat := none
  retryDelay : Option Duration := none
  fault : Option SettingsError := none

namespace IdentityForm

open Settings

/-- Takes a number from a variable, if it is set; a text that is no number is a fault unless there
already is one. -/
def takeNumber (form : IdentityForm) (lookup : Lookup) (name : String) (bound : Nat)
    (set : IdentityForm → Nat → IdentityForm) : IdentityForm :=
  match numberVariable lookup name bound with
  | .ok (some n) => set form n
  | .ok none => form
  | .error e => { form with fault := form.fault.or (some e) }

/-- Takes the settings that are set as variables, texts before numbers. -/
def takeVariables (form : IdentityForm) (lookup : Lookup) : IdentityForm :=
  { form with
    baseUrl := (lookup "ACBS_AUTHENTICATION_BASE_URL").or form.baseUrl
    loginName := (lookup "ACBS_AUTHENTICATION_LOGIN_NAME").or form.loginName
    password := (lookup "ACBS_AUTHENTICATION_PASSWORD").or form.password
    apiKey := (lookup "ACBS_AUTHENTICATION_API_KEY").or form.apiKey
    apiKeyHeader := (lookup "ACBS_AUTHENTICATION_API_KEY_HEADER_NAME").or form.apiKeyHeader
    clientId := (lookup "ACBS_AUTHENTICATION_CLIENT_ID").or form.clientId }
    |>.takeNumber lookup "ACBS_AUTHENTICATION_ID_TOKEN_CACHE_TTL_IN_MILLISECONDS" wordBound
      (fun form n => { form with tokenTtl := some (.ofMillis n) })
    |>.takeNumber lookup "ACBS_AUTHENTICATION_TIMEOUT" wordBound
      (fun form n => { form with timeout := some (.ofMillis n) })
    |>.takeNumber lookup "ACBS_AUTHENTICATION_MAX_REDIRECTS" wordBound
      (fun form n => { form with maxRedirects := some n })
    |>.takeNumber lookup "ACBS_AUTHENTICATION_MAX_NUMBER_OF_RETRIES" halfWordBound
      (fun form n => { form with maxRetries := some n })
    |>.takeNumber lookup "ACBS_AUTHENTICATION_RETRY_DELAY_IN_MILLISECONDS" wordBound
      (fun form n => { form with retryDelay := some (.ofMillis n) })

/-- Enters a setting; a later one counts. -/
def enter (form : IdentityForm) : IdentitySetting → IdentityForm
  | .baseUrl url => { form with baseUrl := some url }
  | .loginName name => { form with loginName := some name }
  | .password secret => { form with password := some secret }
  | .apiKey secret => { form with apiKey := some secret }
  | .apiKeyHeader name => { form with apiKeyHeader := some name }
  | .clientId id => { form with clientId := some id }
  | .tokenTtl ttl => { form with tokenTtl := some ttl }
  | .timeout limit => { form with timeout := some limit }
  | .maxRedirects count => { form with maxRedirects := some count }
  | .maxRetries count => { form with maxRetries := some count }
  | .retryDelay delay => { form with retryDelay := some delay }
  | .variables lookup => form.takeVariables lookup

/-- The settings of the form, or the first fault. -/
def build (form : IdentityForm) : Except SettingsError IdentitySettings := do
  if let some fault := form.fault then throw fault
  let baseUrl ← requiredUrl "base_url" form.baseUrl
  let loginName ← requiredText "login_name" form.loginName
  let password ← requiredSecret "password" form.password
  let apiKey ← requiredSecret "api_key" form.apiKey
  let clientId ← requiredText "client_id" form.clientId
  let apiKeyHeader ←
    requiredText "api_key_header_name" (some (form.apiKeyHeader.getD "x-api-key"))
  let timeout ← positive "timeout" (form.timeout.getD defaultTimeout)
  return {
    baseUrl, loginName, password, apiKey, apiKeyHeader, clientId, timeout
    tokenTtl := form.tokenTtl.getD (.ofMillis 1800000)
    maxRedirects := form.maxRedirects.getD defaultRedirects
    maxRetries := form.maxRetries.getD 0
    retryDelay := form.retryDelay.getD (.ofMillis 500) }

end IdentityForm

/-- The settings that some single ones amount to. -/
def IdentitySettings.ofList (settings : List IdentitySetting) :
    Except SettingsError IdentitySettings :=
  (settings.foldl IdentityForm.enter {}).build

end LoanGateway
