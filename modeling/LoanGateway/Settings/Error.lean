/-!
# Errors of the settings

- `SettingsError`: why settings were refused.
- `SettingsError.message`: the wording.
-/

namespace LoanGateway

/-- Why settings were refused. -/
inductive SettingsError
  | invalid (reason : String)
  | missing (field : String)
  | endpoint (url : String)
  | httpClient (reason : String)
  deriving DecidableEq

def SettingsError.message : SettingsError → String
  | invalid reason => "Invalid configuration: " ++ reason
  | missing field => "Missing required field: " ++ field
  | endpoint url => "Invalid endpoint URL: " ++ url
  | httpClient reason => "Failed to create HTTP client: " ++ reason

end LoanGateway
