import LoanGateway.Proofs.Checks
import LoanGateway.Settings.Identity

/-!
# When settings are accepted

A form becomes settings when each of its entries passes its own check. The checks are independent of
each other, so one entry can be put in place of another one without a look at the rest.

- `IdentityForm.Amounts`: all checks of a form pass, and what comes out.
- `IdentityForm.build_eq_ok_iff`: that is when a form is accepted.
- `IdentitySettings.ofList_apiKeyHeader`: which names the header with the key may have.
-/

namespace LoanGateway

namespace Settings

/-- A text that has to be given is accepted unless it is blank. -/
theorem requiredText_some_eq_ok_iff {field text value : String} :
    requiredText field (some text) = .ok value ↔ text = value ∧ Text.isBlankText text = false := by
  cases blank : Text.isBlankText text <;> simp [requiredText, blank]

end Settings

namespace IdentityForm

open Settings

/-- Every entry of a form passes its check, and these are the settings that come out. -/
structure Amounts (form : IdentityForm) (settings : IdentitySettings) : Prop where
  fault : form.fault = none
  baseUrl : requiredUrl "base_url" form.baseUrl = .ok settings.baseUrl
  loginName : requiredText "login_name" form.loginName = .ok settings.loginName
  password : requiredSecret "password" form.password = .ok settings.password
  apiKey : requiredSecret "api_key" form.apiKey = .ok settings.apiKey
  clientId : requiredText "client_id" form.clientId = .ok settings.clientId
  apiKeyHeader : form.apiKeyHeader.getD "x-api-key" = settings.apiKeyHeader
  written : Text.isBlankText settings.apiKeyHeader = false
  timeout : positive "timeout" (form.timeout.getD defaultTimeout) = .ok settings.timeout
  tokenTtl : form.tokenTtl.getD (.ofMillis 1800000) = settings.tokenTtl
  maxRedirects : form.maxRedirects.getD defaultRedirects = settings.maxRedirects
  maxRetries : form.maxRetries.getD 0 = settings.maxRetries
  retryDelay : form.retryDelay.getD (.ofMillis 500) = settings.retryDelay

theorem build_eq_ok_iff {form : IdentityForm} {settings : IdentitySettings} :
    form.build = .ok settings ↔ form.Amounts settings := by
  constructor
  · intro built
    unfold build at built
    cases fault : form.fault with
    | some e =>
      rw [fault] at built
      cases built
    | none =>
      rw [fault] at built
      obtain ⟨_, baseUrl, built⟩ := bind_eq_ok_iff.mp built
      obtain ⟨_, loginName, built⟩ := bind_eq_ok_iff.mp built
      obtain ⟨_, password, built⟩ := bind_eq_ok_iff.mp built
      obtain ⟨_, apiKey, built⟩ := bind_eq_ok_iff.mp built
      obtain ⟨_, clientId, built⟩ := bind_eq_ok_iff.mp built
      obtain ⟨_, named, built⟩ := bind_eq_ok_iff.mp built
      obtain ⟨_, timeout, built⟩ := bind_eq_ok_iff.mp built
      obtain ⟨apiKeyHeader, written⟩ := requiredText_some_eq_ok_iff.mp named
      cases built
      exact {
        fault, baseUrl, loginName, password, apiKey, clientId, apiKeyHeader, timeout
        written := apiKeyHeader ▸ written
        tokenTtl := rfl
        maxRedirects := rfl
        maxRetries := rfl
        retryDelay := rfl }
  · intro amounts
    unfold build
    rw [amounts.fault]
    refine bind_eq_ok_iff.mpr ⟨_, amounts.baseUrl, ?_⟩
    refine bind_eq_ok_iff.mpr ⟨_, amounts.loginName, ?_⟩
    refine bind_eq_ok_iff.mpr ⟨_, amounts.password, ?_⟩
    refine bind_eq_ok_iff.mpr ⟨_, amounts.apiKey, ?_⟩
    refine bind_eq_ok_iff.mpr ⟨_, amounts.clientId, ?_⟩
    refine bind_eq_ok_iff.mpr ⟨_, requiredText_some_eq_ok_iff.mpr
      ⟨amounts.apiKeyHeader, amounts.apiKeyHeader ▸ amounts.written⟩, ?_⟩
    refine bind_eq_ok_iff.mpr ⟨_, amounts.timeout, ?_⟩
    rw [amounts.tokenTtl, amounts.maxRedirects, amounts.maxRetries, amounts.retryDelay]
    rfl

end IdentityForm

namespace IdentitySettings

/-- A name for the header with the key can be put in place of another one unless it is blank. -/
theorem ofList_apiKeyHeader {calls : List IdentitySetting} {settings : IdentitySettings}
    {name : String} (built : ofList calls = .ok settings)
    (written : Text.isBlankText name = false) :
    ofList (calls ++ [.apiKeyHeader name]) = .ok { settings with apiKeyHeader := name } := by
  have amounts := IdentityForm.build_eq_ok_iff.mp built
  unfold ofList
  rw [List.foldl_append]
  exact IdentityForm.build_eq_ok_iff.mpr { amounts with apiKeyHeader := rfl, written }

end IdentitySettings

end LoanGateway
