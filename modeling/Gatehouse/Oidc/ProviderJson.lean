import Gatehouse.Json.Record
import Gatehouse.Json.Writer
import Gatehouse.Oidc.Provider

/-!
# Provider settings in JSON

Nine strings, of which the name, the base address and the scopes may be absent.
-/

namespace Gatehouse.Oidc

/-- Provider settings while they are being read. -/
structure ProviderDraft where
  name : Option String
  clientId : Option String
  clientSecret : Option String
  redirectUrl : Option String
  authorizeUrl : Option String
  tokenUrl : Option String
  apiBaseUrl : Option String
  userInfoUrl : Option String
  scopesText : Option String

/-- The JSON form of provider settings. -/
def providerShape : Json.Shape ProviderDraft where
  title := "OidcConfig"
  members :=
    [.text "provider_name" false (·.name) fun draft s => { draft with name := some s },
      .text "client_id" true (·.clientId) fun draft s => { draft with clientId := some s },
      .text "client_secret" true (·.clientSecret) fun draft s =>
        { draft with clientSecret := some s },
      .text "redirect_url" true (·.redirectUrl) fun draft s => { draft with redirectUrl := some s },
      .text "authorize_url" true (·.authorizeUrl) fun draft s =>
        { draft with authorizeUrl := some s },
      .text "token_url" true (·.tokenUrl) fun draft s => { draft with tokenUrl := some s },
      .text "api_base_url" false (·.apiBaseUrl) fun draft s => { draft with apiBaseUrl := some s },
      .text "user_info_url" true (·.userInfoUrl) fun draft s =>
        { draft with userInfoUrl := some s },
      .text "scopes" false (·.scopesText) fun draft s => { draft with scopesText := some s }]

namespace ProviderDraft

/-- A draft without any member. -/
def blank : ProviderDraft :=
  ⟨none, none, none, none, none, none, none, none, none⟩

/-- The settings of a draft, with what is absent in its usual form. -/
def finish (draft : ProviderDraft) : Provider where
  name := draft.name.getD defaultProviderName
  clientId := draft.clientId.getD ""
  clientSecret := draft.clientSecret.getD ""
  redirectUrl := draft.redirectUrl.getD ""
  authorizeUrl := draft.authorizeUrl.getD ""
  tokenUrl := draft.tokenUrl.getD ""
  apiBaseUrl := draft.apiBaseUrl.getD ""
  userInfoUrl := draft.userInfoUrl.getD ""
  scopesText := draft.scopesText.getD ""

end ProviderDraft

namespace Provider

/-- Reads the JSON form. -/
def reader : Json.Reader Provider := fun input =>
  (providerShape.read .blank Json.maxDepth input).map fun (draft, rest) => (draft.finish, rest)

/-- The settings of a JSON text. -/
def ofJson (text : String) : Except Json.Fault Provider :=
  Json.read reader (Utf8.octets text)

/-- The members of the JSON form, in order. -/
def members (provider : Provider) : List (String × String) :=
  [("provider_name", provider.name), ("client_id", provider.clientId),
    ("client_secret", provider.clientSecret), ("redirect_url", provider.redirectUrl),
    ("authorize_url", provider.authorizeUrl), ("token_url", provider.tokenUrl),
    ("api_base_url", provider.apiBaseUrl), ("user_info_url", provider.userInfoUrl),
    ("scopes", provider.scopesText)]

/-- The JSON form. -/
def json (provider : Provider) : String :=
  Json.writeObject (provider.members.map fun (name, s) => (name, Json.writeText s))

end Provider

end Gatehouse.Oidc
