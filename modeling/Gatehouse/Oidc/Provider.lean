import Gatehouse.Text.Blank

/-!
# The identity provider

The settings under which one OpenID Connect provider is used, and the steps by which
they are put together.
-/

namespace Gatehouse.Oidc

/-- The name under which the provider is registered unless another one is chosen. -/
def defaultProviderName : String := "openid-connect"

/-- The settings of a provider: who asks, where, and for which scopes. -/
structure Provider where
  name : String
  clientId : String
  clientSecret : String
  redirectUrl : String
  authorizeUrl : String
  tokenUrl : String
  apiBaseUrl : String
  userInfoUrl : String
  /-- The scopes as one text, with spaces between them. -/
  scopesText : String
deriving DecidableEq, Repr

/-- The scope that every login asks for. -/
def loginScope : String := "openid"

/-- The scopes to ask for besides the one for the login itself. -/
def Provider.scopes (provider : Provider) : List String :=
  (Text.words provider.scopesText).filter (· != loginScope)

/-- Settings in the making: the scopes are still separate. -/
structure Builder where
  name : String
  clientId : String
  clientSecret : String
  redirectUrl : String
  authorizeUrl : String
  tokenUrl : String
  apiBaseUrl : String
  userInfoUrl : String
  scopes : List String
deriving DecidableEq, Repr

/-- A step that changes settings in the making. -/
inductive BuildStep where
  | name (text : String)
  | authorizeUrl (text : String)
  | tokenUrl (text : String)
  | apiBaseUrl (text : String)
  | userInfoUrl (text : String)
  /-- Replaces all scopes by the words of a text. -/
  | scopes (text : String)
  /-- Adds a scope unless it is there. -/
  | addScope (scope : String)
deriving DecidableEq, Repr

namespace Builder

/-- Settings with nothing but the credentials and the address of the callback. -/
def start (clientId clientSecret redirectUrl : String) : Builder :=
  ⟨defaultProviderName, clientId, clientSecret, redirectUrl, "", "", "", "", []⟩

/-- Replaces all scopes by the words of a text. -/
def setScopes (builder : Builder) (text : String) : Builder :=
  { builder with scopes := Text.words text }

/-- Adds a scope unless it is there. -/
def addScope (builder : Builder) (scope : String) : Builder :=
  if builder.scopes.contains scope then builder
  else { builder with scopes := builder.scopes ++ [scope] }

/-- Does one step. -/
def apply (builder : Builder) : BuildStep → Builder
  | .name text => { builder with name := text }
  | .authorizeUrl text => { builder with authorizeUrl := text }
  | .tokenUrl text => { builder with tokenUrl := text }
  | .apiBaseUrl text => { builder with apiBaseUrl := text }
  | .userInfoUrl text => { builder with userInfoUrl := text }
  | .scopes text => builder.setScopes text
  | .addScope scope => builder.addScope scope

/-- The finished settings. -/
def build (builder : Builder) : Provider where
  name := builder.name
  clientId := builder.clientId
  clientSecret := builder.clientSecret
  redirectUrl := builder.redirectUrl
  authorizeUrl := builder.authorizeUrl
  tokenUrl := builder.tokenUrl
  apiBaseUrl := builder.apiBaseUrl
  userInfoUrl := builder.userInfoUrl
  scopesText := Text.joinWith " " builder.scopes

end Builder

end Gatehouse.Oidc
