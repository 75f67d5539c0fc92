import Gatehouse.Hash.Sha256
import Gatehouse.Oidc.Error
import Gatehouse.Oidc.Provider
import Gatehouse.Session.Flow
import Gatehouse.Text.Base64
import Gatehouse.Url.Parser
import Gatehouse.Url.Query

/-!
# Where a login leads

The addresses of the provider, and the address to which a login sends the browser.  The
random part of a login is drawn outside and handed in.
-/

namespace Gatehouse.Oidc

/-- The error of a setting that has to be a URL. -/
def settingError (what : String) (fault : Url.Fault) : LoginError :=
  .configuration ("invalid " ++ what ++ ": " ++ fault.message)

/-- A setting that has to be a URL. -/
def settingUrl (what text : String) : Except LoginError Url :=
  match Url.parse text with
  | .ok url => .ok url
  | .error fault => .error (settingError what fault)

/-- The addresses of a provider. -/
structure Endpoints where
  authorize : Url
  token : Url
  userInfo : Url
deriving DecidableEq, Repr

/-- The address that names the provider: its base address or, without one, where logins begin. -/
def Provider.issuer (provider : Provider) : String :=
  if provider.apiBaseUrl.isEmpty then provider.authorizeUrl else provider.apiBaseUrl

/-- The addresses of a provider, or the first of them that is no URL. -/
def Endpoints.ofProvider (provider : Provider) : Except LoginError Endpoints := do
  let _ ← settingUrl "issuer URL" provider.issuer
  let authorize ← settingUrl "authorize URL" provider.authorizeUrl
  let token ← settingUrl "access token URL" provider.tokenUrl
  let userInfo ← settingUrl "user info URL" provider.userInfoUrl
  .ok ⟨authorize, token, userInfo⟩

/-- Registers a provider: the address of the callback has to be a URL. -/
def register (provider : Provider) : Except LoginError Provider := do
  let _ ← settingUrl "redirect URL" provider.redirectUrl
  .ok provider

/-- What is drawn at random for a login. -/
structure Draws where
  state : Vector UInt8 16
  nonce : Vector UInt8 16
  verifier : Vector UInt8 32
deriving DecidableEq, Repr

/-- Octets drawn at random as a text. -/
def drawnText (octets : List UInt8) : String :=
  .ofList (Base64.encode Base64.urlSafe octets)

/-- The challenge that goes with a verifier: its hash. -/
def challenge (verifier : String) : String :=
  .ofList (Base64.encode Base64.urlSafe (Sha256.digest (Utf8.octets verifier)).octets)

/-- The login in progress that draws make. -/
def Draws.flow (draws : Draws) (provider : String) : Session.Flow :=
  ⟨provider, drawnText draws.state.toList, drawnText draws.verifier.toList⟩

/-- The pairs that a login adds to the address of the provider. -/
def loginPairs (provider : Provider) (draws : Draws) : List (String × String) :=
  let flow := draws.flow provider.name
  [("response_type", "code"), ("client_id", provider.clientId), ("state", flow.csrfToken),
    ("code_challenge", challenge flow.pkceVerifier), ("code_challenge_method", "S256"),
    ("redirect_uri", provider.redirectUrl),
    ("scope", Text.joinWith " " (loginScope :: provider.scopes)),
    ("nonce", drawnText draws.nonce.toList)]

/-- The address to which a login sends the browser. -/
def loginUrl (provider : Provider) (endpoints : Endpoints) (draws : Draws) : String :=
  (endpoints.authorize.addPairs (loginPairs provider draws)).text

end Gatehouse.Oidc
