import Gatehouse.Session.User

/-!
# Logins in progress

What has to be remembered while the user is at the identity provider.
-/

namespace Gatehouse.Session

/-- A login in progress: the provider, the token that the callback has to bring back, and the
    secret that proves to the provider who asked. -/
structure Flow where
  provider : String
  csrfToken : String
  pkceVerifier : String
deriving DecidableEq, Repr

/-- A login in progress while it is being read. -/
structure FlowDraft where
  provider : Option String
  csrfToken : Option String
  pkceVerifier : Option String

/-- The JSON form of a login in progress. -/
def flowShape : Json.Shape FlowDraft where
  title := "FlowState"
  members :=
    [.text "provider" true (·.provider) fun draft s => { draft with provider := some s },
      .text "csrf_token" true (·.csrfToken) fun draft s => { draft with csrfToken := some s },
      .text "pkce_verifier" true (·.pkceVerifier) fun draft s =>
        { draft with pkceVerifier := some s }]

namespace Flow

/-- Reads the JSON form. -/
def reader : Json.Reader Flow := fun input =>
  (flowShape.read ⟨none, none, none⟩ Json.maxDepth input).map fun (draft, rest) =>
    (⟨draft.provider.getD "", draft.csrfToken.getD "", draft.pkceVerifier.getD ""⟩, rest)

/-- The JSON form. -/
def json (flow : Flow) : String :=
  Json.writeObject
    [("provider", Json.writeText flow.provider), ("csrf_token", Json.writeText flow.csrfToken),
      ("pkce_verifier", Json.writeText flow.pkceVerifier)]

/-- The cookie value of a login in progress. -/
def encode (flow : Flow) : String :=
  wrap flow.json

/-- The login in progress of a cookie value. -/
def decode? (value : String) : Option Flow :=
  (unwrap reader value).toOption

end Flow

end Gatehouse.Session
