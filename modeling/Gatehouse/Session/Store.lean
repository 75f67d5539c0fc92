import Gatehouse.Cookie.SetCookie
import Gatehouse.Cookie.Signed
import Gatehouse.Session.Flow

/-!
# The session store

Two signed cookies hold all state: who is logged in, and which login is in progress.
Nothing is kept on the server, so a session lasts as long as its cookie verifies.
-/

namespace Gatehouse.Session

/-- The cookie of the logged-in user. -/
def sessionName : String := "_user_session"

/-- The cookie of the login in progress. -/
def flowName : String := "_auth_state"

/-- A session lasts thirty days. -/
def sessionSeconds : Int := 86400 * 30

/-- A login may take ten minutes. -/
def flowSeconds : Int := 600

/-- The attributes that the cookies get. -/
structure Options where
  path : String
  maxAgeSeconds : Int
  httpOnly : Bool
  secure : Bool
deriving DecidableEq, Repr

/-- The usual attributes under a path. -/
def Options.ofPath (path : String) : Options :=
  ⟨path, sessionSeconds, true, false⟩

/-- A store: its key and the attributes of its cookies. -/
structure Store where
  key : Cookie.SigningKey
  options : Options
deriving DecidableEq, Repr

namespace Store

/-- The store with the key of a secret. -/
def ofSecret (secret : String) (options : Options) : Store :=
  ⟨.ofSecret secret, options⟩

/-- A signed cookie with the store's attributes. -/
def cookie (store : Store) (name value : String) (lifetime : Cookie.Lifetime) :
    Cookie.SetCookie where
  name := name
  value := store.key.sign value
  httpOnly := store.options.httpOnly
  secure := store.options.secure
  path := store.options.path
  lifetime := lifetime

/-- The cookie that makes a user the logged-in one. -/
def save (store : Store) (user : User) : Cookie.SetCookie :=
  store.cookie sessionName user.encode (.seconds store.options.maxAgeSeconds)

/-- The cookie that ends the session. -/
def invalidate (store : Store) : Cookie.SetCookie :=
  store.cookie sessionName "" .over

/-- The cookie that remembers a login in progress. -/
def saveFlow (store : Store) (flow : Flow) : Cookie.SetCookie :=
  store.cookie flowName flow.encode (.seconds flowSeconds)

/-- The cookie that ends a login in progress. -/
def clearFlow (store : Store) : Cookie.SetCookie :=
  store.cookie flowName "" .over

/-- The request's cookies whose tag verifies, without it. -/
def verified (store : Store) (headers : List String) : List Cookie.Pair :=
  Cookie.verifiedPairs store.key (Cookie.pairs headers)

/-- The user of a request: none without a session cookie, and an error when no session cookie
    verifies or the last one that does holds no user. -/
def load (store : Store) (headers : List String) : Except SessionError (Option User) :=
  if (Cookie.pairs headers).any (·.name == sessionName) then
    match Cookie.lastValue? (store.verified headers) sessionName with
    | none => .error (.invalidSignature sessionName)
    | some value => (User.decode value).map some
  else .ok none

/-- The login in progress of a request, if a cookie for one verifies and holds one. -/
def loadFlow? (store : Store) (headers : List String) : Option Flow := do
  Flow.decode? (← Cookie.lastValue? (store.verified headers) flowName)

end Store

end Gatehouse.Session
