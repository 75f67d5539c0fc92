import Gatehouse.Cookie.Browser
import Gatehouse.Session.Store

/-!
# A store and a browser

What the store sets the browser takes in, and what the browser holds it sends back; in
between, anything may be done to what the browser holds.
-/

namespace Gatehouse.Session

/-- A store with a browser. -/
structure Visit where
  store : Store
  browser : Cookie.Browser
deriving DecidableEq, Repr

/-- What happens between a store and a browser. -/
inductive Action where
  | save (user : User)
  | saveFlow (flow : Flow)
  | invalidate
  | clearFlow
  /-- Ends a login in progress and the session. -/
  | logout
  /-- Gives the store the key of another secret. -/
  | rekey (secret : String)
  /-- Something is done to the cookies of the browser. -/
  | edit (edit : Cookie.Browser.Edit)
deriving DecidableEq, Repr

/-- The cookies that a store sets in an action. -/
def Store.cookies (store : Store) : Action → List Cookie.SetCookie
  | .save user => [store.save user]
  | .saveFlow flow => [store.saveFlow flow]
  | .invalidate => [store.invalidate]
  | .clearFlow => [store.clearFlow]
  | .logout => [store.clearFlow, store.invalidate]
  | .rekey _ => []
  | .edit _ => []

namespace Visit

/-- A store with a browser that holds nothing. -/
def start (store : Store) : Visit :=
  ⟨store, .empty⟩

/-- The browser takes in the headers of a response. -/
def takeIn (visit : Visit) (headers : List String) : Visit :=
  { visit with browser := visit.browser.absorbAll headers }

/-- The headers that the store sets in an action. -/
def headers (visit : Visit) (action : Action) : List String :=
  Cookie.headers (visit.store.cookies action)

/-- Lets an action happen. -/
def act (visit : Visit) (action : Action) : Visit :=
  match action with
  | .rekey secret => { visit with store := .ofSecret secret visit.store.options }
  | .edit edit => { visit with browser := visit.browser.edit edit }
  | _ => visit.takeIn (visit.headers action)

/-- Lets actions happen in turn. -/
def run (visit : Visit) (actions : List Action) : Visit :=
  actions.foldl act visit

/-- The user of the cookies that the browser sends. -/
def load (visit : Visit) : Except SessionError (Option User) :=
  visit.store.load visit.browser.cookieHeaders

/-- The login in progress of the cookies that the browser sends. -/
def loadFlow? (visit : Visit) : Option Flow :=
  visit.store.loadFlow? visit.browser.cookieHeaders

end Visit

end Gatehouse.Session
