import Gatehouse.App.Router
import Gatehouse.Cookie.Browser

/-!
# Runs of requests

Requests answered one after the other.  Between two of them the application remembers
nothing but what it has counted; everything else is in the cookies of the browsers.
-/

namespace Gatehouse.App

/-- A request with what surrounds the application while it is answered. -/
structure Visit where
  around : Surroundings
  request : Http.Request

/-- Answers requests in turn. -/
def run (state : State) (entry : Entry) (tally : Tally) : List Visit → List Outcome × Tally
  | [] => ([], tally)
  | visit :: rest =>
    let (outcome, next) := serve state entry tally visit.around visit.request
    let (outcomes, last) := run state entry next rest
    (outcome :: outcomes, last)

/-- What a browser takes in of an outcome. -/
def Outcome.takenIn (outcome : Outcome) (browser : Cookie.Browser) : Cookie.Browser :=
  browser.absorbAll outcome.response.setCookie

/-- A browser sends a request with the cookies that it holds, and takes in the response. -/
def browse (state : State) (entry : Entry) (around : Surroundings) (method : String)
    (target : Http.Target) (tally : Tally) (browser : Cookie.Browser) :
    Outcome × Tally × Cookie.Browser :=
  let (outcome, next) := serve state entry tally around ⟨method, target, browser.cookieHeaders⟩
  (outcome, next, outcome.takenIn browser)

end Gatehouse.App
