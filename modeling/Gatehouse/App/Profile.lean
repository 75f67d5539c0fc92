import Gatehouse.App.Failure
import Gatehouse.App.State
import Gatehouse.Text.Html

/-!
# The profile page

A fixed page with three texts put into it.
-/

namespace Gatehouse.App

/-- The three texts of the page. -/
structure ProfileTexts where
  email : String
  /-- The address that logs the user out. -/
  logout : String
  /-- The user as JSON. -/
  data : String
deriving DecidableEq, Repr

/-- The texts for a user. -/
def ProfileTexts.ofUser (baseUrl : String) (user : Session.User) : ProfileTexts where
  email := user.email
  logout := baseUrl ++ "/logout/" ++ user.provider
  data := Json.writeObjectLines (user.members.map fun (name, s) => (name, Json.writeText s))

/-- The texts as they stand in the page. -/
def ProfileTexts.escaped (texts : ProfileTexts) : ProfileTexts :=
  ⟨Html.escapeText texts.email, Html.escapeAttribute texts.logout, Html.escapeText texts.data⟩

/-- The page around texts that are put in as they are. -/
def profilePage (texts : ProfileTexts) : String :=
  "<!DOCTYPE html>\n<html>\n<head><title>Profile</title></head>\n<body>\n<p>Hello " ++
    texts.email ++ "!</p>\n<p><a href=\"" ++ texts.logout ++ "\">Logout</a></p>\n<pre>" ++
    texts.data ++ "</pre>\n</body>\n</html>\n"

/-- The page of a user. -/
def renderProfile (baseUrl : String) (user : Session.User) : String :=
  profilePage (ProfileTexts.ofUser baseUrl user).escaped

/-- Shows who is logged in. -/
def profile (state : State) (cookies : List String) : Http.Response :=
  match state.sessions.load cookies with
  | .error error => (ProfileFailure.session error).response
  | .ok none => ProfileFailure.notAuthenticated.response
  | .ok (some user) => .html (renderProfile state.config.baseUrl user)

end Gatehouse.App
