import Gatehouse.App.Run
import Gatehouse.Proofs.App.State
import Gatehouse.Proofs.Settings.Emptiness

/-!
# An empty variable means an unset one

Configurations that differ in empty texts alone make applications that answer alike.  The texts
are the login of the mail relay, and what the relay does with them is all that shows of them.
-/

namespace Gatehouse.App

open Settings (Config Variables isPlainName textNames)
open Text (lowercase)

/-- The application in which no empty text is told from none. -/
def State.withoutEmpty (state : State) : State :=
  { state with config := state.config.withoutEmpty }

/-- Without the empty texts the same applications are put together. -/
theorem State.ofConfig_withoutEmpty (config : Config) :
    State.ofConfig config.withoutEmpty = (State.ofConfig config).map State.withoutEmpty := by
  have provider : config.withoutEmpty.provider = config.provider := rfl
  rw [State.ofConfig, State.ofConfig, provider]
  cases Oidc.register config.provider with
  | error error => rfl
  | ok provider => rfl

/-- Surroundings in which mail is delivered by what the relay says: settings under which it says the
    same are not told apart. -/
def Surroundings.IsRelayed (around : Surroundings) : Prop :=
  ∀ settings settings', (∀ server message,
    Mail.send settings server message = Mail.send settings' server message) →
      around.deliver settings = around.deliver settings'

/-- The relay at a server delivers so. -/
theorem Surroundings.isRelayed_of_send {around : Surroundings} {server : Mail.Server}
    (relays : around.deliver = fun settings message => (Mail.send settings server message).1) :
    around.IsRelayed := by
  intro settings settings' same
  rw [relays]
  funext message
  exact congrArg Prod.fst (same server message)

section Requests

variable (state : State) {around : Surroundings} (relayed : around.IsRelayed)

include relayed

theorem sendMail_withoutEmpty : sendMail state.withoutEmpty around = sendMail state around := by
  have same : around.deliver
      (state.withoutEmpty.config.mail.relay state.withoutEmpty.config.skipVerify) =
        around.deliver (state.config.mail.relay state.config.skipVerify) :=
    relayed _ _ (state.config.mail.send_withoutEmpty state.config.skipVerify)
  rw [sendMail, same, sendMail]

/-- Only the mail looks at the texts. -/
theorem handle_withoutEmpty (request : Http.Request) (capture : String) (route : Route) :
    handle state.withoutEmpty around request capture route =
      handle state around request capture route := by
  cases route with
  | sendMail => exact sendMail_withoutEmpty state relayed
  | callback =>
    have checked : checkCallback state.withoutEmpty = checkCallback state := rfl
    have greeted : welcome state.withoutEmpty = welcome state := rfl
    have known : state.withoutEmpty.provider = state.provider := rfl
    simp only [handle, respondToCallback, callback, checked, greeted, known]
  | hello | listModels | userDefinedConfig | migrateStatus | logout | login | profile => rfl

theorem dispatch_withoutEmpty (request : Http.Request) :
    dispatch state.withoutEmpty around request = dispatch state around request := by
  simp only [dispatch, handleOn, handle_withoutEmpty state relayed]

theorem serve_withoutEmpty (entry : Entry) (tally : Tally) (request : Http.Request) :
    serve state.withoutEmpty entry tally around request =
      serve state entry tally around request := by
  have reaches : entry.reachesApplication state.withoutEmpty request =
      entry.reachesApplication state request := by
    cases entry <;> rfl
  have scrapes : state.withoutEmpty.isScrape request = state.isScrape request := rfl
  rw [serve, handling, reaches, scrapes, dispatch_withoutEmpty state relayed, serve, handling]

end Requests

/-- A run of requests is answered and counted in the same way without the empty texts. -/
theorem run_withoutEmpty (state : State) (entry : Entry) (tally : Tally) {visits : List Visit}
    (relayed : ∀ visit ∈ visits, visit.around.IsRelayed) :
    run state.withoutEmpty entry tally visits = run state entry tally visits := by
  induction visits generalizing tally with
  | nil => rfl
  | cons visit rest ih =>
    obtain ⟨first, others⟩ := List.forall_mem_cons.mp relayed
    rw [run, serve_withoutEmpty state first, run]
    dsimp only
    rw [ih _ others]

/-- Configurations that act alike: their applications cannot be put together for one reason, or
    answer every run of requests alike, and their relays hold the same dialogue with every server,
    with the same login. -/
structure ActAlike (config config' : Config) : Prop where
  runs : EndAlike
    (fun state state' => ∀ entry tally visits, (∀ visit ∈ visits, visit.around.IsRelayed) →
      run state entry tally visits = run state' entry tally visits)
    (State.ofConfig config) (State.ofConfig config')
  sends : ∀ server message, Mail.send (config.mail.relay config.skipVerify) server message =
    Mail.send (config'.mail.relay config'.skipVerify) server message
  username : (config.mail.relay config.skipVerify).username =
    (config'.mail.relay config'.skipVerify).username
  password : (config.mail.relay config.skipVerify).password.getD "" =
    (config'.mail.relay config'.skipVerify).password.getD ""

/-- Configurations that differ in empty texts alone act alike. -/
theorem actAlike_of_withoutEmpty {config config' : Config}
    (same : config.withoutEmpty = config'.withoutEmpty) : ActAlike config config' := by
  obtain ⟨mail, skip⟩ : config.mail.withoutEmpty = config'.mail.withoutEmpty ∧
      config.skipVerify = config'.skipVerify := by
    simp only [Config.withoutEmpty, Config.mk.injEq] at same
    simp only [same, and_self]
  refine { runs := ?_, sends := fun server message => ?_, username := ?_, password := ?_ }
  · have made : (State.ofConfig config).map State.withoutEmpty =
        (State.ofConfig config').map State.withoutEmpty := by
      rw [← State.ofConfig_withoutEmpty, same, State.ofConfig_withoutEmpty]
    refine .of_map_eq made fun state state' alike entry tally visits relayed => ?_
    rw [← run_withoutEmpty state entry tally relayed, alike, run_withoutEmpty state' _ _ relayed]
  · rw [← config.mail.send_withoutEmpty, mail, skip, config'.mail.send_withoutEmpty]
  · rw [← config.mail.username_withoutEmpty, mail, skip, config'.mail.username_withoutEmpty]
  · rw [← config.mail.password_withoutEmpty, mail, skip, config'.mail.password_withoutEmpty]

/-- The text that is handed out again is told from none. -/
example : ((Config.ofVariables (localVariables ++ [("APP_USER_DEFINED_CONFIG", "")])).toOption.map
    (·.userDefined), (Config.ofVariables localVariables).toOption.map (·.userDefined)) =
      (some (some ""), some none) := by
  decide +kernel

/-- The variables of a relay that logs in, without a user. -/
def relayVariables : Variables :=
  [("SMTP_HOST", "mail"), ("SMTP_DOMAIN", "example.com"), ("SMTP_TRANSPORT_SECURITY", "TLS")]

end Gatehouse.App
