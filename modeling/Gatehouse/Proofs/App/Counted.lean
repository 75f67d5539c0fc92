import Gatehouse.App.Traffic
import Gatehouse.Proofs.App.Mount

/-!
# Which requests are counted

The paths at which a request is counted, and the one at which a mail is delivered.  What is
done there does not depend on how the request ends.
-/

namespace Gatehouse.App

/-- The paths at which requests are counted. -/
def countedPaths : List String :=
  ["/", "/send_mail", "/openfga/list-authorization-models", "/env/user-defined-config"]

namespace Route

variable {route : Route} (counted : route.path ∈ countedPaths)
include counted

theorem pattern_of_mem_countedPaths :
    route.pattern = (Http.pathSegments route.path).map .literal := by
  revert counted
  cases route <;> decide

theorem anyMethod_of_mem_countedPaths : route.anyMethod = true := by
  revert counted
  cases route <;> decide

/-- A route that counts has one path. -/
theorem path_of_mem_countedPaths {path : String} {taken : List String}
    (routed : ofPath? path = some (route, taken)) : path = route.path := by
  obtain ⟨other, -, found⟩ := List.exists_of_findSome?_eq_some routed
  obtain ⟨captures, matched, same⟩ := Option.map_eq_some_iff.mp found
  obtain ⟨rfl, rfl⟩ := Prod.mk.inj same
  rw [pattern_of_mem_countedPaths counted] at matched
  exact Http.pathSegments_inj.mp ((Http.matchSegments?_literals_eq_some _).mp matched).1

theorem ofPath?_path : ofPath? route.path = some (route, []) := by
  revert counted
  cases route <;> decide

theorem fits_path : Http.Fits route.pattern (Http.pathSegments route.path) := by
  rw [Http.fits_iff_matchSegments?, pattern_of_mem_countedPaths counted]
  exact ⟨[], (Http.matchSegments?_literals_eq_some _).mpr ⟨rfl, rfl⟩, List.not_mem_nil⟩

end Route

theorem exists_of_mem_countedPaths {path : String} (member : path ∈ countedPaths) :
    ∃ route : Route, path = route.path := by
  simp only [countedPaths, List.mem_cons, List.not_mem_nil, or_false] at member
  rcases member with rfl | rfl | rfl | rfl
  · exact ⟨.hello, rfl⟩
  · exact ⟨.sendMail, rfl⟩
  · exact ⟨.listModels, rfl⟩
  · exact ⟨.userDefinedConfig, rfl⟩

section handle

variable (state : State) (around : Surroundings) (request : Http.Request)

/-- A handler that counts does so before anything else, however it ends. -/
theorem handle_of_mem_countedPaths (capture : String) {route : Route}
    (counted : route.path ∈ countedPaths) :
    handle state around request capture route =
      (Handling.done (respond state around request capture route)).count := by
  cases route with
  | hello | userDefinedConfig => rfl
  | sendMail =>
    rw [respond_sendMail, handle, sendMail]
    cases around.deliver (state.config.mail.relay state.config.skipVerify) Mail.testMessage <;> rfl
  | listModels =>
    rw [respond_listModels, handle, listModels]
    cases state.authz with
    | none => rfl
    | some client =>
      dsimp only
      cases (client.listModels around.services).1 <;> rfl
  | migrateStatus | callback | logout | login | profile => exact absurd counted (by decide)

/-- The other handlers do not count. -/
theorem handle_of_not_mem_countedPaths (capture : String) {route : Route}
    (other : route.path ∉ countedPaths) :
    handle state around request capture route =
      .done (respond state around request capture route) := by
  cases route with
  | callback | logout | login | profile => rfl
  | migrateStatus =>
    rw [respond_migrateStatus, handle, migrateStatus]
    cases around.probe state.config.connectString <;> rfl
  | hello | sendMail | listModels | userDefinedConfig => exact absurd (by decide) other

/-- The application counts a request first, or not at all, by its path alone. -/
theorem dispatch_eq : dispatch state around request =
    if request.path ∈ countedPaths then
      (Handling.done (dispatch state around request).result).count
    else .done (dispatch state around request).result := by
  split
  · rename_i member
    obtain ⟨route, path⟩ := exists_of_mem_countedPaths member
    rw [path] at member
    rw [dispatch, path, Route.ofPath?_path member]
    dsimp only
    rw [handleOn, Route.anyMethod_of_mem_countedPaths member, Bool.true_or, if_pos rfl,
      handle_of_mem_countedPaths state around request _ member]
    rfl
  · rename_i other
    unfold dispatch
    cases routed : Route.ofPath? request.path with
    | none => rfl
    | some found =>
      have free : found.1.path ∉ countedPaths := fun counted =>
        other (Route.path_of_mem_countedPaths counted routed ▸ counted)
      dsimp only
      unfold handleOn
      split
      · rw [handle_of_not_mem_countedPaths state around request _ free]
        rfl
      · rfl

theorem exports_dispatch_eq_totals :
    (dispatch state around request).exports = (dispatch state around request).totals := by
  rw [dispatch_eq]
  split <;> rfl

end handle

/-- A request that is answered at once is in both counts or in none. -/
theorem exported_eq_total_serve {tally : Tally}
    (same : tally.requests.exported = tally.requests.total) (state : State) (entry : Entry)
    (around : Surroundings) (request : Http.Request) :
    let counted := (serve state entry tally around request).2.requests
    counted.exported = counted.total := by
  by_cases reaches : entry.reachesApplication state request = true
  · rw [serve_of_reaches tally around reaches]
    dsimp only
    rw [same, exports_dispatch_eq_totals]
  · rw [serve_of_not_reaches tally around reaches]
    exact same

theorem exported_eq_total_run {tally : Tally}
    (same : tally.requests.exported = tally.requests.total) (state : State) (entry : Entry)
    (visits : List Visit) :
    let counted := (run state entry tally visits).2.requests
    counted.exported = counted.total := by
  induction visits generalizing tally with
  | nil => exact same
  | cons visit visits ih =>
    exact ih (exported_eq_total_serve same state entry visit.around visit.request)

/-- A request on a path that counts is for the application, wherever the metrics are. -/
theorem reachesApplication_of_mem_countedPaths {state : State} (coherent : state.config.IsCoherent)
    {entry : Entry} (served : entry ≠ .metrics) {request : Http.Request}
    (member : request.path ∈ countedPaths) : entry.reachesApplication state request = true := by
  obtain ⟨route, path⟩ := exists_of_mem_countedPaths member
  rw [path] at member
  apply reachesApplication_of_fits coherent served route
  rw [path]
  exact Route.fits_path member

namespace Arrival

/-- Whether a request came in on a port of the application, at a path that counts. -/
def isDesignated (arrival : Arrival) : Bool :=
  arrival.entry != .metrics && countedPaths.contains arrival.visit.request.path

/-- Whether a request came in on a port of the application, at the path that sends a mail. -/
def sendsMail (arrival : Arrival) : Bool :=
  arrival.entry != .metrics && arrival.visit.request.path == "/send_mail"

end Arrival

/-- Whether the mail relay takes the mail that is sent while a request is answered. -/
def State.takesMail (state : State) (around : Surroundings) : Bool :=
  (around.deliver (state.config.mail.relay state.config.skipVerify) Mail.testMessage).isOk

/-- Whether a request that came in delivers a mail. -/
def Arrival.delivers (state : State) (arrival : Arrival) : Bool :=
  arrival.sendsMail && state.takesMail arrival.visit.around

/-- What a request that came in is answered, with a look at what has been counted by then. -/
def Arrival.answer (state : State) (arrival : Arrival) : Metrics.Counter → Outcome :=
  (arrival.handling state).result

/-- A request is counted first, if it comes in at one of the paths that count, and otherwise not. -/
theorem Arrival.handling_eq {state : State} (coherent : state.config.IsCoherent)
    (arrival : Arrival) :
    arrival.handling state =
      if arrival.isDesignated then (Handling.done (arrival.answer state)).count
      else .done (arrival.answer state) := by
  have designated : arrival.isDesignated = true ↔
      arrival.entry ≠ .metrics ∧ arrival.visit.request.path ∈ countedPaths := by
    rw [isDesignated, Bool.and_eq_true, bne_iff_ne, List.contains_iff_mem]
  rw [answer, handling, App.handling]
  by_cases reaches : arrival.entry.reachesApplication state arrival.visit.request = true
  · have served : arrival.entry ≠ .metrics := by
      intro same
      rw [same] at reaches
      cases reaches
    rw [if_pos reaches, Handling.result_map, dispatch_eq]
    by_cases member : arrival.visit.request.path ∈ countedPaths
    · rw [if_pos member, if_pos (designated.mpr ⟨served, member⟩)]
      rfl
    · rw [if_neg member, if_neg (fun counted => member (designated.mp counted).2)]
      rfl
  · rw [if_neg reaches, if_neg fun counted => reaches
      (reachesApplication_of_mem_countedPaths coherent (designated.mp counted).1
        (designated.mp counted).2)]
    split <;> rfl

theorem Arrival.exports_handling {state : State} (coherent : state.config.IsCoherent)
    (arrival : Arrival) : (arrival.handling state).exports = arrival.isDesignated.toNat := by
  rw [handling_eq coherent]
  cases arrival.isDesignated <;> rfl

theorem Arrival.totals_handling {state : State} (coherent : state.config.IsCoherent)
    (arrival : Arrival) : (arrival.handling state).totals = arrival.isDesignated.toNat := by
  rw [handling_eq coherent]
  cases arrival.isDesignated <;> rfl

theorem delivered_sendMail (state : State) (around : Surroundings) :
    (sendMail state around).result.delivered = state.takesMail around := by
  unfold sendMail State.takesMail
  rw [Handling.result_count]
  cases around.deliver (state.config.mail.relay state.config.skipVerify) Mail.testMessage <;> rfl

theorem delivered_withProvider (capture : String) {answer : String → Outcome}
    (quiet : ∀ provider, (answer provider).delivered = false) :
    (withProvider capture answer).delivered = false := by
  unfold withProvider
  split
  · exact quiet _
  · rfl

/-- No other route delivers a mail. -/
theorem delivered_respond {state : State} {around : Surroundings} {request : Http.Request}
    {capture : String} {route : Route} (other : route ≠ .sendMail) :
    (respond state around request capture route).delivered = false := by
  cases route with
  | sendMail => exact absurd rfl other
  | hello | userDefinedConfig | profile => rfl
  | migrateStatus =>
    rw [respond_migrateStatus]
    split <;> rfl
  | logout | login => exact delivered_withProvider capture fun _ => rfl
  | listModels =>
    rw [respond_listModels]
    split
    · rfl
    · dsimp only
      split <;> rfl
  | callback =>
    refine delivered_withProvider capture fun provider => ?_
    unfold respondToCallback
    split <;> rfl

theorem delivered_dispatch (state : State) (around : Surroundings) (request : Http.Request) :
    (dispatch state around request).result.delivered =
      (request.path == "/send_mail" && state.takesMail around) := by
  have counted : Route.sendMail.path ∈ countedPaths := by decide
  rw [result_dispatch]
  by_cases mail : request.path = Route.sendMail.path
  · rw [mail, Route.ofPath?_path counted]
    exact delivered_sendMail state around
  · have other : (request.path == "/send_mail") = false := beq_eq_false_iff_ne.mpr mail
    rw [other, Bool.false_and]
    split
    · rfl
    · rename_i route captures routed
      split
      · apply delivered_respond
        rintro rfl
        exact mail (Route.path_of_mem_countedPaths counted routed)
      · rfl

theorem delivered_scrape (counter : Metrics.Counter) (request : Http.Request) :
    (scrape counter request).delivered = false := by
  unfold scrape
  split <;> rfl

/-- A mail is delivered exactly for a request that sends one and finds a relay that takes it,
    whatever has been counted by then. -/
theorem Arrival.delivered_answer {state : State} (coherent : state.config.IsCoherent)
    (arrival : Arrival) (counter : Metrics.Counter) :
    (arrival.answer state counter).delivered = arrival.delivers state := by
  have mails (served : arrival.entry ≠ .metrics)
      (mail : arrival.visit.request.path = "/send_mail") :
      arrival.entry.reachesApplication state arrival.visit.request = true := by
    apply reachesApplication_of_mem_countedPaths coherent served
    rw [mail]
    decide
  rw [answer, handling, App.handling, delivers, sendsMail]
  by_cases reaches : arrival.entry.reachesApplication state arrival.visit.request = true
  · have served : (arrival.entry != .metrics) = true := by
      rw [bne_iff_ne]
      intro same
      rw [same] at reaches
      cases reaches
    rw [if_pos reaches, Handling.result_map, served, Bool.true_and]
    exact delivered_dispatch state _ _
  · have quiet : (arrival.entry != .metrics && arrival.visit.request.path == "/send_mail") =
        false := by
      rw [Bool.and_eq_false_imp, bne_iff_ne, beq_eq_false_iff_ne]
      exact fun served mail => reaches (mails served mail)
    rw [if_neg reaches, quiet]
    split
    · exact delivered_scrape _ _
    · rfl

end Gatehouse.App
