import Gatehouse.Proofs.App.Lifecycle
import Gatehouse.Proofs.Cookie.Pairs

/-!
# After a logout

A logout does not look at the request.  Whatever a browser holds under the names of the
store, verified or not, it lets go of it, keeps the rest, and is a stranger to the
application from then on.
-/

namespace Gatehouse.App

open Session (managedNames)

/-- A browser whose pairs are sent as they are held, and in which no other name is read as a name of
    the store.  What it holds under the names of the store may be anything. -/
structure IsSeparate (browser : Cookie.Browser) : Prop where
  single : ∀ entry ∈ browser.held, Cookie.IsSingle entry
  apart : ∀ entry ∈ browser.held, ∀ name ∈ managedNames,
    Cookie.readName? entry.1 = some name → entry.1 = name

namespace IsSeparate

variable {browser : Cookie.Browser}

theorem drop (separate : IsSeparate browser) (name : String) : IsSeparate (browser.drop name) where
  single := fun entry member => separate.single entry (Cookie.Browser.mem_drop member)
  apart := fun entry member => separate.apart entry (Cookie.Browser.mem_drop member)

/-- A name of the store that is not held is not sent either. -/
theorem name_ne_of_mem_pairs (separate : IsSeparate browser) {name : String}
    (managed : name ∈ managedNames) (gone : browser.get? name = none) :
    ∀ pair ∈ Cookie.pairs browser.cookieHeaders, pair.name ≠ name := by
  intro pair member named
  obtain ⟨entry, held, read⟩ := Cookie.Browser.exists_of_mem_pairs separate.single member
  rw [named] at read
  have same := separate.apart entry held name managed read
  exact Cookie.Browser.get?_eq_none_iff.mp gone entry held same

end IsSeparate

/-- A browser that lets go of both cookies of the store keeps the others. -/
theorem get?_dropManaged (browser : Cookie.Browser) (name : String) :
    ((browser.drop Session.flowName).drop Session.sessionName).get? name =
      if name ∈ managedNames then none else browser.get? name := by
  rw [Cookie.Browser.get?_drop, Cookie.Browser.get?_drop]
  by_cases session : Session.sessionName = name
  · rw [if_pos session, if_pos (session ▸ Session.sessionName_managed)]
  · rw [if_neg session]
    by_cases flow : Session.flowName = name
    · rw [if_pos flow, if_pos (flow ▸ Session.flowName_managed)]
    · have other : name ∉ managedNames := by
        simpa [managedNames] using And.intro (Ne.symm session) (Ne.symm flow)
      rw [if_neg flow, if_neg other]

section stranger

variable {state : State} {entry : Entry} {request : Http.Request}

/-- Without a session pair there is no profile. -/
theorem status_serve_profile_of_absent (coherent : state.config.IsCoherent)
    (served : entry ≠ .metrics)
    (absent : ∀ pair ∈ Cookie.pairs request.cookies, pair.name ≠ Session.sessionName)
    (tally : Tally) (around : Surroundings)
    (segments : Http.pathSegments request.path = ["", "profile"]) (reads : request.reads = true) :
    (serve state entry tally around request).1.response.status = 403 := by
  have routed := Route.ofPath?_profile segments
  have reaches := reachesApplication_profile coherent served routed
  have shows : ShowsUser state request.method
      ((profile state request.cookies).forMethod request.method) none :=
    showsUser_profile (Session.Store.load_of_absent absent) request.method
  rw [response_serve_of_reads tally around reaches routed reads]
  exact shows

/-- Without a pair of a login in progress a callback comes to nothing. -/
theorem serve_callback_of_absent
    (absent : ∀ pair ∈ Cookie.pairs request.cookies, pair.name ≠ Session.flowName)
    (entry : Entry) (tally : Tally) (around : Surroundings) {capture : String}
    (segments : Http.pathSegments request.path = ["", "auth", capture, "callback"]) :
    let outcome := (serve state entry tally around request).1
    outcome.response.setCookie = [] ∧ outcome.exchanges = [] := by
  obtain ⟨outcome, effect, exchanged, set, -⟩ :=
    callbackEffect_serve state entry tally around (Route.ofPath?_callback segments)
  have nothing {code : String} {flow : Session.Flow} :
      ¬BringsBack state request capture code flow := by
    intro brings
    obtain ⟨value, signed, -⟩ := brings.lastFlow
    have present : (Cookie.pairs request.cookies).any (·.name == Session.flowName) = true :=
      Session.Store.any_of_lastSigned signed
    obtain ⟨pair, member, named⟩ := List.any_eq_true.mp present
    exact absent pair member (beq_iff_eq.mp named)
  dsimp only
  rw [exchanged, set]
  cases effect with
  | refused response quiet => exact ⟨quiet.setCookie, rfl⟩
  | failed brings completion => exact absurd brings nothing
  | completed brings completion => exact absurd brings nothing

end stranger

/-- A logout leads to the base URL. -/
theorem location_logout {state : State} (coherent : state.config.IsCoherent)
    (field : Http.isFieldValue state.config.baseUrl = true) :
    (logout state).location = some state.config.baseUrl := by
  have home : state.home = state.config.baseUrl := by
    rw [State.home, if_neg]
    simpa using coherent.baseUrl
  rw [logout, Http.Response.location_setting, home, Http.Response.location_redirect field]

/-- A logout always logs out.  Whatever provider it names and whatever the browser holds, it leads
    to the base URL and takes both cookies of the store from the browser and no other one, and then
    there is no profile, and no callback that sets a cookie or asks anybody. -/
theorem browse_logout {state : State} {env : Settings.Variables} (made : state.IsMadeBy env)
    (field : Http.isFieldValue state.config.baseUrl = true)
    (whole : ∀ c ∈ state.config.basePath.toList, c ≠ ';') {entry : Entry}
    (served : entry ≠ .metrics) {browser : Cookie.Browser} (separate : IsSeparate browser)
    (target : Http.Target) {capture provider : String}
    (segments : Http.pathSegments target.path = ["", "logout", capture]) (named : capture ≠ "")
    (read : captureText? capture = some provider) (tally : Tally) (around : Surroundings) :
    let (outcome, _, after) := browse state entry around "GET" target tally browser
    outcome.response.status = 307 ∧
    outcome.response.location = some state.config.baseUrl ∧
    (∀ name ∈ managedNames, after.get? name = none) ∧
    (∀ name, name ∉ managedNames → after.get? name = browser.get? name) ∧
    (∀ around target tally, Http.pathSegments target.path = ["", "profile"] →
      (browse state entry around "GET" target tally after).1.response.status = 403) ∧
    ∀ around target tally capture,
      Http.pathSegments target.path = ["", "auth", capture, "callback"] →
        let next := (browse state entry around "GET" target tally after).1
        next.response.setCookie = [] ∧ next.exchanges = [] := by
  have coherent := made.coherent
  let request : Http.Request := ⟨"GET", target, browser.cookieHeaders⟩
  have response : (serve state entry tally around request).1.response = logout state := by
    rw [response_serve_logout coherent served tally around request segments named read rfl]
    exact Http.Response.forMethod_get _
  have taken : (serve state entry tally around request).1.takenIn browser =
      (browser.drop Session.flowName).drop Session.sessionName := by
    rw [Outcome.takenIn, response, absorbAll_logout (made.areSendable whole)]
  simp only [browse]
  rw [response, taken]
  generalize held : (browser.drop Session.flowName).drop Session.sessionName = after
  have separate : IsSeparate after := by
    rw [← held]
    exact (separate.drop _).drop _
  have gone : ∀ name ∈ managedNames, after.get? name = none := by
    intro name managed
    rw [← held, get?_dropManaged, if_pos managed]
  have kept : ∀ name, name ∉ managedNames → after.get? name = browser.get? name := by
    intro name other
    rw [← held, get?_dropManaged, if_neg other]
  refine ⟨status_logout field, location_logout coherent field, gone, kept, ?_, ?_⟩
  · intro around target tally segments
    have absent := separate.name_ne_of_mem_pairs Session.sessionName_managed
      (gone _ Session.sessionName_managed)
    exact status_serve_profile_of_absent coherent served absent tally around segments rfl
  · intro around target tally capture segments
    have absent := separate.name_ne_of_mem_pairs Session.flowName_managed
      (gone _ Session.flowName_managed)
    exact serve_callback_of_absent absent entry tally around segments

/-- A browser with two forgeries and a cookie of others. -/
def forger : Cookie.Browser :=
  ⟨[("_auth_state", "stale"), ("_user_session", "forged"), ("theme", "dark")]⟩

theorem isSeparate_forger : IsSeparate forger where
  single := by decide
  apart := by decide +kernel

/-- Forgeries go with a logout from a provider that is not registered, and the rest stays. -/
theorem browse_logout_forger :
    ∃ state : State, state.IsMadeBy localVariables ∧
      let (outcome, tally, after) :=
        browse state .main .silent "GET" ⟨none, none, "/logout/nobody", none⟩ .zero forger
      outcome.response.status = 307 ∧ after.get? "_user_session" = none ∧
        after.get? "theme" = some "dark" ∧
        (browse state .main .silent "GET" ⟨none, none, "/profile", none⟩ tally
          after).1.response.status = 403 := by
  obtain ⟨state, made, field, whole⟩ := exists_sendable_localVariables
  refine ⟨state, made, ?_⟩
  have segments : Http.pathSegments "/logout/nobody" = ["", "logout", "nobody"] := by decide
  have read : captureText? "nobody" = some "nobody" := by decide +kernel
  obtain ⟨status, -, gone, kept, refused, -⟩ := browse_logout made field whole
    (by decide : Entry.main ≠ .metrics) isSeparate_forger ⟨none, none, "/logout/nobody", none⟩
    segments (by decide) read .zero .silent
  exact ⟨status, gone _ Session.sessionName_managed, kept "theme" (by decide),
    refused _ _ _ (by decide)⟩

end Gatehouse.App
