import Gatehouse.Proofs.Session.Cells

/-!
# Runs of a store and a browser

After any sequence of actions each cell holds what was written into it last.  Between the
actions of the store, pairs that are none of its business may come and go.
-/

namespace Gatehouse.Session

namespace Action

/-- What an action writes into the cell of the user, if it writes there. -/
def user? : Action → Option (Option User)
  | .save user => some (some user)
  | .invalidate => some none
  | .logout => some none
  | _ => none

/-- What an action writes into the cell of the login in progress, if it writes there. -/
def flow? : Action → Option (Option Flow)
  | .saveFlow flow => some (some flow)
  | .clearFlow => some none
  | .logout => some none
  | _ => none

/-- An action of the store, or a change to a pair of the browser that is none of the store's: one
    that comes is sent back as it is, and is not read under a name of the store. -/
def IsOrdinary : Action → Prop
  | .rekey _ => False
  | .edit (.set name value) =>
    Cookie.IsPlain (name, value) ∧
      ∀ managed ∈ managedNames, Percent.decodeText? name.toList ≠ some managed.toList
  | .edit (.drop name) => name ∉ managedNames
  | .edit _ => False
  | _ => True

end Action

/-- The cells after an action: what it writes, and otherwise what was there. -/
def Cells.act (cells : Cells) (action : Action) : Cells :=
  ⟨action.user?.getD cells.user, action.flow?.getD cells.flow⟩

/-- What was written last; nothing if nothing ever was. -/
def lastWrite {α : Type} (write : Action → Option (Option α)) (actions : List Action) : Option α :=
  (actions.reverse.findSome? write).join

namespace Store

variable {store : Store}

/-- A browser takes in a cookie of the store, or lets go of it. -/
theorem absorb_cookie (sendable : store.options.AreSendable) (browser : Cookie.Browser)
    (value : String) (lifetime : Cookie.Lifetime) {name : String}
    (managed : name ∈ managedNames) :
    browser.absorb (store.cookie name value lifetime).header =
      if lifetime.isOver then browser.drop name
      else browser.set name (Cookie.encodePart (store.key.sign value)) := by
  rw [Cookie.Browser.absorb_header browser (store.cookie name value lifetime) sendable.whole]
  simp only [cookie, encodePart_managed name managed]

theorem absorb_save (sendable : store.options.AreSendable) (browser : Cookie.Browser)
    (user : User) :
    browser.absorb (store.save user).header =
      browser.set sessionName (Cookie.encodePart (store.key.sign user.encode)) := by
  rw [save, absorb_cookie sendable browser _ _ sessionName_managed, if_neg]
  simpa [Cookie.Lifetime.isOver] using sendable.lasts

theorem absorb_invalidate (sendable : store.options.AreSendable) (browser : Cookie.Browser) :
    browser.absorb store.invalidate.header = browser.drop sessionName := by
  rw [invalidate, absorb_cookie sendable browser _ _ sessionName_managed, if_pos (by rfl)]

theorem absorb_saveFlow (sendable : store.options.AreSendable) (browser : Cookie.Browser)
    (flow : Flow) :
    browser.absorb (store.saveFlow flow).header =
      browser.set flowName (Cookie.encodePart (store.key.sign flow.encode)) := by
  rw [saveFlow, absorb_cookie sendable browser _ _ flowName_managed, if_neg (by decide)]

theorem absorb_clearFlow (sendable : store.options.AreSendable) (browser : Cookie.Browser) :
    browser.absorb store.clearFlow.header = browser.drop flowName := by
  rw [clearFlow, absorb_cookie sendable browser _ _ flowName_managed, if_pos (by rfl)]

end Store

theorem Store.path_of_mem_cookies {store : Store} {action : Action} {cookie : Cookie.SetCookie}
    (member : cookie ∈ store.cookies action) : cookie.path = store.options.path := by
  cases action with
  | save user => rw [List.mem_singleton.mp member]; rfl
  | saveFlow flow => rw [List.mem_singleton.mp member]; rfl
  | invalidate => rw [List.mem_singleton.mp member]; rfl
  | clearFlow => rw [List.mem_singleton.mp member]; rfl
  | logout =>
    simp only [Store.cookies, List.mem_cons, List.not_mem_nil, or_false] at member
    rcases member with rfl | rfl <;> rfl
  | rekey secret => cases member
  | edit edit => cases member

/-- The browser takes in the cookies of an action one by one. -/
theorem Visit.browser_takeIn {visit : Visit} (sendable : visit.store.options.AreSendable)
    (action : Action) :
    (visit.takeIn (visit.headers action)).browser =
      (visit.store.cookies action).foldl (fun held cookie => held.absorb cookie.header)
        visit.browser :=
  Cookie.Browser.absorbAll_headers visit.browser _ fun cookie member => by
    rw [Store.path_of_mem_cookies member]
    exact sendable.field

theorem Visit.act_save {visit : Visit} (sendable : visit.store.options.AreSendable)
    (user : User) :
    visit.act (.save user) =
      ⟨visit.store, visit.browser.set sessionName
        (Cookie.encodePart (visit.store.key.sign user.encode))⟩ := by
  rw [← Store.absorb_save sendable]
  exact congrArg (Visit.mk visit.store) (browser_takeIn sendable (.save user))

theorem Visit.act_saveFlow {visit : Visit} (sendable : visit.store.options.AreSendable)
    (flow : Flow) :
    visit.act (.saveFlow flow) =
      ⟨visit.store, visit.browser.set flowName
        (Cookie.encodePart (visit.store.key.sign flow.encode))⟩ := by
  rw [← Store.absorb_saveFlow sendable]
  exact congrArg (Visit.mk visit.store) (browser_takeIn sendable (.saveFlow flow))

/-- The cells after the cookies of an action. -/
theorem Keeps.takeIn {visit : Visit} {cells : Cells}
    (keeps : Keeps visit.store.key visit.browser cells)
    (sendable : visit.store.options.AreSendable) (action : Action) :
    Keeps visit.store.key (visit.takeIn (visit.headers action)).browser (cells.act action) := by
  rw [Visit.browser_takeIn sendable]
  cases action <;> simp only [Store.cookies, List.foldl_cons, List.foldl_nil]
  case save user =>
    rw [Store.absorb_save sendable]
    exact keeps.setUser user
  case saveFlow flow =>
    rw [Store.absorb_saveFlow sendable]
    exact keeps.setFlow flow
  case invalidate =>
    rw [Store.absorb_invalidate sendable]
    exact keeps.dropUser
  case clearFlow =>
    rw [Store.absorb_clearFlow sendable]
    exact keeps.dropFlow
  case logout =>
    rw [Store.absorb_clearFlow sendable, Store.absorb_invalidate sendable]
    exact keeps.dropFlow.dropUser
  case rekey secret => exact keeps
  case edit edit => exact keeps

/-- An ordinary action does to the cells what it writes, and does not touch the store. -/
theorem Keeps.act {visit : Visit} {cells : Cells}
    (keeps : Keeps visit.store.key visit.browser cells)
    (sendable : visit.store.options.AreSendable) {action : Action} (ordinary : action.IsOrdinary) :
    (visit.act action).store = visit.store ∧
      Keeps visit.store.key (visit.act action).browser (cells.act action) := by
  have taken (action : Action) (same : visit.act action = visit.takeIn (visit.headers action)) :
      (visit.act action).store = visit.store ∧
        Keeps visit.store.key (visit.act action).browser (cells.act action) := by
    rw [same]
    exact ⟨rfl, keeps.takeIn sendable action⟩
  cases action with
  | save user => exact taken _ rfl
  | saveFlow flow => exact taken _ rfl
  | invalidate => exact taken _ rfl
  | clearFlow => exact taken _ rfl
  | logout => exact taken _ rfl
  | rekey secret => cases ordinary
  | edit edit =>
    refine ⟨rfl, ?_⟩
    cases edit with
    | set name value => exact keeps.setOther ordinary.1 ordinary.2
    | drop name => exact keeps.dropOther ordinary
    | tamper name old new => cases ordinary
    | copy name other => cases ordinary

namespace Visit

/-- Along a run of ordinary actions the store stays, and the browser keeps the cells. -/
theorem keeps_run {visit : Visit} {cells : Cells}
    (keeps : Keeps visit.store.key visit.browser cells)
    (sendable : visit.store.options.AreSendable) {actions : List Action}
    (ordinary : ∀ action ∈ actions, action.IsOrdinary) :
    (visit.run actions).store = visit.store ∧
      Keeps visit.store.key (visit.run actions).browser (actions.foldl Cells.act cells) := by
  induction actions generalizing visit cells with
  | nil => exact ⟨rfl, keeps⟩
  | cons action actions ih =>
    have ⟨same, step⟩ := keeps.act sendable (ordinary action List.mem_cons_self)
    rw [← same] at step sendable ⊢
    exact ih step sendable fun other member => ordinary other (List.mem_cons_of_mem _ member)

end Visit

theorem getD_foldl {α : Type} (write : Action → Option (Option α)) (actions : List Action)
    (start : Option α) :
    actions.foldl (fun kept action => (write action).getD kept) start =
      (actions.reverse.findSome? write).getD start := by
  induction actions generalizing start with
  | nil => rfl
  | cons action actions ih =>
    rw [List.foldl_cons, ih, List.reverse_cons, List.findSome?_append, List.findSome?_singleton]
    cases actions.reverse.findSome? write <;> rfl

theorem foldl_act (cells : Cells) (actions : List Action) :
    actions.foldl Cells.act cells =
      ⟨actions.foldl (fun kept action => action.user?.getD kept) cells.user,
        actions.foldl (fun kept action => action.flow?.getD kept) cells.flow⟩ := by
  induction actions generalizing cells with
  | nil => rfl
  | cons action actions ih => exact ih (cells.act action)

/-- Cells that start empty hold what was written last. -/
theorem foldl_act_empty (actions : List Action) :
    actions.foldl Cells.act .empty =
      ⟨lastWrite Action.user? actions, lastWrite Action.flow? actions⟩ := by
  have join {α : Type} (write : Action → Option (Option α)) :
      (actions.reverse.findSome? write).getD none = lastWrite write actions := by
    unfold lastWrite
    cases actions.reverse.findSome? write <;> rfl
  rw [foldl_act, getD_foldl Action.user?, getD_foldl Action.flow?, Cells.empty, join, join]

/-- After any run of ordinary actions on a fresh browser, the store loads from each cell what was
    written last, never an error, and an action on one cell leaves what the other one loads. -/
theorem Visit.load_run_start {store : Store} (sendable : store.options.AreSendable)
    {actions : List Action} (ordinary : ∀ action ∈ actions, action.IsOrdinary) :
    ((start store).run actions).load = .ok (lastWrite Action.user? actions) ∧
      ((start store).run actions).loadFlow? = lastWrite Action.flow? actions ∧
      ∀ action : Action, action.IsOrdinary →
        (action.user? = none →
          (((start store).run actions).act action).load = ((start store).run actions).load) ∧
        (action.flow? = none →
          (((start store).run actions).act action).loadFlow? =
            ((start store).run actions).loadFlow?) := by
  have begun : Keeps (start store).store.key (start store).browser .empty := .empty _
  have ⟨same, keeps⟩ := keeps_run begun sendable ordinary
  rw [foldl_act_empty] at keeps
  generalize (start store).run actions = visit at same keeps ⊢
  change visit.store = store at same
  subst same
  refine ⟨keeps.load, keeps.loadFlow?, fun action ordinary => ?_⟩
  have ⟨same, step⟩ := keeps.act sendable ordinary
  rw [← same] at step
  constructor
  · intro untouched
    have loaded : (visit.act action).load = .ok _ := step.load
    rw [loaded, Cells.act, untouched]
    exact keeps.load.symm
  · intro untouched
    have loaded : (visit.act action).loadFlow? = _ := step.loadFlow?
    rw [loaded, Cells.act, untouched]
    exact keeps.loadFlow?.symm

/-- A login that was completed, with a foreign pair that comes and goes meanwhile. -/
theorem Visit.load_run_start_login :
    let store := Store.ofSecret "secret" (.ofPath "/app")
    let user : User := ⟨"zoë@example.org", "openid-connect"⟩
    let visit := (start store).run
      [.saveFlow ⟨"openid-connect", "token", "verifier"⟩, .edit (.set "theme" "dark"),
        .save user, .clearFlow, .edit (.drop "theme")]
    visit.load = .ok (some user) ∧ visit.loadFlow? = none := by
  intro store user visit
  have sendable : store.options.AreSendable :=
    Options.areSendable_ofPath (List.all_iff_forall_prop.mp (by decide)) (by decide)
  have ordinary : ∀ action ∈ ([.saveFlow ⟨"openid-connect", "token", "verifier"⟩,
      .edit (.set "theme" "dark"), .save user, .clearFlow, .edit (.drop "theme")] : List Action),
      action.IsOrdinary := by
    simp only [List.forall_mem_cons, List.not_mem_nil, false_imp_iff, implies_true, and_true]
    have other : "theme" ∉ managedNames := by decide
    have plain : Cookie.IsPlain ("theme", "dark") :=
      ⟨by decide, List.all_iff_forall_prop.mp (by decide),
        List.all_iff_forall_prop.mp (by decide)⟩
    have apart := decodeText?_ne_managed (List.all_iff_forall_prop.mp (by decide)) other
    exact ⟨trivial, ⟨plain, apart⟩, trivial, trivial, other⟩
  have loaded := load_run_start sendable ordinary
  exact ⟨loaded.1, loaded.2.1⟩

end Gatehouse.Session
