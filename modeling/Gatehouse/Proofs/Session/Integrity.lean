import Gatehouse.Proofs.Session.Visit

/-!
# Integrity of sessions

Whatever is done to the cookies of a browser, a store loads only what it was given, as long
as nobody else can sign under its key.  The tag does not cover the name of a cookie, so
this rests on the values: none of one kind is read as another kind.
-/

namespace Gatehouse.Session

open Cookie (LastSigned)

namespace Visit

/-- In a run an action happened while the store had the key that it has in the end. -/
def Did (visit : Visit) (actions : List Action) (action : Action) : Prop :=
  ∃ before after, actions = before ++ action :: after ∧
    (visit.run before).store.key = (visit.run actions).store.key

/-- In a run the store signed a value, as that of a cookie of an action, while it had the key that
    it has in the end. -/
def Signed (visit : Visit) (actions : List Action) (value : String) : Prop :=
  ∃ before action after, actions = before ++ action :: after ∧
    (visit.run before).store.key = (visit.run actions).store.key ∧
    ∃ cookie ∈ (visit.run before).store.cookies action,
      cookie.value = (visit.run before).store.key.sign value

/-- Every text that the browser sends after a run, and that verifies under the store's key, was
    signed by the store in the run. -/
def Unforged (visit : Visit) (actions : List Action) : Prop :=
  ∀ pair ∈ Cookie.pairs (visit.run actions).browser.cookieHeaders, ∀ value,
    (visit.run actions).store.key.verify? pair.value = some value → visit.Signed actions value

end Visit

/-- A store signs users, logins in progress, and the empty value of a removal. -/
theorem Store.value_of_mem_cookies {store : Store} {action : Action} {cookie : Cookie.SetCookie}
    (member : cookie ∈ store.cookies action) :
    (∃ user, action = .save user ∧ cookie.value = store.key.sign user.encode) ∨
      (∃ flow, action = .saveFlow flow ∧ cookie.value = store.key.sign flow.encode) ∨
      cookie.value = store.key.sign "" := by
  cases action with
  | save user => exact .inl ⟨user, rfl, by rw [List.mem_singleton.mp member]; rfl⟩
  | saveFlow flow => exact .inr (.inl ⟨flow, rfl, by rw [List.mem_singleton.mp member]; rfl⟩)
  | invalidate => exact .inr (.inr (by rw [List.mem_singleton.mp member]; rfl))
  | clearFlow => exact .inr (.inr (by rw [List.mem_singleton.mp member]; rfl))
  | logout =>
    simp only [Store.cookies, List.mem_cons, List.not_mem_nil, or_false] at member
    rcases member with rfl | rfl
    · exact .inr (.inr rfl)
    · exact .inr (.inr rfl)
  | rekey secret => cases member
  | edit edit => cases member

namespace Visit

variable {visit : Visit} {actions : List Action}

theorem Signed.cases {value : String} (signed : visit.Signed actions value) :
    (∃ user, visit.Did actions (.save user) ∧ value = user.encode) ∨
      (∃ flow, visit.Did actions (.saveFlow flow) ∧ value = flow.encode) ∨ value = "" := by
  obtain ⟨before, action, after, whole, same, cookie, member, set⟩ := signed
  rcases Store.value_of_mem_cookies member with
    ⟨user, rfl, written⟩ | ⟨flow, rfl, written⟩ | written
  · exact .inl ⟨user, ⟨before, after, whole, same⟩,
      Cookie.SigningKey.sign_injective (set.symm.trans written)⟩
  · exact .inr (.inl ⟨flow, ⟨before, after, whole, same⟩,
      Cookie.SigningKey.sign_injective (set.symm.trans written)⟩)
  · exact .inr (.inr (Cookie.SigningKey.sign_injective (set.symm.trans written)))

theorem Unforged.signed (unforged : visit.Unforged actions) {name value : String}
    (last : LastSigned (visit.run actions).store.key
      (Cookie.pairs (visit.run actions).browser.cookieHeaders) name value) :
    visit.Signed actions value := by
  obtain ⟨before, after, whole, -⟩ := last
  refine unforged ⟨name, (visit.run actions).store.key.sign value⟩ ?_ value
    (Cookie.SigningKey.verify?_sign _ value)
  rw [whole]
  exact List.mem_append_right _ List.mem_cons_self

/-- Of what the store signs, only the value of a saved user loads as this user. -/
theorem did_save_of_load (unforged : visit.Unforged actions) {user : User}
    (loaded : (visit.run actions).load = .ok (some user)) : visit.Did actions (.save user) := by
  obtain ⟨value, last, decoded⟩ := Store.load_eq_ok_some loaded
  rcases (unforged.signed last).cases with ⟨saved, did, rfl⟩ | ⟨flow, -, rfl⟩ | rfl
  · rw [User.decode_encode, Except.ok.injEq] at decoded
    exact decoded ▸ did
  · obtain ⟨reason, failed⟩ := User.decode_flow flow
    rw [failed] at decoded
    cases decoded
  · rw [User.decode_empty] at decoded
    cases decoded

theorem did_saveFlow_of_loadFlow? (unforged : visit.Unforged actions) {flow : Flow}
    (loaded : (visit.run actions).loadFlow? = some flow) :
    visit.Did actions (.saveFlow flow) := by
  obtain ⟨value, last, decoded⟩ := Store.loadFlow?_eq_some loaded
  rcases (unforged.signed last).cases with ⟨user, -, rfl⟩ | ⟨saved, did, rfl⟩ | rfl
  · rw [Flow.decode?_user] at decoded
    cases decoded
  · rw [Flow.decode?_encode, Option.some.injEq] at decoded
    exact decoded ▸ did
  · rw [Flow.decode?_empty] at decoded
    cases decoded

end Visit

namespace Store

variable {store : Store} {headers : List String}

/-- A login in progress under the name of the session is an error. -/
theorem load_flow {flow : Flow}
    (last : LastSigned store.key (Cookie.pairs headers) sessionName flow.encode) :
    ∃ reason, store.load headers = .error (.decode reason) := by
  obtain ⟨reason, failed⟩ := User.decode_flow flow
  exact ⟨reason, by rw [load_of_lastSigned last, failed]; rfl⟩

/-- The value of a removal under the name of the session is an error. -/
theorem load_removed (last : LastSigned store.key (Cookie.pairs headers) sessionName "") :
    ∃ reason, store.load headers = .error (.decode reason) :=
  ⟨_, by rw [load_of_lastSigned last, User.decode_empty]; rfl⟩

theorem loadFlow?_user {user : User}
    (last : LastSigned store.key (Cookie.pairs headers) flowName user.encode) :
    store.loadFlow? headers = none := by
  rw [loadFlow?_of_lastSigned last, Flow.decode?_user]

theorem loadFlow?_removed (last : LastSigned store.key (Cookie.pairs headers) flowName "") :
    store.loadFlow? headers = none := by
  rw [loadFlow?_of_lastSigned last, Flow.decode?_empty]

end Store

/-- Whatever is done to the cookies of a browser in a run, a user that is loaded was saved, and a
    login in progress that is loaded was saved as one, under the key of the end.  In any request,
    a value that the store signed for one purpose does not load for the other one. -/
theorem Visit.saved_of_loaded {visit : Visit} {actions : List Action}
    (unforged : visit.Unforged actions) :
    (∀ user, (visit.run actions).load = .ok (some user) → visit.Did actions (.save user)) ∧
      (∀ flow, (visit.run actions).loadFlow? = some flow →
        visit.Did actions (.saveFlow flow)) ∧
      ∀ (store : Store) (headers : List String),
        (∀ flow : Flow,
          LastSigned store.key (Cookie.pairs headers) sessionName flow.encode →
            ∃ reason, store.load headers = .error (.decode reason)) ∧
        (∀ user : User, LastSigned store.key (Cookie.pairs headers) flowName user.encode →
          store.loadFlow? headers = none) ∧
        (LastSigned store.key (Cookie.pairs headers) sessionName "" →
          ∃ reason, store.load headers = .error (.decode reason)) ∧
        (LastSigned store.key (Cookie.pairs headers) flowName "" →
          store.loadFlow? headers = none) :=
  ⟨fun _ loaded => did_save_of_load unforged loaded,
    fun _ loaded => did_saveFlow_of_loadFlow? unforged loaded,
    fun _ _ => ⟨fun _ last => Store.load_flow last, fun _ last => Store.loadFlow?_user last,
      fun last => Store.load_removed last, fun last => Store.loadFlow?_removed last⟩⟩

/-- What is left when somebody copies a login in progress into the session, after a user was saved
    under another key. -/
theorem Visit.run_copy {options : Options} (sendable : options.AreSendable)
    (first second : String) (user : User) (flow : Flow) :
    let store := Store.ofSecret second options
    let value := Cookie.encodePart (store.key.sign flow.encode)
    (start (.ofSecret first options)).run
      [.save user, .rekey second, .saveFlow flow, .edit (.copy flowName sessionName)] =
        ⟨store, ⟨[(flowName, value), (sessionName, value)]⟩⟩ := by
  have below : flowName < sessionName := by decide
  have notBelow : ¬sessionName < flowName := by decide
  simp only [run, List.foldl_cons, List.foldl_nil]
  rw [act_save sendable, act, act_saveFlow sendable]
  simp only [act, start, Store.ofSecret, Cookie.Browser.edit, Cookie.Browser.copy,
    Cookie.Browser.set, Cookie.Browser.insert, Cookie.Browser.get?, Cookie.Browser.empty,
    if_neg sessionName_ne_flowName, if_neg sessionName_ne_flowName.symm, if_pos below,
    if_neg notBelow, if_true, List.find?_cons, beq_self_eq_true, Option.map_some, Option.getD_some]

/-- A browser that holds a value under both names of the store sends it twice. -/
theorem pairs_both (value : String) :
    Cookie.pairs (⟨[(flowName, Cookie.encodePart value),
      (sessionName, Cookie.encodePart value)]⟩ : Cookie.Browser).cookieHeaders =
        [⟨flowName, value⟩, ⟨sessionName, value⟩] := by
  have plain {name : String} (managed : name ∈ managedNames) (named : name ≠ "") :
      Cookie.IsPlain (name, Cookie.encodePart value) := by
    have plain := Cookie.IsPlain.encodePart name value
    rw [encodePart_managed name managed] at plain
    exact plain named
  have read {name : String} (managed : name ∈ managedNames) :
      Cookie.readBack? (name, Cookie.encodePart value) = some ⟨name, value⟩ := by
    have read := Cookie.readBack?_encodePart name value
    rwa [encodePart_managed name managed] at read
  rw [Cookie.pairs_cookieHeaders]
  · rw [List.filterMap_cons, read flowName_managed, List.filterMap_cons, read sessionName_managed]
    rfl
  · simp only [List.forall_mem_cons, List.not_mem_nil, false_imp_iff, implies_true, and_true]
    exact ⟨plain flowName_managed (by decide), plain sessionName_managed (by decide)⟩

/-- The copy forges nothing. -/
theorem Visit.unforged_copy {options : Options} (sendable : options.AreSendable)
    (first second : String) (user : User) (flow : Flow) :
    (start (.ofSecret first options)).Unforged
      [.save user, .rekey second, .saveFlow flow, .edit (.copy flowName sessionName)] := by
  intro pair member value verified
  rw [run_copy sendable] at member verified
  rw [pairs_both] at member
  have signed : pair.value = (Store.ofSecret second options).key.sign flow.encode := by
    simp only [List.mem_cons, List.not_mem_nil, or_false] at member
    rcases member with rfl | rfl <;> rfl
  rw [signed, Cookie.SigningKey.verify?_sign, Option.some.injEq] at verified
  subst value
  have before : ((start (.ofSecret first options)).run [.save user, .rekey second]).store =
      .ofSecret second options := by
    simp only [run, List.foldl_cons, List.foldl_nil]
    rw [act_save sendable]
    rfl
  refine ⟨[.save user, .rekey second], .saveFlow flow, [.edit (.copy flowName sessionName)], rfl,
    ?_, _, List.mem_cons_self, rfl⟩
  rw [run_copy sendable, before]

theorem Visit.loadFlow?_copy {options : Options} (sendable : options.AreSendable)
    (first second : String) (user : User) (flow : Flow) :
    ((start (.ofSecret first options)).run
      [.save user, .rekey second, .saveFlow flow, .edit (.copy flowName sessionName)]).loadFlow? =
        some flow := by
  rw [run_copy sendable, Visit.loadFlow?, ← Flow.decode?_encode flow]
  refine Store.loadFlow?_of_lastSigned ⟨[], [_], pairs_both _, ?_⟩
  intro pair member named
  rw [List.mem_singleton.mp member] at named
  exact absurd named sessionName_ne_flowName

/-- A login in progress that is copied into the session is still the one that was saved. -/
theorem Visit.saved_of_loaded_copy :
    let visit := start (.ofSecret "first" (.ofPath "/app"))
    let flow : Flow := ⟨"openid-connect", "token", "verifier"⟩
    let actions : List Action :=
      [.save ⟨"zoë@example.org", "openid-connect"⟩, .rekey "second", .saveFlow flow,
        .edit (.copy flowName sessionName)]
    visit.Unforged actions ∧ (visit.run actions).loadFlow? = some flow ∧
      visit.Did actions (.saveFlow flow) := by
  intro visit flow actions
  have sendable : (Options.ofPath "/app").AreSendable :=
    Options.areSendable_ofPath (List.all_iff_forall_prop.mp (by decide)) (by decide)
  have unforged : visit.Unforged actions := unforged_copy sendable "first" "second" _ flow
  have loaded : (visit.run actions).loadFlow? = some flow :=
    loadFlow?_copy sendable "first" "second" _ flow
  exact ⟨unforged, loaded, (saved_of_loaded unforged).2.1 flow loaded⟩

end Gatehouse.Session
