import Gatehouse.Proofs.Session.Cells
import Gatehouse.Proofs.Session.Load

/-!
# Pairs of others

Other applications of the host put pairs of their own into the headers of a request.  Such
a pair leaves every session and every login in progress alone exactly when it is plain
ASCII: one that is not takes all that stands in the same header away.
-/

namespace Gatehouse.Session

open Cookie (IsSingle IsText behind entryText readName?)

namespace Store

variable {store : Store} {entry : String × String}

theorem filter_pairs_behind (single : IsSingle entry) (text : IsText entry) {name : String}
    (apart : readName? entry.1 ≠ some name) (front back : List String) (header : String) :
    (Cookie.pairs (front ++ behind header entry :: back)).filter (·.name == name) =
      (Cookie.pairs (front ++ header :: back)).filter (·.name == name) := by
  simp only [Cookie.pairs_append, Cookie.pairs_cons, List.filter_append,
    Cookie.filter_pairsOfHeader_behind single text apart]

/-- A pair of others in plain ASCII does not change what is loaded, whether a user or an error. -/
theorem load_behind (single : IsSingle entry) (text : IsText entry)
    (apart : readName? entry.1 ≠ some sessionName) (front back : List String) (header : String) :
    store.load (front ++ behind header entry :: back) = store.load (front ++ header :: back) := by
  apply load_congr
  exact filter_pairs_behind single text apart front back header

theorem loadFlow?_behind (single : IsSingle entry) (text : IsText entry)
    (apart : readName? entry.1 ≠ some flowName) (front back : List String) (header : String) :
    store.loadFlow? (front ++ behind header entry :: back) =
      store.loadFlow? (front ++ header :: back) := by
  apply loadFlow?_congr
  exact filter_pairs_behind single text apart front back header

/-- A pair that is not plain ASCII takes its header out of the request. -/
theorem pairs_behind_of_not_isText (other : ¬IsText entry) (front back : List String)
    (header : String) :
    Cookie.pairs (front ++ behind header entry :: back) = Cookie.pairs (front ++ back) := by
  rw [Cookie.pairs_append, Cookie.pairs_append, Cookie.pairs_cons,
    Cookie.pairsOfHeader_behind_of_not_isText other, List.nil_append]

theorem load_behind_of_not_isText (other : ¬IsText entry) (front back : List String)
    (header : String) :
    store.load (front ++ behind header entry :: back) = store.load (front ++ back) := by
  apply load_congr
  rw [pairs_behind_of_not_isText other]

theorem loadFlow?_behind_of_not_isText (other : ¬IsText entry) (front back : List String)
    (header : String) :
    store.loadFlow? (front ++ behind header entry :: back) = store.loadFlow? (front ++ back) := by
  apply loadFlow?_congr
  rw [pairs_behind_of_not_isText other]

/-- The header of a browser that holds a session and nothing else. -/
def sessionHeader (store : Store) (user : User) : String :=
  entryText (sessionName, Cookie.encodePart (store.key.sign user.encode))

theorem load_sessionHeader (store : Store) (user : User) :
    store.load [store.sessionHeader user] = .ok (some user) :=
  ((Keeps.empty store.key).setUser user).load

/-- The header of a browser that holds a login in progress and nothing else. -/
def flowHeader (store : Store) (flow : Flow) : String :=
  entryText (flowName, Cookie.encodePart (store.key.sign flow.encode))

theorem loadFlow?_flowHeader (store : Store) (flow : Flow) :
    store.loadFlow? [store.flowHeader flow] = some flow :=
  ((Keeps.empty store.key).setFlow flow).loadFlow?

/-- A request without headers has no session. -/
theorem load_nil (store : Store) : store.load [] = .ok none := rfl

theorem loadFlow?_nil (store : Store) : store.loadFlow? [] = none := rfl

/-- When a pair of others interferes.  Whatever request it is put into, behind whichever header, it
    keeps the user who is logged in, and the login in progress, exactly if it is plain ASCII.
    Otherwise the request is loaded as if the whole header were not there. -/
theorem keeps_behind_iff (single : IsSingle entry) :
    (readName? entry.1 ≠ some sessionName →
      ((∀ (store : Store) front header back user,
        store.load (front ++ header :: back) = .ok (some user) →
          store.load (front ++ behind header entry :: back) = .ok (some user)) ↔ IsText entry)) ∧
    (readName? entry.1 ≠ some flowName →
      ((∀ (store : Store) front header back,
        store.loadFlow? (front ++ behind header entry :: back) =
          store.loadFlow? (front ++ header :: back)) ↔ IsText entry)) ∧
    (¬IsText entry → ∀ (store : Store) front header back,
      store.load (front ++ behind header entry :: back) = store.load (front ++ back) ∧
        store.loadFlow? (front ++ behind header entry :: back) =
          store.loadFlow? (front ++ back)) := by
  let store := Store.ofSecret "" (.ofPath "/")
  refine ⟨fun apart => ⟨fun keeps => ?_, fun text => ?_⟩,
    fun apart => ⟨fun keeps => ?_, fun text => ?_⟩, fun other => ?_⟩
  · -- A session that stands in the only header shows it.
    by_contra other
    have kept := keeps store [] (store.sessionHeader ⟨"", ""⟩) [] ⟨"", ""⟩
      (load_sessionHeader store _)
    rw [load_behind_of_not_isText other, List.nil_append, load_nil] at kept
    cases kept
  · intro store front header back user loaded
    rw [load_behind single text apart, loaded]
  · by_contra other
    have kept := keeps store [] (store.flowHeader ⟨"", "", ""⟩) []
    rw [loadFlow?_behind_of_not_isText other, List.nil_append, List.nil_append, loadFlow?_nil,
      loadFlow?_flowHeader] at kept
    cases kept
  · intro store front header back
    exact loadFlow?_behind single text apart front back header
  · intro store front header back
    exact ⟨load_behind_of_not_isText other front back header,
      loadFlow?_behind_of_not_isText other front back header⟩

theorem readName?_theme : readName? "theme" = some "theme" := by decide +kernel

/-- A plain pair behind a session. -/
theorem keeps_behind_iff_theme :
    let store := Store.ofSecret "test-secret" (.ofPath "/")
    let user : User := ⟨"alice@example.com", "openid-connect"⟩
    IsSingle ("theme", "dark") ∧ IsText ("theme", "dark") ∧
      store.load [behind (store.sessionHeader user) ("theme", "dark")] = .ok (some user) := by
  intro store user
  have single : IsSingle ("theme", "dark") := by decide
  have text : IsText ("theme", "dark") := by decide
  have apart : readName? "theme" ≠ some sessionName := by
    rw [readName?_theme]
    decide
  refine ⟨single, text, ?_⟩
  exact ((keeps_behind_iff single).1 apart).mpr text store [] (store.sessionHeader user) [] user
    (load_sessionHeader store user)

/-- One letter outside of ASCII, in a pair of others, ends a session whose own pair verifies. -/
theorem load_behind_accent :
    let store := Store.ofSecret "test-secret" (.ofPath "/")
    let user : User := ⟨"alice@example.com", "openid-connect"⟩
    let other := ("theme", "é")
    IsSingle other ∧ readName? other.1 ≠ some sessionName ∧
      (∀ c ∈ other.2.toList, Ascii.isControl c = false) ∧
      store.load [store.sessionHeader user] = .ok (some user) ∧
      store.load [behind (store.sessionHeader user) other] = .ok none := by
  intro store user other
  have accent : ¬IsText other := by decide
  have single : IsSingle ("theme", "é") := by decide
  refine ⟨single, ?_, List.all_iff_forall_prop.mp (by decide), load_sessionHeader store user, ?_⟩
  · rw [readName?_theme]
    decide
  · exact load_behind_of_not_isText accent [] [] (store.sessionHeader user)

end Store

end Gatehouse.Session
