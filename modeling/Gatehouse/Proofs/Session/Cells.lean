import Gatehouse.Proofs.Cookie.Browser
import Gatehouse.Proofs.Session.Store
import Gatehouse.Session.Visit

/-!
# Two cells

A store and a browser behave as two independent cells, one for the user who is logged in
and one for the login in progress.  The invariant says which written values a browser holds
for the contents of the cells; every cookie of the store preserves it.
-/

namespace Gatehouse.Session

/-- The contents of the two cells. -/
structure Cells where
  user : Option User
  flow : Option Flow
deriving DecidableEq, Repr

/-- Nobody is logged in, and no login is in progress. -/
def Cells.empty : Cells := ⟨none, none⟩

/-- The names of the store's cookies. -/
def managedNames : List String := [sessionName, flowName]

/-- A browser that sends back every pair as it is, and in which no other name is read as a name of
    the store. -/
structure IsTidy (browser : Cookie.Browser) : Prop where
  ordered : browser.Ordered
  plain : ∀ entry ∈ browser.held, Cookie.IsPlain entry
  apart : ∀ entry ∈ browser.held, ∀ name ∈ managedNames,
    Percent.decodeText? entry.1.toList = some name.toList → entry.1 = name

/-- What a browser holds under the store's names for the contents of the cells. -/
structure Keeps (key : Cookie.SigningKey) (browser : Cookie.Browser) (cells : Cells) : Prop
    extends IsTidy browser where
  user : browser.get? sessionName =
    cells.user.map fun user => Cookie.encodePart (key.sign user.encode)
  flow : browser.get? flowName =
    cells.flow.map fun flow => Cookie.encodePart (key.sign flow.encode)

/-- Options under which a browser takes in the store's cookies as they are meant: they last, and
    the path neither ends early nor spoils the header. -/
structure Options.AreSendable (options : Options) : Prop where
  lasts : options.maxAgeSeconds ≠ 0
  whole : ∀ c ∈ options.path.toList, c ≠ ';'
  field : Http.isFieldValue options.path = true

theorem Options.areSendable_ofPath {path : String} (whole : ∀ c ∈ path.toList, c ≠ ';')
    (field : Http.isFieldValue path = true) : (Options.ofPath path).AreSendable :=
  ⟨(by decide : sessionSeconds ≠ 0), whole, field⟩

theorem sessionName_ne_flowName : sessionName ≠ flowName := by decide

theorem sessionName_managed : sessionName ∈ managedNames := List.mem_cons_self

theorem flowName_managed : flowName ∈ managedNames := List.mem_cons_of_mem _ List.mem_cons_self

theorem encodePart_managed : ∀ name ∈ managedNames, Cookie.encodePart name = name := by decide

theorem decodeText?_managed {name : String} (managed : name ∈ managedNames) :
    Percent.decodeText? name.toList = some name.toList := by
  have read := Cookie.decodeText?_encodePart name
  rwa [encodePart_managed name managed] at read

/-- A name without percent signs is read as itself only. -/
theorem decodeText?_ne_managed {name : String} (plain : ∀ c ∈ name.toList, c ≠ '%')
    (other : name ∉ managedNames) :
    ∀ managed ∈ managedNames, Percent.decodeText? name.toList ≠ some managed.toList := by
  intro managed member read
  rw [Percent.decodeText?_of_plain plain, Option.some.injEq, String.toList_inj] at read
  exact other (read ▸ member)

namespace IsTidy

theorem empty : IsTidy .empty where
  ordered := .empty
  plain := fun _ member => nomatch member
  apart := fun _ member => nomatch member

theorem set {browser : Cookie.Browser} (tidy : IsTidy browser) {name value : String}
    (plain : Cookie.IsPlain (name, value))
    (apart : ∀ managed ∈ managedNames,
      Percent.decodeText? name.toList = some managed.toList → name = managed) :
    IsTidy (browser.set name value) where
  ordered := tidy.ordered.set name value
  plain := fun entry member => by
    rcases Cookie.Browser.mem_set member with rfl | member
    · exact plain
    · exact tidy.plain entry member
  apart := fun entry member => by
    rcases Cookie.Browser.mem_set member with rfl | member
    · exact apart
    · exact tidy.apart entry member

theorem drop {browser : Cookie.Browser} (tidy : IsTidy browser) (name : String) :
    IsTidy (browser.drop name) where
  ordered := tidy.ordered.drop name
  plain := fun entry member => tidy.plain entry (Cookie.Browser.mem_drop member)
  apart := fun entry member => tidy.apart entry (Cookie.Browser.mem_drop member)

/-- Any value may be held under a name of the store in written form. -/
theorem setManaged {browser : Cookie.Browser} (tidy : IsTidy browser) {name : String}
    (managed : name ∈ managedNames) (value : String) :
    IsTidy (browser.set name (Cookie.encodePart value)) := by
  have written := encodePart_managed name managed
  refine tidy.set ?_ fun other _ read => ?_
  · have plain := Cookie.IsPlain.encodePart name value (by
      rw [written]
      rintro rfl
      exact absurd managed (by decide))
    rwa [written] at plain
  · rw [decodeText?_managed managed, Option.some.injEq] at read
    exact String.toList_inj.mp read

/-- The only cookie of a store's name in a request is the one that is held. -/
theorem filter_pairs {browser : Cookie.Browser} (tidy : IsTidy browser) {name : String}
    (managed : name ∈ managedNames) (value : Option String)
    (held : browser.get? name = value.map Cookie.encodePart) :
    (Cookie.pairs browser.cookieHeaders).filter (·.name == name) =
      (value.map fun value => ⟨name, value⟩).toList := by
  rw [Cookie.Browser.filter_pairs tidy.ordered tidy.plain
    (fun entry member => tidy.apart entry member name managed) (decodeText?_managed managed), held]
  cases value with
  | none => rfl
  | some value =>
    have read := Cookie.readBack?_encodePart name value
    rw [encodePart_managed name managed] at read
    rw [Option.map_some, Option.bind_some, read, Option.map_some]

end IsTidy

namespace Keeps

variable {store : Store} {key : Cookie.SigningKey} {browser : Cookie.Browser} {cells : Cells}

theorem empty (key : Cookie.SigningKey) : Keeps key .empty .empty where
  toIsTidy := .empty
  user := rfl
  flow := rfl

/-- The store loads the user of the cell, and never an error. -/
theorem load (keeps : Keeps store.key browser cells) :
    store.load browser.cookieHeaders = .ok cells.user := by
  have only := keeps.filter_pairs sessionName_managed
    (cells.user.map fun user => store.key.sign user.encode)
    (by rw [keeps.user, Option.map_map]; rfl)
  cases kept : cells.user with
  | none =>
    rw [kept] at only
    refine Store.load_of_absent fun pair member named => ?_
    exact List.filter_eq_nil_iff.mp only pair member (beq_iff_eq.mpr named)
  | some user =>
    rw [kept] at only
    rw [Store.load_of_lastSigned (Cookie.lastSigned_of_filter only), User.decode_encode]
    rfl

/-- The store loads the login in progress of the cell. -/
theorem loadFlow? (keeps : Keeps store.key browser cells) :
    store.loadFlow? browser.cookieHeaders = cells.flow := by
  have only := keeps.filter_pairs flowName_managed
    (cells.flow.map fun flow => store.key.sign flow.encode)
    (by rw [keeps.flow, Option.map_map]; rfl)
  cases kept : cells.flow with
  | none =>
    rw [kept] at only
    exact Store.loadFlow?_of_noneSigned (Cookie.noneSigned_of_filter _ only)
  | some flow =>
    rw [kept] at only
    rw [Store.loadFlow?_of_lastSigned (Cookie.lastSigned_of_filter only), Flow.decode?_encode]

theorem setUser (keeps : Keeps key browser cells) (user : User) :
    Keeps key (browser.set sessionName (Cookie.encodePart (key.sign user.encode)))
      { cells with user := some user } where
  toIsTidy := keeps.setManaged sessionName_managed _
  user := by rw [Cookie.Browser.get?_set, if_pos rfl]; rfl
  flow := by rw [Cookie.Browser.get?_set, if_neg sessionName_ne_flowName, keeps.flow]

theorem dropUser (keeps : Keeps key browser cells) :
    Keeps key (browser.drop sessionName) { cells with user := none } where
  toIsTidy := keeps.drop sessionName
  user := by rw [Cookie.Browser.get?_drop, if_pos rfl]; rfl
  flow := by rw [Cookie.Browser.get?_drop, if_neg sessionName_ne_flowName, keeps.flow]

theorem setFlow (keeps : Keeps key browser cells) (flow : Flow) :
    Keeps key (browser.set flowName (Cookie.encodePart (key.sign flow.encode)))
      { cells with flow := some flow } where
  toIsTidy := keeps.setManaged flowName_managed _
  user := by rw [Cookie.Browser.get?_set, if_neg sessionName_ne_flowName.symm, keeps.user]
  flow := by rw [Cookie.Browser.get?_set, if_pos rfl]; rfl

theorem dropFlow (keeps : Keeps key browser cells) :
    Keeps key (browser.drop flowName) { cells with flow := none } where
  toIsTidy := keeps.drop flowName
  user := by rw [Cookie.Browser.get?_drop, if_neg sessionName_ne_flowName.symm, keeps.user]
  flow := by rw [Cookie.Browser.get?_drop, if_pos rfl]; rfl

/-- Pairs that have nothing to do with the store come and go without a trace. -/
theorem setOther (keeps : Keeps key browser cells) {name value : String}
    (plain : Cookie.IsPlain (name, value))
    (apart : ∀ managed ∈ managedNames, Percent.decodeText? name.toList ≠ some managed.toList) :
    Keeps key (browser.set name value) cells := by
  have different (managed : String) (member : managed ∈ managedNames) : name ≠ managed := by
    rintro rfl
    exact apart name member (decodeText?_managed member)
  exact
    { toIsTidy := keeps.toIsTidy.set plain fun managed member read =>
        absurd read (apart managed member)
      user := by
        rw [Cookie.Browser.get?_set, if_neg (different _ sessionName_managed), keeps.user]
      flow := by
        rw [Cookie.Browser.get?_set, if_neg (different _ flowName_managed), keeps.flow] }

theorem dropOther (keeps : Keeps key browser cells) {name : String} (other : name ∉ managedNames) :
    Keeps key (browser.drop name) cells where
  toIsTidy := keeps.drop name
  user := by
    rw [Cookie.Browser.get?_drop, if_neg, keeps.user]
    rintro rfl
    exact other sessionName_managed
  flow := by
    rw [Cookie.Browser.get?_drop, if_neg, keeps.flow]
    rintro rfl
    exact other flowName_managed

end Keeps

end Gatehouse.Session
