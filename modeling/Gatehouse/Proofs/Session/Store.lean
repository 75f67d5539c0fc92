import Gatehouse.Proofs.Cookie.Signature
import Gatehouse.Proofs.Session.Codec
import Gatehouse.Session.Store

/-!
# What a store loads

Of the cookies of a request only the last signed one of each name counts, and whether it
loads is decided by the value alone.
-/

namespace Gatehouse.Session.Store

open Cookie (LastSigned NoneSigned)

variable {store : Store} {headers : List String}

theorem lastValue?_verified_iff {name value : String} :
    Cookie.lastValue? (store.verified headers) name = some value ↔
      LastSigned store.key (Cookie.pairs headers) name value :=
  Cookie.lastValue?_eq_some_iff

theorem any_of_lastSigned {pairs : List Cookie.Pair} {name value : String}
    (signed : LastSigned store.key pairs name value) : pairs.any (·.name == name) = true := by
  obtain ⟨before, after, rfl, -⟩ := signed
  simp

/-- The last signed session cookie decides what is loaded. -/
theorem load_of_lastSigned {value : String}
    (signed : LastSigned store.key (Cookie.pairs headers) sessionName value) :
    store.load headers = (User.decode value).map some := by
  rw [load, if_pos (any_of_lastSigned signed), lastValue?_verified_iff.mpr signed]

/-- Session cookies without a valid tag are an error and not an absent session. -/
theorem load_of_noneSigned (unsigned : NoneSigned store.key (Cookie.pairs headers) sessionName)
    {pair : Cookie.Pair} (member : pair ∈ Cookie.pairs headers) (named : pair.name = sessionName) :
    store.load headers = .error (.invalidSignature sessionName) := by
  have some : (Cookie.pairs headers).any (·.name == sessionName) = true :=
    List.any_eq_true.mpr ⟨pair, member, beq_iff_eq.mpr named⟩
  rw [load, if_pos some, verified, Cookie.lastValue?_eq_none_iff.mpr unsigned]

theorem load_of_absent (absent : ∀ pair ∈ Cookie.pairs headers, pair.name ≠ sessionName) :
    store.load headers = .ok none := by
  have none : ¬(Cookie.pairs headers).any (·.name == sessionName) = true := by
    rw [List.any_eq_true]
    rintro ⟨pair, member, named⟩
    exact absent pair member (beq_iff_eq.mp named)
  rw [load, if_neg none]

/-- The last signed cookie of a login in progress decides what is loaded. -/
theorem loadFlow?_of_lastSigned {value : String}
    (signed : LastSigned store.key (Cookie.pairs headers) flowName value) :
    store.loadFlow? headers = Flow.decode? value := by
  rw [loadFlow?, lastValue?_verified_iff.mpr signed]
  rfl

theorem loadFlow?_of_noneSigned
    (unsigned : NoneSigned store.key (Cookie.pairs headers) flowName) :
    store.loadFlow? headers = none := by
  rw [loadFlow?, verified, Cookie.lastValue?_eq_none_iff.mpr unsigned]
  rfl

theorem load_eq_ok_some {user : User} (loaded : store.load headers = .ok (some user)) :
    ∃ value, LastSigned store.key (Cookie.pairs headers) sessionName value ∧
      User.decode value = .ok user := by
  rw [load] at loaded
  split at loaded
  · split at loaded
    · cases loaded
    · rename_i value last
      refine ⟨value, lastValue?_verified_iff.mp last, ?_⟩
      cases decoded : User.decode value with
      | error fault =>
        rw [decoded] at loaded
        cases loaded
      | ok other =>
        rw [decoded] at loaded
        cases loaded
        rfl
  · cases loaded

theorem loadFlow?_eq_some {flow : Flow} (loaded : store.loadFlow? headers = some flow) :
    ∃ value, LastSigned store.key (Cookie.pairs headers) flowName value ∧
      Flow.decode? value = some flow := by
  rw [loadFlow?, Option.bind_eq_bind, Option.bind_eq_some_iff] at loaded
  obtain ⟨value, last, decoded⟩ := loaded
  exact ⟨value, lastValue?_verified_iff.mp last, decoded⟩

end Gatehouse.Session.Store
