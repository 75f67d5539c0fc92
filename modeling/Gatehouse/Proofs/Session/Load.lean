import Gatehouse.Proofs.Cookie.Pairs
import Gatehouse.Proofs.Session.Store

/-!
# What a store makes of a request

A session is absent exactly when no pair is named like one, and its signature is invalid
exactly when such pairs are there but none of them is signed.  In all other requests the
last signed pair decides, whatever stands around it.
-/

namespace Gatehouse.Session

open Cookie (LastSigned NoneSigned SigningKey)

/-- A login in progress is what a value is the written form of. -/
def Flow.IsWrittenIn (flow : Flow) (value : String) : Prop :=
  ∃ octets, Base64.decode (Utf8.octets value) = .ok octets ∧ Json.read reader octets = .ok flow

theorem Flow.decode?_eq_some_iff {flow : Flow} {value : String} :
    Flow.decode? value = some flow ↔ flow.IsWrittenIn value := by
  unfold decode? unwrap IsWrittenIn
  cases Base64.decode (Utf8.octets value) with
  | error fault => simp [Except.toOption]
  | ok octets =>
    cases read : Json.read reader octets with
    | error fault => simp [Except.toOption, read]
    | ok other => simp [Except.toOption, read]

/-- A value that holds no user is no matter of its signature. -/
theorem User.decode_ne_invalidSignature (value name : String) :
    User.decode value ≠ .error (.invalidSignature name) := by
  unfold decode
  cases unwrap reader value with
  | error reason => simp [Except.mapError]
  | ok user => simp [Except.mapError]

namespace Store

variable {store : Store} {headers others : List String}

theorem load_eq_ok_none_iff :
    store.load headers = .ok none ↔ ∀ pair ∈ Cookie.pairs headers, pair.name ≠ sessionName := by
  constructor
  · intro loaded pair member named
    rcases Cookie.noneSigned_or_lastSigned store.key (Cookie.pairs headers) sessionName with
      unsigned | ⟨value, signed⟩
    · rw [load_of_noneSigned unsigned member named] at loaded
      cases loaded
    · rw [load_of_lastSigned signed] at loaded
      cases decoded : User.decode value with
      | error fault => simp [decoded, Except.map] at loaded
      | ok user => simp [decoded, Except.map] at loaded
  · intro absent
    exact load_of_absent absent

theorem load_eq_invalidSignature_iff :
    store.load headers = .error (.invalidSignature sessionName) ↔
      (∃ pair ∈ Cookie.pairs headers, pair.name = sessionName) ∧
        NoneSigned store.key (Cookie.pairs headers) sessionName := by
  constructor
  · intro loaded
    have present : ∃ pair ∈ Cookie.pairs headers, pair.name = sessionName := by
      by_contra absent
      simp only [not_exists, not_and] at absent
      rw [load_of_absent absent] at loaded
      cases loaded
    refine ⟨present, ?_⟩
    rcases Cookie.noneSigned_or_lastSigned store.key (Cookie.pairs headers) sessionName with
      unsigned | ⟨value, signed⟩
    · exact unsigned
    · rw [load_of_lastSigned signed] at loaded
      cases decoded : User.decode value with
      | error fault =>
        exfalso
        apply User.decode_ne_invalidSignature value sessionName
        simpa [decoded, Except.map] using loaded
      | ok user => simp [decoded, Except.map] at loaded
  · rintro ⟨⟨pair, member, named⟩, unsigned⟩
    exact load_of_noneSigned unsigned member named

theorem loadFlow?_eq_some_iff {flow : Flow} :
    store.loadFlow? headers = some flow ↔
      ∃ value, LastSigned store.key (Cookie.pairs headers) flowName value ∧
        flow.IsWrittenIn value := by
  constructor
  · intro loaded
    obtain ⟨value, signed, decoded⟩ := loadFlow?_eq_some loaded
    exact ⟨value, signed, Flow.decode?_eq_some_iff.mp decoded⟩
  · rintro ⟨value, signed, written⟩
    rw [loadFlow?_of_lastSigned signed]
    exact Flow.decode?_eq_some_iff.mpr written

/-- The pairs of one name decide what is loaded from it. -/
theorem lastValue?_verified_congr {name : String}
    (same : (Cookie.pairs headers).filter (·.name == name) =
      (Cookie.pairs others).filter (·.name == name)) :
    Cookie.lastValue? (store.verified headers) name =
      Cookie.lastValue? (store.verified others) name := by
  rw [verified, verified, ← Cookie.lastValue?_verifiedPairs_filter, same,
    Cookie.lastValue?_verifiedPairs_filter]

theorem load_congr
    (same : (Cookie.pairs headers).filter (·.name == sessionName) =
      (Cookie.pairs others).filter (·.name == sessionName)) :
    store.load headers = store.load others := by
  have present (headers : List String) :
      (Cookie.pairs headers).any (·.name == sessionName) =
        ((Cookie.pairs headers).filter (·.name == sessionName)).any (·.name == sessionName) := by
    simp [List.any_filter]
  rw [load, load, present headers, present others, same, lastValue?_verified_congr same]

theorem loadFlow?_congr
    (same : (Cookie.pairs headers).filter (·.name == flowName) =
      (Cookie.pairs others).filter (·.name == flowName)) :
    store.loadFlow? headers = store.loadFlow? others := by
  rw [loadFlow?, loadFlow?, lastValue?_verified_congr same]

/-- What a store makes of any request.  Of each name some pair is the last signed one or none is
    signed; without a session pair there is no session, without a signed one the signature is
    invalid, and otherwise the last signed one is decoded.  A login in progress is loaded from the
    last signed pair of its own name and from nothing else.  What was signed under another key
    counts as signed only if both keys give it the same tag. -/
theorem load_exact (store : Store) (headers : List String) :
    let pairs := Cookie.pairs headers
    Cookie.ReadFrom pairs (Cookie.pieces headers) ∧
    (∀ name, NoneSigned store.key pairs name ∨ ∃ value, LastSigned store.key pairs name value) ∧
    (store.load headers = .ok none ↔ ∀ pair ∈ pairs, pair.name ≠ sessionName) ∧
    (store.load headers = .error (.invalidSignature sessionName) ↔
      (∃ pair ∈ pairs, pair.name = sessionName) ∧ NoneSigned store.key pairs sessionName) ∧
    (∀ value, LastSigned store.key pairs sessionName value →
      store.load headers = (User.decode value).map some) ∧
    (∀ flow, store.loadFlow? headers = some flow ↔
      ∃ value, LastSigned store.key pairs flowName value ∧ flow.IsWrittenIn value) ∧
    ∀ (other : SigningKey) (signed value : String),
      other.sign signed = store.key.sign value ↔
        value = signed ∧ other.tag signed.toList = store.key.tag signed.toList := by
  refine ⟨Cookie.readFrom_pairs headers, ?_, load_eq_ok_none_iff, load_eq_invalidSignature_iff,
    ?_, ?_, ?_⟩
  · intro name
    exact Cookie.noneSigned_or_lastSigned store.key (Cookie.pairs headers) name
  · intro value signed
    exact load_of_lastSigned signed
  · intro flow
    exact loadFlow?_eq_some_iff
  · intro other signed value
    exact SigningKey.sign_eq_sign_iff

end Store

end Gatehouse.Session
