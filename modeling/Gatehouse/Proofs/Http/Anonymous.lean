import Gatehouse.Http.Exchange
import Gatehouse.Proofs.Http.Response

/-!
# Exchanges without credentials

What is left of the exchanges with other services when nothing shows who asks, and services
that answer without a look at it.
-/

namespace Gatehouse.Http

/-- A call that does not show who asks. -/
def Call.anonymous (call : Call) : Call :=
  { call with authorization := [] }

/-- An exchange that does not show who asked. -/
def Exchange.anonymous (exchange : Exchange) : Exchange :=
  { exchange with call := exchange.call.anonymous }

/-- Services whose replies do not depend on who asks. -/
def Services.IsBlind (services : Services) : Prop :=
  ∀ {earlier earlier' : List Call} {call call' : Call},
    earlier.map Call.anonymous = earlier'.map Call.anonymous → call.anonymous = call'.anonymous →
      services earlier call = services earlier' call'

/-- Services that go by method and URL do not look at who asks. -/
theorem Services.isBlind_ofRules (rules : (method url : String) → Reply) :
    Services.IsBlind fun _ call => rules call.method call.url := by
  intro earlier earlier' call call' _ same
  obtain ⟨method, url, -⟩ := Call.mk.inj same
  dsimp only
  rw [method, url]

/-- Two results with the exchanges that led to them are alike when they are the same but for who
    asked. -/
structure Alike {α : Type} (one other : α × List Exchange) : Prop where
  result : one.1 = other.1
  exchanges : one.2.map Exchange.anonymous = other.2.map Exchange.anonymous

namespace Alike

variable {α β : Type} {one other : α × List Exchange}

theorem refl (one : α × List Exchange) : Alike one one := ⟨rfl, rfl⟩

theorem map (alike : Alike one other) (f : α → β) : Alike (f one.1, one.2) (f other.1, other.2) :=
  ⟨congrArg f alike.result, alike.exchanges⟩

theorem append (alike : Alike one other) {later later' : β × List Exchange}
    (more : Alike later later') :
    Alike (later.1, one.2 ++ later.2) (later'.1, other.2 ++ later'.2) where
  result := more.result
  exchanges := by rw [List.map_append, List.map_append, alike.exchanges, more.exchanges]

/-- The calls are the same as well. -/
theorem calls (alike : Alike one other) :
    (one.2.map (·.call)).map Call.anonymous = (other.2.map (·.call)).map Call.anonymous := by
  have same := congrArg (List.map Exchange.call) alike.exchanges
  rw [List.map_map, List.map_map] at same ⊢
  exact same

/-- Services that do not look at who asks reply alike. -/
theorem ofReply {services : Services} (blind : services.IsBlind) {earlier earlier' : List Call}
    (heard : earlier.map Call.anonymous = earlier'.map Call.anonymous) {call call' : Call}
    (same : call.anonymous = call'.anonymous) :
    Alike (services earlier call, [⟨call, services earlier call⟩])
      (services earlier' call', [⟨call', services earlier' call'⟩]) where
  result := blind heard same
  exchanges := by
    rw [List.map_singleton, List.map_singleton, Exchange.anonymous, Exchange.anonymous]
    dsimp only
    rw [same, blind heard same]

end Alike

theorem isFieldValue_bearer (token : String) :
    isFieldValue (bearer token) = isFieldValue token := by
  have word : isFieldValue "Bearer " = true := by decide
  rw [bearer, isFieldValue_append, word, Bool.true_and]

/-- Whether a URL can be asked for does not depend on the token, as long as a field can hold it. -/
theorem getCall_alike (address : String) {token token' : Option String}
    (field : ∀ s ∈ token, isFieldValue s = true) (field' : ∀ s ∈ token', isFieldValue s = true) :
    (∃ fault, getCall address token = .error fault ∧ getCall address token' = .error fault) ∨
      ∃ url call call', getCall address token = .ok (url, call) ∧
        getCall address token' = .ok (url, call') ∧ call.anonymous = call'.anonymous := by
  have fields {token : Option String} (field : ∀ s ∈ token, isFieldValue s = true) :
      (!(token.map bearer).toList.all isFieldValue) = false := by
    cases token with
    | none => rfl
    | some s => simpa [isFieldValue_bearer] using field s rfl
  unfold getCall
  cases Url.parse address with
  | error fault => exact .inl ⟨_, rfl, rfl⟩
  | ok url =>
    simp only [fields field, fields field', Bool.false_eq_true, if_false]
    split
    · exact .inl ⟨_, rfl, rfl⟩
    · split
      · exact .inl ⟨_, rfl, rfl⟩
      · exact .inr ⟨_, _, _, rfl, rfl, rfl⟩

end Gatehouse.Http
