import Gatehouse.Authz.Client
import Gatehouse.Proofs.Json.Objects
import Gatehouse.Proofs.Text.Cutting

/-!
# Asking the authorization service

When a client can be made, and every way in which its question for the models can end: with
nothing sent, without an answer, with an answer of another status than success, with one that
is no page of models, and with a page.
-/

namespace Gatehouse.Authz

/-- A client is made of an address and a store that are not blank. -/
theorem Client.ofSettings_eq_ok_iff {apiUrl storeId : String} {token : Option String}
    {client : Client} :
    ofSettings apiUrl storeId token = .ok client ↔
      (∃ c ∈ apiUrl.toList, Text.isBlank c = false) ∧
        (∃ c ∈ storeId.toList, Text.isBlank c = false) ∧
        client = ⟨Text.trimSlashes apiUrl, storeId, token.filter (!·.isEmpty)⟩ := by
  have shown (s : String) :
      (∃ c ∈ s.toList, Text.isBlank c = false) ↔ (Text.trim s).isEmpty = false := by
    rw [← Bool.not_eq_true, Text.isEmpty_trim_iff]
    simp
  rw [shown, shown, ofSettings]
  cases (Text.trim apiUrl).isEmpty with
  | true => simp
  | false =>
    cases (Text.trim storeId).isEmpty with
    | true => simp
    | false => simp [eq_comm]

/-- A page is what a body says as a whole: nothing but white space is left over. -/
def ModelsPage.IsReadFrom (page : ModelsPage) (body : List UInt8) : Prop :=
  ∃ rest, ModelsPage.reader body = .ok (page, rest) ∧ ∀ x ∈ rest, Json.isSpace x = true

theorem ModelsPage.ofJson_eq_ok_iff {page : ModelsPage} {body : List UInt8} :
    ModelsPage.ofJson body = .ok page ↔ page.IsReadFrom body :=
  Json.read_eq_ok_iff

/-- The ways in which a question for models ends: with its result and with what was exchanged. -/
inductive Client.Ends (services : Http.Services) :
    Except AuthzError ModelsPage → List Http.Exchange → Prop
  | unsent (fault : Http.CallFault) : Ends services (.error (.connectionFailed fault.message)) []
  | unanswered (call : Http.Call) (fault : Http.CallFault)
    (silent : ∀ status contentType body, services [] call ≠ .answered status contentType body) :
    Ends services (.error (.connectionFailed fault.message)) [⟨call, services [] call⟩]
  | refused (call : Http.Call) {status : Nat} {contentType : Option String} {body : List UInt8}
    (answered : services [] call = .answered status contentType body)
    (bad : Http.isSuccess status = false) :
    Ends services (.error (.requestFailed status (.ofList (Utf8.decodeLossy body))))
      [⟨call, services [] call⟩]
  | unreadable (call : Http.Call) {status : Nat} {contentType : Option String} {body : List UInt8}
    (answered : services [] call = .answered status contentType body)
    (good : Http.isSuccess status = true) (other : ∀ page, ¬ ModelsPage.IsReadFrom page body) :
    Ends services (.error (.invalidResponse "error decoding response body"))
      [⟨call, services [] call⟩]
  | listed (call : Http.Call) {status : Nat} {contentType : Option String} {body : List UInt8}
    {page : ModelsPage} (answered : services [] call = .answered status contentType body)
    (good : Http.isSuccess status = true) (read : page.IsReadFrom body) :
    Ends services (.ok page) [⟨call, services [] call⟩]

theorem Client.ends_listModels (client : Client) (services : Http.Services) :
    Ends services (client.listModels services).1 (client.listModels services).2 := by
  unfold listModels
  cases Http.getCall client.modelsUrl client.token with
  | error fault => exact .unsent fault
  | ok sent =>
    obtain ⟨url, call⟩ := sent
    dsimp only
    cases reply : services [] call with
    | unreachable | dropped =>
      rw [← reply]
      have result : readReply url (services [] call) =
          .error (.connectionFailed (Http.CallFault.unanswered url.text).message) := by
        rw [reply]
        rfl
      exact result ▸ .unanswered call _ (by simp [reply])
    | answered status contentType body =>
      rw [← reply]
      cases good : Http.isSuccess status with
      | false =>
        have result : readReply url (services [] call) =
            .error (.requestFailed status (.ofList (Utf8.decodeLossy body))) := by
          rw [reply, readReply, good]
          rfl
        exact result ▸ .refused call reply good
      | true =>
        cases read : ModelsPage.ofJson body with
        | ok page =>
          have result : readReply url (services [] call) = .ok page := by
            rw [reply, readReply, good, read]
            rfl
          exact result ▸ .listed call reply good (ModelsPage.ofJson_eq_ok_iff.mp read)
        | error fault =>
          have result : readReply url (services [] call) =
              .error (.invalidResponse "error decoding response body") := by
            rw [reply, readReply, good, read]
            rfl
          refine result ▸ .unreadable call reply good fun page whole => ?_
          cases read.symm.trans (ModelsPage.ofJson_eq_ok_iff.mpr whole)

end Gatehouse.Authz
