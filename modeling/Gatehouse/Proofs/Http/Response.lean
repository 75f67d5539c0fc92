import Gatehouse.Http.Response
import Gatehouse.Proofs.Text.Ascii
import Gatehouse.Proofs.Text.Cutting

/-!
# What responses do

Texts put together from field values are field values, and so is every text that shows.
What becomes of the status, the cookies and the location of a response on its way out.
-/

namespace Gatehouse.Http

theorem isFieldValue_iff {s : String} :
    isFieldValue s = true ↔ ∀ c ∈ s.toList, c = '\t' ∨ Ascii.isControl c = false := by
  simp [isFieldValue]

@[simp] theorem isFieldValue_append (s t : String) :
    isFieldValue (s ++ t) = (isFieldValue s && isFieldValue t) := by
  simp [isFieldValue]

theorem isFieldValue_of_visible {s : String}
    (visible : ∀ c ∈ s.toList, Ascii.isVisible c = true) : isFieldValue s = true :=
  isFieldValue_iff.mpr fun c member => .inr (Ascii.isControl_of_isVisible (visible c member))

theorem isFieldValue_joinWith {separator : String} (separates : isFieldValue separator = true)
    {ss : List String} (fields : ∀ s ∈ ss, isFieldValue s = true) :
    isFieldValue (Text.joinWith separator ss) = true :=
  isFieldValue_iff.mpr (Text.forall_mem_joinWith (isFieldValue_iff.mp separates)
    fun s member => isFieldValue_iff.mp (fields s member))

namespace Response

@[simp] theorem status_forMethod (response : Response) (method : String) :
    (response.forMethod method).status = response.status := by
  unfold forMethod
  split <;> rfl

@[simp] theorem setCookie_forMethod (response : Response) (method : String) :
    (response.forMethod method).setCookie = response.setCookie := by
  unfold forMethod
  split <;> rfl

theorem forMethod_get (response : Response) : response.forMethod "GET" = response := by
  rw [forMethod, if_neg]
  rintro (head | ⟨connect, -⟩)
  · exact absurd head (by decide)
  · exact absurd connect (by decide)

@[simp] theorem status_setting (response : Response) (headers : List String) :
    (response.setting headers).status = response.status := rfl

@[simp] theorem location_setting (response : Response) (headers : List String) :
    (response.setting headers).location = response.location := rfl

@[simp] theorem setCookie_setting (response : Response) (headers : List String) :
    (response.setting headers).setCookie = headers := rfl

/-- A response that neither sets a cookie nor sends the browser elsewhere. -/
structure IsQuiet (response : Response) : Prop where
  setCookie : response.setCookie = []
  status : response.status ≠ 307

theorem IsQuiet.forMethod {response : Response} (quiet : response.IsQuiet) (method : String) :
    (response.forMethod method).IsQuiet where
  setCookie := by rw [setCookie_forMethod, quiet.setCookie]
  status := by
    rw [status_forMethod]
    exact quiet.status

theorem isQuiet_text {status : Nat} (other : status ≠ 307) (body : String) :
    (text status body).IsQuiet :=
  ⟨rfl, other⟩

theorem status_redirect_eq (location : String) :
    (redirect location).status = if isFieldValue location then 307 else 500 := by
  unfold redirect
  split <;> rfl

theorem status_redirect {location : String} (field : isFieldValue location = true) :
    (redirect location).status = 307 := by
  rw [status_redirect_eq, if_pos field]

theorem location_redirect {location : String} (field : isFieldValue location = true) :
    (redirect location).location = some location := by
  rw [redirect, if_pos field]

end Response

end Gatehouse.Http
