/-!
# Results

What is known of the steps of a reader when the whole reader has given a result, and when two
readers end alike.
-/

namespace Gatehouse

theorem eq_ok_of_toOption {ε α : Type} {result : Except ε α} {a : α}
    (found : result.toOption = some a) : result = .ok a := by
  cases result with
  | error error => cases found
  | ok other =>
    cases found
    rfl

/-- What a result is made of when a step of a reader has given one. -/
theorem exists_of_bind_eq_ok {ε α β : Type} {x : Except ε α} {f : α → Except ε β} {b : β}
    (result : x >>= f = .ok b) : ∃ a, x = .ok a ∧ f a = .ok b := by
  cases x with
  | error e => cases result
  | ok a => exact ⟨a, rfl, result⟩

theorem exists_of_map_eq_ok {ε α β : Type} {x : Except ε α} {f : α → β} {b : β}
    (result : x.map f = .ok b) : ∃ a, x = .ok a ∧ f a = b := by
  cases x with
  | error e => cases result
  | ok a =>
    cases result
    exact ⟨a, rfl, rfl⟩

/-- Results of which only an image counts go on alike if they do so from values of one image. -/
theorem map_bind_congr {ε α β γ δ : Type} {x x' : Except ε α} {image : α → β}
    {f f' : α → Except ε γ} {seen : γ → δ} (same : x.map image = x'.map image)
    (next : ∀ a a', image a = image a' → (f a).map seen = (f' a').map seen) :
    (x >>= f).map seen = (x' >>= f').map seen := by
  cases x with
  | error error =>
    cases x' with
    | error error' =>
      cases same
      rfl
    | ok a' => cases same
  | ok a =>
    cases x' with
    | error error' => cases same
    | ok a' => exact next a a' (Except.ok.inj same)

/-- Results that are one error, or values that belong together. -/
inductive EndAlike {ε α β : Type} (belong : α → β → Prop) : Except ε α → Except ε β → Prop
  | error (error : ε) : EndAlike belong (.error error) (.error error)
  | ok {a : α} {b : β} (values : belong a b) : EndAlike belong (.ok a) (.ok b)

/-- Results of one image end alike if values of one image belong together. -/
theorem EndAlike.of_map_eq {ε α β : Type} {x x' : Except ε α} {image : α → β}
    {belong : α → α → Prop} (same : x.map image = x'.map image)
    (values : ∀ a a', image a = image a' → belong a a') : EndAlike belong x x' := by
  cases x with
  | error error =>
    cases x' with
    | error error' =>
      cases same
      exact .error error
    | ok a' => cases same
  | ok a =>
    cases x' with
    | error error' => cases same
    | ok a' => exact .ok (values a a' (Except.ok.inj same))

end Gatehouse
