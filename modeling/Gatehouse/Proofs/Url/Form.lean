import Gatehouse.Proofs.Text.Cutting
import Gatehouse.Proofs.Text.Percent
import Gatehouse.Url.Query

/-!
# Forms read back

The pairs of a form come back from its text, whatever characters they are made of.
-/

namespace Gatehouse.Url

/-- The character that a plus sign of a form stands for. -/
def unplus (c : Char) : Char :=
  if c = '+' then ' ' else c

theorem mem_encodeForm {s : String} {c : Char} (member : c ∈ encodeForm s) :
    c = '+' ∨ c = '%' ∨ isFormChar c = true := by
  rw [encodeForm, List.mem_flatMap] at member
  obtain ⟨d, -, member⟩ := member
  split at member
  · exact .inl (List.mem_singleton.mp member)
  · split at member
    · rename_i plain
      exact .inr (.inr (List.mem_singleton.mp member ▸ plain))
    · rcases Percent.mem_escapeChar member with rfl | letter
      · exact .inr (.inl rfl)
      · exact .inr (.inr (by rw [isFormChar, letter]; rfl))

/-- With its plus signs replaced, a written name or value is percent-encoded. -/
theorem map_unplus_encodeForm (s : String) :
    (encodeForm s).map unplus = Percent.encode (fun c => c == ' ' || isFormChar c) s.toList := by
  rw [encodeForm, Percent.encode, List.map_flatMap]
  congr 1
  funext c
  by_cases space : c = ' '
  · subst c
    rfl
  · by_cases plain : isFormChar c = true
    · have stays : c ≠ '+' := by
        rintro rfl
        exact absurd plain (by decide)
      simp [space, plain, unplus, stays]
    · rw [if_neg space, if_neg plain, if_neg (by simp [space, plain])]
      refine List.map_congr_left (fun d member => ?_) |>.trans (List.map_id _)
      have stays : d ≠ '+' := by
        rcases Percent.mem_escapeChar member with rfl | letter
        · decide
        · exact Ascii.ne_of_isAlphanumeric letter (by decide)
      exact if_neg stays

theorem decodeForm_encodeForm (s : String) : decodeForm (encodeForm s) = s := by
  have read := congrArg Percent.decode (map_unplus_encodeForm s)
  rw [Percent.decode_encode (by decide)] at read
  rw [decodeForm]
  change String.ofList (Utf8.decodeLossy (Percent.decode ((encodeForm s).map unplus))) = s
  rw [read, Utf8.decodeLossy_encode, String.ofList_toList]

/-- A pair as it is written in a form. -/
def pairText (pair : String × String) : String :=
  .ofList (encodeForm pair.1 ++ '=' :: encodeForm pair.2)

theorem ne_of_mem_encodeForm {s : String} {c : Char} (member : c ∈ encodeForm s) :
    c ≠ '=' ∧ c ≠ '&' := by
  rcases mem_encodeForm member with rfl | rfl | plain
  · decide
  · decide
  · constructor <;> rintro rfl <;> exact absurd plain (by decide)

theorem formPair_pairText (pair : String × String) : formPair (pairText pair).toList = pair := by
  have cut : Text.cutAt? (· == '=') (pairText pair).toList =
      some (encodeForm pair.1, encodeForm pair.2) := by
    rw [pairText, String.toList_ofList]
    exact Text.cutAt?_append_cons _
      (fun c member => by simpa using (ne_of_mem_encodeForm member).1) rfl
  rw [formPair, cut]
  simp only [decodeForm_encodeForm]

theorem ne_of_mem_pairText {pair : String × String} {c : Char}
    (member : c ∈ (pairText pair).toList) : c ≠ '&' := by
  rw [pairText, String.toList_ofList, List.mem_append, List.mem_cons] at member
  rcases member with name | rfl | value
  · exact (ne_of_mem_encodeForm name).2
  · decide
  · exact (ne_of_mem_encodeForm value).2

theorem formText_eq (pairs : List (String × String)) :
    formText pairs = Text.joinWith "&" (pairs.map pairText) := rfl

/-- The pairs of a form come back from its text. -/
theorem formPairs_formText (pairs : List (String × String)) :
    formPairs (formText pairs) = pairs := by
  cases pairs with
  | nil => rfl
  | cons pair pairs =>
    have plain : ∀ s ∈ pairText pair :: pairs.map pairText, ∀ c ∈ s.toList, (c == '&') = false := by
      intro s member c inside
      rw [← List.map_cons, List.mem_map] at member
      obtain ⟨other, -, rfl⟩ := member
      exact beq_eq_false_iff_ne.mpr (ne_of_mem_pairText inside)
    have pieces := Text.splitBy_joinWith (p := (· == '&')) (d := '&') [] rfl (by simp)
      _ _ plain
    have filled : ∀ piece ∈ (pair :: pairs).map (fun pair => (pairText pair).toList),
        (!piece.isEmpty) = true := by
      intro piece member
      obtain ⟨other, -, rfl⟩ := List.mem_map.mp member
      simp [pairText]
    have whole : Text.splitBy (· == '&') (formText (pair :: pairs)).toList =
        (pair :: pairs).map fun pair => (pairText pair).toList := by
      rw [formText_eq, show "&" = String.ofList ['&'] from rfl, List.map_cons, pieces,
        List.map_map, List.map_cons]
      simp only [Function.comp_def, List.nil_append]
    have back : (formPair ∘ fun pair => (pairText pair).toList) = id := by
      funext pair
      rw [Function.comp_apply, formPair_pairText, id]
    rw [formPairs, whole, List.filter_eq_self.mpr filled, List.map_map, back, List.map_id]

end Gatehouse.Url
