import Gatehouse.Proofs.Text.Cutting

/-!
# Words of a text

The words of a text are not empty and have no white space, so that they are found again
between single spaces.
-/

namespace Gatehouse.Text

/-- A text that is found again between two separators: it is not empty and has none. -/
structure IsWord (s : String) : Prop where
  filled : s.toList ≠ []
  closed : ∀ c ∈ s.toList, isBlank c = false

theorem isWord_of_mem_words {s word : String} (member : word ∈ words s) : IsWord word := by
  obtain ⟨piece, inside, rfl⟩ := List.mem_map.mp member
  obtain ⟨cut, filled⟩ := List.mem_filter.mp inside
  rw [← String.toList_ofList (l := piece)] at cut filled
  refine ⟨by simpa using filled, fun c member => ?_⟩
  exact eq_false_of_mem_splitBy cut member

/-- Pieces between separators that have white space for their only kind are told apart by it. -/
theorem splitBy_joinWith_space {p : Char → Bool} (separates : p ' ' = true) {ws : List String}
    (filled : ws ≠ []) (closed : ∀ w ∈ ws, ∀ c ∈ w.toList, p c = false) :
    splitBy p (joinWith " " ws).toList = ws.map String.toList := by
  cases ws with
  | nil => exact absurd rfl filled
  | cons w rest =>
    have pieces := splitBy_joinWith [] separates (by simp) w rest closed
    simpa using pieces

/-- Words with a space between each two are the words of that text. -/
theorem words_joinWith {ws : List String} (wordy : ∀ w ∈ ws, IsWord w) :
    words (joinWith " " ws) = ws := by
  by_cases empty : ws = []
  · rw [empty]
    rfl
  · have pieces := splitBy_joinWith_space (p := isBlank) (by decide) empty
      fun w member => (wordy w member).closed
    have filled : (ws.map String.toList).filter (!·.isEmpty) = ws.map String.toList := by
      rw [List.filter_eq_self]
      intro piece member
      obtain ⟨w, inside, rfl⟩ := List.mem_map.mp member
      simpa using (wordy w inside).filled
    rw [words, pieces, filled, List.map_map]
    simp [Function.comp_def, String.ofList_toList]

theorem words_joinWith_words (s : String) : words (joinWith " " (words s)) = words s :=
  words_joinWith fun _ member => isWord_of_mem_words member

end Gatehouse.Text
