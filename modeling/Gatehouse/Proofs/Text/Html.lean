import Gatehouse.Text.Html
import Mathlib.Data.Bool.AllAny

/-!
# References in HTML

A text whose characters of meaning are written as references has none of them left, except
for those that begin a reference, and comes back when the references are read.
-/

namespace Gatehouse.Html

/-- A table of references: every ampersand has one, and each reference is an ampersand, letters
    without a meaning of their own, and what is read as its character. -/
structure IsTable (reference? : Char → Option String) : Prop where
  ampersand : reference? '&' ≠ none
  shape : ∀ {c reference}, reference? c = some reference →
    ∃ letters, reference.toList = '&' :: letters ∧
      ∀ d ∈ letters, d ≠ '&' ∧ d ≠ '<' ∧ d ≠ '>' ∧ d ≠ '"'
  read : ∀ {c reference}, reference? c = some reference →
    ∀ rest, unescape (reference.toList ++ rest) = c :: unescape rest

theorem isTable_text : IsTable textReference? where
  ampersand := by decide
  shape := by
    intro c reference found
    unfold textReference? at found
    split at found
    · cases found
      exact ⟨_, rfl, List.all_iff_forall_prop.mp (by decide)⟩
    · cases found
      exact ⟨_, rfl, List.all_iff_forall_prop.mp (by decide)⟩
    · cases found
      exact ⟨_, rfl, List.all_iff_forall_prop.mp (by decide)⟩
    · cases found
  read := by
    intro c reference found rest
    unfold textReference? at found
    split at found
    · cases found
      rfl
    · cases found
      rfl
    · cases found
      rfl
    · cases found

/-- The quote has a reference in an attribute, and every other character the one in a text. -/
theorem attributeReference?_cases {c : Char} {reference : String}
    (found : attributeReference? c = some reference) :
    c = '"' ∧ reference = "&quot;" ∨ textReference? c = some reference := by
  unfold attributeReference? at found
  split at found
  · cases found
    exact .inl ⟨rfl, rfl⟩
  · exact .inr found

theorem isTable_attribute : IsTable attributeReference? where
  ampersand := by decide
  shape := by
    intro c reference found
    rcases attributeReference?_cases found with ⟨-, rfl⟩ | text
    · exact ⟨_, rfl, List.all_iff_forall_prop.mp (by decide)⟩
    · exact isTable_text.shape text
  read := by
    intro c reference found rest
    rcases attributeReference?_cases found with ⟨rfl, rfl⟩ | text
    · rfl
    · exact isTable_text.read text rest

theorem unescape_cons {c : Char} (other : c ≠ '&') (rest : List Char) :
    unescape (c :: rest) = c :: unescape rest := by
  rw [unescape]
  all_goals
    intro _ same
    exact absurd same other

/-- Every ampersand of a text begins a reference of a table. -/
def AmpersandsBegin (reference? : Char → Option String) (cs : List Char) : Prop :=
  ∀ back, '&' :: back <:+ cs →
    ∃ c reference, reference? c = some reference ∧ reference.toList <+: '&' :: back

/-- What begins with a character does not begin in front of where it can stand. -/
theorem suffix_of_suffix_append {d : Char} {front back rest : List Char}
    (other : ∀ c ∈ front, c ≠ d) (ends : d :: back <:+ front ++ rest) : d :: back <:+ rest := by
  induction front with
  | nil => exact ends
  | cons c front ih =>
    rw [List.cons_append, List.suffix_cons_iff] at ends
    rcases ends with whole | ends
    · exact absurd (List.cons.inj whole).1.symm (other c List.mem_cons_self)
    · exact ih (fun e member => other e (List.mem_cons_of_mem _ member)) ends

section Escape

variable {reference? : Char → Option String} (table : IsTable reference?)
include table

/-- A text comes back when its references are read. -/
theorem unescape_escape (cs : List Char) : unescape (escape reference? cs) = cs := by
  induction cs with
  | nil => rfl
  | cons c cs ih =>
    rw [escape, List.flatMap_cons, ← escape]
    split
    · rename_i reference found
      rw [table.read found, ih]
    · rename_i plain
      have other : c ≠ '&' := by
        rintro rfl
        exact table.ampersand plain
      rw [List.singleton_append, unescape_cons other, ih]

/-- A character of meaning that has a reference is written as it, and stands nowhere else. -/
theorem not_mem_escape {d : Char} (meant : d ∈ ['<', '>', '"']) (covered : reference? d ≠ none)
    (cs : List Char) : d ∉ escape reference? cs := by
  intro member
  obtain ⟨c, -, inside⟩ := List.mem_flatMap.mp member
  split at inside
  · rename_i reference found
    obtain ⟨letters, spelled, plain⟩ := table.shape found
    rw [spelled, List.mem_cons] at inside
    rcases inside with rfl | inside
    · exact absurd meant (by decide)
    · obtain ⟨-, less, greater, quote⟩ := plain d inside
      simp [less, greater, quote] at meant
  · rename_i plain
    rw [List.mem_singleton.mp inside] at covered
    exact covered plain

theorem ampersandsBegin_escape (cs : List Char) :
    AmpersandsBegin reference? (escape reference? cs) := by
  induction cs with
  | nil =>
    intro back ends
    exact absurd (List.suffix_nil.mp ends) (List.cons_ne_nil _ _)
  | cons c cs ih =>
    intro back ends
    rw [escape, List.flatMap_cons, ← escape] at ends
    -- The ampersand begins what is written for the first character, or it stands behind it.
    split at ends
    · rename_i reference found
      obtain ⟨letters, spelled, plain⟩ := table.shape found
      rw [spelled, List.cons_append, List.suffix_cons_iff] at ends
      rcases ends with whole | ends
      · refine ⟨c, reference, found, ?_⟩
        rw [whole, spelled, ← List.cons_append]
        exact List.prefix_append _ _
      · exact ih back (suffix_of_suffix_append (fun d member => (plain d member).1) ends)
    · rename_i plain
      rw [List.singleton_append, List.suffix_cons_iff] at ends
      rcases ends with whole | ends
      · rw [← (List.cons.inj whole).1] at plain
        exact absurd plain table.ampersand
      · exact ih back ends

end Escape

/-- A text that looks like a reference is not taken for one. -/
example : escapeAttribute "\"&lt;" = "&quot;&amp;lt;" := by
  decide +kernel

end Gatehouse.Html
