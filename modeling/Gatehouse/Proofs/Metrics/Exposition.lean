import Gatehouse.Metrics.Registry
import Gatehouse.Proofs.Text.Ascii
import Gatehouse.Proofs.Text.Cutting
import Mathlib.Data.Bool.AllAny

/-!
# What a scrape shows

The text of a scrape as its reader takes it: lines, of which those that begin with the
name of a counter show its count.
-/

namespace Gatehouse.Metrics

/-- The count that a line shows of a counter. -/
def shownIn? (name : String) (line : List Char) : Option Nat := do
  let (shown, count) ← Text.cutAt? (· == ' ') line
  if shown = name.toList then Ascii.natural? count else none

/-- The count that a text shows of a counter. -/
def shown? (name text : String) : Option Nat :=
  (Text.splitBy (· == '\n') text.toList).findSome? (shownIn? name)

theorem shownIn?_append {name : String} (one : ∀ c ∈ name.toList, (c == ' ') = false)
    (count : Nat) :
    shownIn? name (name.toList ++ ' ' :: (toString count).toList) = some count := by
  rw [shownIn?, Text.cutAt?_append_cons _ one rfl, Option.bind_eq_bind, Option.bind_some]
  dsimp only
  rw [if_pos rfl, Ascii.natural?_toString]

/-- A scrape shows the exported count. -/
theorem shown?_render (counter : Counter) :
    shown? requestCount (render counter) = some counter.exported := by
  have sample : ∀ c ∈ requestCount.toList ++ ' ' :: (toString counter.exported).toList,
      (c == '\n') = false := by
    have name : ∀ c ∈ requestCount.toList ++ [' '], (c == '\n') = false :=
      List.all_iff_forall_prop.mp (by decide)
    intro c member
    rw [List.append_cons, List.mem_append] at member
    rcases member with letter | digit
    · exact name c letter
    · rw [beq_eq_false_iff_ne]
      rintro rfl
      cases Ascii.isDigit_of_mem_toString _ _ digit
  have text : (render counter).toList =
      "# HELP request_count No of request handled".toList ++ '\n' ::
        ("# TYPE request_count counter".toList ++ '\n' ::
          (requestCount.toList ++ ' ' :: (toString counter.exported).toList)) := by
    simp only [render, String.toList_append]
    rfl
  rw [shown?, text, Text.splitBy_append_cons _ (List.all_iff_forall_prop.mp (by decide)) rfl,
    Text.splitBy_append_cons _ (List.all_iff_forall_prop.mp (by decide)) rfl,
    Text.splitBy_of_all sample]
  -- The first two lines are comments.
  rw [List.findSome?_cons, List.findSome?_cons, List.findSome?_cons,
    shownIn?_append (List.all_iff_forall_prop.mp (by decide))]
  rfl

end Gatehouse.Metrics
