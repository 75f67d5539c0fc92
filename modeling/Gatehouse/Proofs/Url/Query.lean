import Gatehouse.Proofs.Url.Printable

/-!
# Queries of URLs

The query of a URL is found again in its text, and pairs that are added to it come behind
those that it has.
-/

namespace Gatehouse.Url

/-- The query in the text of a URL: what stands behind the first question mark, up to the number
    sign. -/
def queryOf? (s : String) : Option String :=
  (Text.cutAt? (· == '?') (s.toList.takeWhile (· != '#'))).map fun (_, query) => .ofList query

/-- Without its fragment, the text of a URL is what stands in front of the number sign. -/
theorem takeWhile_text {url : Url} (printable : url.IsPrintable) :
    url.text.toList.takeWhile (· != '#') = (url.beforeQuery ++ marked "?" url.query).toList := by
  have closed : ∀ c ∈ (url.beforeQuery ++ marked "?" url.query).toList, (c != '#') = true := by
    intro c member
    rw [String.toList_append, List.mem_append] at member
    rw [bne_iff_ne]
    rcases member with front | query
    · exact (isFrontChar_iff.mp (isFront_iff.mp printable.beforeQuery c front)).2.2
    · cases present : url.query with
      | none =>
        rw [present] at query
        cases query
      | some text =>
        rw [present, marked, String.toList_append, List.mem_append] at query
        rcases query with mark | inside
        · rw [show c = '?' from List.mem_singleton.mp mark]
          decide
        · rintro rfl
          exact (printable.query text present).closed inside
  rw [text_eq_beforeQuery, String.toList_append, List.takeWhile_append_of_pos closed]
  cases url.fragment with
  | none => exact List.append_nil _
  | some text =>
    have mark : (marked "#" (some text)).toList = '#' :: text.toList := by simp [marked]
    rw [mark, List.takeWhile_cons_of_neg (by decide)]
    exact List.append_nil _

/-- The query of a URL that was read is the one in its text. -/
theorem queryOf?_text {url : Url} (printable : url.IsPrintable) :
    queryOf? url.text = url.query := by
  have front : ∀ c ∈ url.beforeQuery.toList, (c == '?') = false := fun c member =>
    beq_eq_false_iff_ne.mpr (isFrontChar_iff.mp (isFront_iff.mp printable.beforeQuery c member)).2.1
  rw [queryOf?, takeWhile_text printable, String.toList_append]
  cases url.query with
  | none =>
    rw [marked, String.toList_empty, List.append_nil, Text.cutAt?_of_all front]
    rfl
  | some text =>
    have mark : (marked "?" (some text)).toList = '?' :: text.toList := by simp [marked]
    rw [mark, Text.cutAt?_append_cons text.toList front rfl]
    simp

theorem formPairs_append (front back : String) :
    formPairs (front ++ "&" ++ back) = formPairs front ++ formPairs back := by
  have letters : (front ++ "&" ++ back).toList = front.toList ++ '&' :: back.toList := by simp
  rw [formPairs, letters, Text.splitBy_append_separator _ _ rfl, List.filter_append,
    List.map_append]
  rfl

/-- Pairs that are added to a URL come behind those that its query has. -/
theorem formPairs_addPairs (url : Url) (pairs : List (String × String)) :
    ∃ query, (url.addPairs pairs).query = some query ∧
      formPairs query = formPairs (url.query.getD "") ++ pairs := by
  refine ⟨_, rfl, ?_⟩
  split
  · rename_i empty
    rw [String.isEmpty_iff.mp empty, formPairs_formText]
    rfl
  · rw [formPairs_append, formPairs_formText]

/-- A query is not ended by a second question mark, but by a fragment that has one. -/
example : queryOf? "https://a.b/c?d=?e#f?g" = some "d=?e" ∧
    queryOf? "https://a.b/c#d?e" = none := by
  decide +kernel

end Gatehouse.Url
