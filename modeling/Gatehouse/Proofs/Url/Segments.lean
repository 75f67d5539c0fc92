import Gatehouse.Proofs.Result
import Gatehouse.Proofs.Text.Cutting
import Gatehouse.Url.Parser

/-!
# Paths of segments

How segments are resolved one by one, and what the text of a path is when segments are added
at its end.
-/

namespace Gatehouse

namespace Url

/-- Whether a segment leads nowhere or up. -/
def isDots (segment : String) : Bool :=
  isDoubleDot segment || isSingleDot segment

/-- The place above, the last segment first. -/
def leave (file : Bool) : List String → List String
  | [] => []
  | [first] => if file && isDrive first then [first] else []
  | _ :: above => above

/-- What is left behind a segment that others follow, the last one first. -/
def descend (file : Bool) (done : List String) (segment : String) : List String :=
  if isDoubleDot segment then leave file done
  else if isSingleDot segment then done
  else segment :: done

section Resolve

variable {file : Bool} {done xs ys : List String}

/-- Dots at the end leave an empty segment behind. -/
theorem resolve_cons (x : String) :
    resolve file done (x :: xs) =
      resolve file (if xs.isEmpty && isDots x then "" :: descend file done x
        else descend file done x) xs := by
  conv_lhs => unfold resolve
  by_cases up : isDoubleDot x = true
  · simp only [up, isDots, descend, if_true, Bool.true_or, Bool.and_true]
    rfl
  · by_cases stay : isSingleDot x = true
    · simp only [up, stay, isDots, descend, if_true, Bool.false_eq_true, if_false, Bool.or_true,
        Bool.and_true]
    · simp only [up, stay, isDots, descend, Bool.false_eq_true, if_false, Bool.or_self,
        Bool.and_false]

/-- Segments in front of others are resolved first. -/
theorem resolve_append (more : ys ≠ []) :
    resolve file done (xs ++ ys) = resolve file (xs.foldl (descend file) done) ys := by
  induction xs generalizing done with
  | nil => rfl
  | cons x xs ih =>
    have follows : (xs ++ ys).isEmpty = false := by simp [more]
    rw [List.cons_append, List.foldl_cons, ← ih, resolve_cons, follows, Bool.false_and]
    rfl

theorem descend_of_plain {x : String} (plain : isDots x = false) :
    descend file done x = x :: done := by
  obtain ⟨up, stay⟩ := Bool.or_eq_false_iff.mp plain
  simp [descend, up, stay]

theorem resolve_of_plain (plain : ∀ x ∈ xs, isDots x = false) :
    resolve file done xs = done.reverse ++ xs := by
  induction xs generalizing done with
  | nil => exact (List.append_nil _).symm
  | cons x xs ih =>
    have first := plain x List.mem_cons_self
    have later : ∀ y ∈ xs, isDots y = false :=
      fun y member => plain y (List.mem_cons_of_mem _ member)
    rw [resolve_cons, first, Bool.and_false, if_neg (by simp), descend_of_plain first, ih later,
      List.reverse_cons, List.append_assoc]
    rfl

/-- Plain segments stay as they are behind whatever the segments in front of them lead to. -/
theorem resolve_append_plain (more : ys ≠ []) (plain : ∀ y ∈ ys, isDots y = false) :
    resolve file done (xs ++ ys) = (xs.foldl (descend file) done).reverse ++ ys := by
  rw [resolve_append more, resolve_of_plain plain]

/-- The last segment is kept, unless it is of dots. -/
theorem resolve_concat (x : String) :
    resolve file done (xs ++ [x]) =
      if isDots x then (descend file (xs.foldl (descend file) done) x).reverse ++ [""]
      else (xs.foldl (descend file) done).reverse ++ [x] := by
  rw [resolve_append (by simp), resolve_cons]
  cases dots : isDots x with
  | true => exact List.reverse_cons
  | false =>
    rw [descend_of_plain dots]
    exact List.reverse_cons

/-- A slash at the end of a path adds an empty segment, unless the path ends in dots. -/
theorem resolve_append_empty (some : xs ≠ []) :
    resolve file done (xs ++ [""]) = resolve file done xs ∨
      resolve file done (xs ++ [""]) = resolve file done xs ++ [""] := by
  obtain ⟨front, last, rfl⟩ : ∃ front last, xs = front ++ [last] :=
    ⟨_, _, (List.dropLast_append_getLast some).symm⟩
  have empty : isDots "" = false := by decide
  rw [resolve_concat, resolve_concat, if_neg (by simp [empty]), List.foldl_append,
    List.foldl_cons, List.foldl_nil]
  cases dots : isDots last with
  | true => exact .inl rfl
  | false =>
    rw [descend_of_plain dots, List.reverse_cons]
    exact .inr rfl

theorem leave_cons (first : String) (above : List String) :
    leave false (first :: above) = above := by
  cases above <;> rfl

theorem leave_suffix (done : List String) : leave false done <:+ done := by
  cases done with
  | nil => exact List.suffix_refl []
  | cons first above =>
    rw [leave_cons]
    exact List.suffix_cons first above

/-- Segments leave some of the ones in front of them in place, and behind those some of their own
    that are not of dots. -/
theorem exists_foldl_descend (done xs : List String) :
    ∃ pushed left, xs.foldl (descend false) done = pushed ++ left ∧ left <:+ done ∧
      ∀ x ∈ pushed, x ∈ xs ∧ isDots x = false := by
  induction xs generalizing done with
  | nil => exact ⟨[], done, rfl, List.suffix_refl done, nofun⟩
  | cons x xs ih =>
    obtain ⟨pushed, left, whole, suffix, plain⟩ := ih (descend false done x)
    have plain : ∀ y ∈ pushed, y ∈ x :: xs ∧ isDots y = false := fun y member =>
      ⟨List.mem_cons_of_mem x (plain y member).1, (plain y member).2⟩
    rw [List.foldl_cons, whole]
    cases dots : isDots x with
    | true =>
      have shorter : descend false done x <:+ done := by
        unfold descend
        split
        · exact leave_suffix done
        · rename_i other
          have stays : isSingleDot x = true := by simpa [isDots, other] using dots
          rw [stays]
          exact List.suffix_refl done
      exact ⟨pushed, left, rfl, suffix.trans shorter, plain⟩
    | false =>
      rw [descend_of_plain dots] at suffix
      rcases List.suffix_cons_iff.mp suffix with rfl | suffix
      · refine ⟨pushed ++ [x], done, by simp, List.suffix_refl done, ?_⟩
        intro y member
        rcases List.mem_append.mp member with inside | last
        · exact plain y inside
        · rw [List.mem_singleton.mp last]
          exact ⟨List.mem_cons_self, dots⟩
      · exact ⟨pushed, left, rfl, suffix, plain⟩

end Resolve

theorem Path.text_segments_cons (x : String) (xs : List String) :
    (Path.segments (x :: xs)).text = "/" ++ x ++ (Path.segments xs).text := by
  have later (list : List String) (text : String) :
      list.foldl (fun text segment => text ++ "/" ++ segment) text =
        text ++ list.foldl (fun text segment => text ++ "/" ++ segment) "" := by
    induction list generalizing text with
    | nil => simp
    | cons y list ih =>
      rw [List.foldl_cons, List.foldl_cons, ih, ih ("" ++ "/" ++ y)]
      simp only [String.append_assoc, String.empty_append]
  rw [Path.text, List.foldl_cons, later, String.empty_append]
  rfl

theorem Path.text_segments_append (xs ys : List String) :
    (Path.segments (xs ++ ys)).text = (Path.segments xs).text ++ (Path.segments ys).text := by
  induction xs with
  | nil => exact (String.empty_append).symm
  | cons x xs ih =>
    rw [List.cons_append, Path.text_segments_cons, ih, Path.text_segments_cons,
      String.append_assoc, String.append_assoc, String.append_assoc]

end Url

end Gatehouse
