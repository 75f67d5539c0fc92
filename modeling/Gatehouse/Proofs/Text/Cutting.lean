import Gatehouse.Text.Blank
import Mathlib.Data.List.DropRight

/-!
# Cutting text

Texts that were put together with a separator come apart at it again, and trimming
leaves a text alone that has no white space at its ends.
-/

namespace Gatehouse.Text

variable {p : Char → Bool}

/-- Characters that do not separate go to the front of the first piece. -/
theorem splitBy_append {cs ds first : List Char} {more : List (List Char)}
    (plain : ∀ c ∈ cs, p c = false) (pieces : splitBy p ds = first :: more) :
    splitBy p (cs ++ ds) = (cs ++ first) :: more := by
  induction cs with
  | nil => exact pieces
  | cons c cs ih =>
    rw [List.cons_append, splitBy, plain c List.mem_cons_self,
      ih fun d member => plain d (List.mem_cons_of_mem _ member)]
    rfl

theorem splitBy_of_all {cs : List Char} (plain : ∀ c ∈ cs, p c = false) :
    splitBy p cs = [cs] := by
  simpa using splitBy_append plain (show splitBy p [] = [] :: [] from rfl)

theorem splitBy_ne_nil (p : Char → Bool) (cs : List Char) : splitBy p cs ≠ [] := by
  cases cs with
  | nil => simp [splitBy]
  | cons c cs =>
    rw [splitBy]
    split
    · simp
    · cases splitBy p cs <;> simp [consFirst]

/-- At a separator a text comes apart, whatever stands around it. -/
theorem splitBy_append_separator (cs ds : List Char) {d : Char} (separates : p d = true) :
    splitBy p (cs ++ d :: ds) = splitBy p cs ++ splitBy p ds := by
  induction cs with
  | nil => simp [splitBy, separates]
  | cons c cs ih =>
    rw [List.cons_append, splitBy, splitBy]
    by_cases cut : p c = true
    · simp [cut, ih]
    · have ⟨first, more, pieces⟩ := List.exists_cons_of_ne_nil (splitBy_ne_nil p cs)
      simp [cut, ih, pieces, consFirst]

/-- Characters that do not separate go to the end of the last piece. -/
theorem exists_splitBy_append (cs : List Char) {ds : List Char} (plain : ∀ c ∈ ds, p c = false) :
    ∃ front last, splitBy p cs = front ++ [last] ∧ splitBy p (cs ++ ds) = front ++ [last ++ ds] := by
  induction cs with
  | nil => exact ⟨[], [], rfl, splitBy_of_all plain⟩
  | cons c cs ih =>
    obtain ⟨front, last, alone, longer⟩ := ih
    rw [List.cons_append, splitBy, splitBy, alone, longer]
    split
    · exact ⟨[] :: front, last, rfl, rfl⟩
    · cases front with
      | nil => exact ⟨[], c :: last, rfl, rfl⟩
      | cons first front => exact ⟨(c :: first) :: front, last, rfl, rfl⟩

theorem splitBy_append_cons {cs : List Char} {d : Char} (rest : List Char)
    (plain : ∀ c ∈ cs, p c = false) (separates : p d = true) :
    splitBy p (cs ++ d :: rest) = cs :: splitBy p rest := by
  rw [splitBy_append_separator cs rest separates, splitBy_of_all plain]
  rfl

/-- Joined pieces come apart again.  What the separator has behind its first character stays in
    front of the next piece. -/
theorem splitBy_joinWith {d : Char} (gap : List Char) (separates : p d = true)
    (plainGap : ∀ c ∈ gap, p c = false) (s : String) (rest : List String)
    (plain : ∀ t ∈ s :: rest, ∀ c ∈ t.toList, p c = false) :
    splitBy p (joinWith (.ofList (d :: gap)) (s :: rest)).toList =
      s.toList :: rest.map fun t => gap ++ t.toList := by
  induction rest generalizing s with
  | nil => exact splitBy_of_all (plain s List.mem_cons_self)
  | cons t rest ih =>
    have tail := ih t fun u member => plain u (List.mem_cons_of_mem _ member)
    simp only [joinWith, String.toList_append, String.toList_ofList, List.append_assoc,
      List.cons_append]
    rw [splitBy_append_cons _ (plain s List.mem_cons_self) separates,
      splitBy_append plainGap tail, List.map_cons]

/-- There is one more piece than there are separators. -/
theorem length_splitBy (p : Char → Bool) (cs : List Char) :
    (splitBy p cs).length = cs.countP p + 1 := by
  induction cs with
  | nil => rfl
  | cons c cs ih =>
    rw [splitBy]
    by_cases separates : p c = true
    · rw [if_pos separates, List.length_cons, ih, List.countP_cons_of_pos separates]
    · obtain ⟨first, more, pieces⟩ := List.exists_cons_of_ne_nil (splitBy_ne_nil p cs)
      rw [if_neg separates, List.countP_cons_of_neg separates, ← ih, pieces]
      rfl

theorem countP_joinWith (p : Char → Bool) (separator s : String) (rest : List String) :
    (joinWith separator (s :: rest)).toList.countP p =
      s.toList.countP p + rest.length * separator.toList.countP p +
        (rest.flatMap String.toList).countP p := by
  induction rest generalizing s with
  | nil => simp [joinWith]
  | cons t rest ih =>
    rw [joinWith, String.toList_append, String.toList_append, List.countP_append,
      List.countP_append, ih t, List.flatMap_cons, List.countP_append, List.length_cons,
      Nat.succ_mul]
    omega

/-- The pieces between the occurrences of a character, joined with it, are the text. -/
theorem toList_joinWith_splitBy (d : Char) (cs : List Char) :
    (joinWith (.ofList [d]) ((splitBy (· == d) cs).map .ofList)).toList = cs := by
  induction cs with
  | nil => rfl
  | cons c cs ih =>
    obtain ⟨first, more, pieces⟩ := List.exists_cons_of_ne_nil (splitBy_ne_nil (· == d) cs)
    rw [pieces] at ih
    rw [splitBy, pieces]
    by_cases separates : c = d
    · simp [separates, joinWith, ← ih]
    · cases more <;> simp_all [consFirst, joinWith]

/-- A character of a piece is one of the text. -/
theorem mem_of_mem_splitBy {cs piece : List Char} (member : piece ∈ splitBy p cs) {c : Char}
    (inside : c ∈ piece) : c ∈ cs := by
  induction cs generalizing piece with
  | nil =>
    rw [splitBy, List.mem_singleton] at member
    rw [member] at inside
    cases inside
  | cons d cs ih =>
    rw [splitBy] at member
    split at member
    · rcases List.mem_cons.mp member with rfl | member
      · cases inside
      · exact List.mem_cons_of_mem _ (ih member inside)
    · obtain ⟨first, more, pieces⟩ := List.exists_cons_of_ne_nil (splitBy_ne_nil p cs)
      rw [pieces, consFirst, List.mem_cons] at member
      rcases member with rfl | member
      · rcases List.mem_cons.mp inside with rfl | inside
        · exact List.mem_cons_self
        · exact List.mem_cons_of_mem _ (ih (pieces ▸ List.mem_cons_self) inside)
      · exact List.mem_cons_of_mem _ (ih (pieces ▸ List.mem_cons_of_mem _ member) inside)

/-- A character of a piece does not separate. -/
theorem eq_false_of_mem_splitBy {cs piece : List Char} (member : piece ∈ splitBy p cs) {c : Char}
    (inside : c ∈ piece) : p c = false := by
  induction cs generalizing piece with
  | nil =>
    rw [splitBy, List.mem_singleton] at member
    rw [member] at inside
    cases inside
  | cons d cs ih =>
    rw [splitBy] at member
    split at member
    · rcases List.mem_cons.mp member with rfl | member
      · cases inside
      · exact ih member inside
    · rename_i plain
      obtain ⟨first, more, pieces⟩ := List.exists_cons_of_ne_nil (splitBy_ne_nil p cs)
      rw [pieces] at member ih
      rw [consFirst, List.mem_cons] at member
      rcases member with rfl | member
      · rcases List.mem_cons.mp inside with rfl | inside
        · simpa using plain
        · exact ih List.mem_cons_self inside
      · exact ih (List.mem_cons_of_mem _ member) inside

/-- A character of joined pieces stands in a piece or between two. -/
theorem mem_joinWith {separator : String} {ss : List String} {c : Char}
    (member : c ∈ (joinWith separator ss).toList) :
    c ∈ separator.toList ∨ ∃ s ∈ ss, c ∈ s.toList := by
  induction ss using joinWith.induct with
  | case1 => cases member
  | case2 s => exact .inr ⟨s, List.mem_cons_self, member⟩
  | case3 s t rest ih =>
    rw [joinWith, String.toList_append, String.toList_append, List.mem_append,
      List.mem_append] at member
    rcases member with (first | between) | member
    · exact .inr ⟨s, List.mem_cons_self, first⟩
    · exact .inl between
    · rcases ih member with between | ⟨u, inside, member⟩
      · exact .inl between
      · exact .inr ⟨u, List.mem_cons_of_mem _ inside, member⟩

theorem forall_mem_joinWith {P : Char → Prop} {separator : String} {ss : List String}
    (between : ∀ c ∈ separator.toList, P c) (inside : ∀ s ∈ ss, ∀ c ∈ s.toList, P c) :
    ∀ c ∈ (joinWith separator ss).toList, P c := by
  intro c member
  rcases mem_joinWith member with stands | ⟨s, piece, member⟩
  · exact between c stands
  · exact inside s piece c member

theorem cutAt?_append_cons {cs : List Char} {d : Char} (rest : List Char)
    (plain : ∀ c ∈ cs, p c = false) (separates : p d = true) :
    cutAt? p (cs ++ d :: rest) = some (cs, rest) := by
  induction cs with
  | nil => rw [List.nil_append, cutAt?, if_pos separates]
  | cons c cs ih =>
    rw [List.cons_append, cutAt?, plain c List.mem_cons_self,
      ih fun d member => plain d (List.mem_cons_of_mem _ member)]
    rfl

theorem cutAt?_of_all {cs : List Char} (plain : ∀ c ∈ cs, p c = false) : cutAt? p cs = none := by
  induction cs with
  | nil => rfl
  | cons c cs ih =>
    rw [cutAt?, plain c List.mem_cons_self,
      ih fun d member => plain d (List.mem_cons_of_mem _ member)]
    rfl

theorem cutAt?_eq_some_iff {cs front back : List Char} :
    cutAt? p cs = some (front, back) ↔
      ∃ d, cs = front ++ d :: back ∧ p d = true ∧ ∀ c ∈ front, p c = false := by
  constructor
  · intro cut
    induction cs generalizing front with
    | nil => cases cut
    | cons c cs ih =>
      rw [cutAt?] at cut
      split at cut
      · rename_i separates
        cases cut
        exact ⟨c, rfl, separates, by simp⟩
      · rename_i plain
        obtain ⟨⟨first, last⟩, cut, same⟩ := Option.map_eq_some_iff.mp cut
        cases same
        obtain ⟨d, rfl, separates, before⟩ := ih cut
        refine ⟨d, rfl, separates, ?_⟩
        intro e member
        rcases List.mem_cons.mp member with rfl | member
        · simpa using plain
        · exact before e member
  · rintro ⟨d, rfl, separates, plain⟩
    exact cutAt?_append_cons back plain separates

/-- The first character that stays keeps everything in front of it. -/
theorem dropWhileEnd_cons {c : Char} (cs : List Char) (stays : p c = false) :
    dropWhileEnd p (c :: cs) = c :: dropWhileEnd p cs := by
  unfold dropWhileEnd
  rw [List.reverse_cons, List.dropWhile_append]
  cases left : cs.reverse.dropWhile p with
  | nil => simp [stays]
  | cons d ds => simp

theorem trimBy_cons {c : Char} (cs : List Char) (stays : p c = false) :
    trimBy p (c :: cs) = c :: dropWhileEnd p cs := by
  rw [trimBy, List.dropWhile_cons_of_neg (by simp [stays]), dropWhileEnd_cons cs stays]

theorem trimBy_cons_of_pos {c : Char} (cs : List Char) (goes : p c = true) :
    trimBy p (c :: cs) = trimBy p cs := by
  rw [trimBy, trimBy, List.dropWhile_cons_of_pos goes]

theorem dropWhileEnd_of_all {cs : List Char} (stays : ∀ c ∈ cs, p c = false) :
    dropWhileEnd p cs = cs := by
  induction cs with
  | nil => rfl
  | cons c cs ih =>
    rw [dropWhileEnd_cons cs (stays c List.mem_cons_self),
      ih fun d member => stays d (List.mem_cons_of_mem _ member)]

theorem trimBy_of_all {cs : List Char} (stays : ∀ c ∈ cs, p c = false) : trimBy p cs = cs := by
  cases cs with
  | nil => rfl
  | cons c cs =>
    rw [trimBy_cons cs (stays c List.mem_cons_self),
      dropWhileEnd_of_all fun d member => stays d (List.mem_cons_of_mem _ member)]

/-- Characters behind one that stays do not change what is dropped in front of it. -/
theorem dropWhile_append_cons {d : Char} (cs rest : List Char) (stays : p d = false) :
    (cs ++ d :: rest).dropWhile p = cs.dropWhile p ++ d :: rest := by
  induction cs with
  | nil => rw [List.nil_append, List.dropWhile_cons_of_neg (by simp [stays])]; rfl
  | cons c cs ih =>
    by_cases goes : p c = true
    · rw [List.cons_append, List.dropWhile_cons_of_pos goes, List.dropWhile_cons_of_pos goes, ih]
    · rw [List.cons_append, List.dropWhile_cons_of_neg goes, List.dropWhile_cons_of_neg goes]
      rfl

theorem takeWhile_append_cons {d : Char} (cs rest : List Char) (stops : p d = false) :
    (cs ++ d :: rest).takeWhile p = cs.takeWhile p := by
  induction cs with
  | nil => rw [List.nil_append, List.takeWhile_cons_of_neg (by simp [stops])]; rfl
  | cons c cs ih =>
    by_cases goes : p c = true
    · rw [List.cons_append, List.takeWhile_cons_of_pos goes, List.takeWhile_cons_of_pos goes, ih]
    · rw [List.cons_append, List.takeWhile_cons_of_neg goes, List.takeWhile_cons_of_neg goes]

theorem dropWhileEnd_append_cons {d : Char} (cs rest : List Char) (stays : p d = false) :
    dropWhileEnd p (cs ++ d :: rest) = cs ++ d :: dropWhileEnd p rest := by
  have reversed : (cs ++ d :: rest).reverse = rest.reverse ++ d :: cs.reverse := by simp
  rw [dropWhileEnd, reversed, dropWhile_append_cons _ _ stays]
  simp [dropWhileEnd]

theorem prefix_dropWhileEnd (p : Char → Bool) (cs : List Char) : dropWhileEnd p cs <+: cs := by
  rw [dropWhileEnd, ← List.reverse_suffix, List.reverse_reverse]
  exact List.dropWhile_suffix p

theorem dropWhileEnd_concat (p : Char → Bool) (cs : List Char) (c : Char) :
    dropWhileEnd p (cs ++ [c]) = if p c then dropWhileEnd p cs else cs ++ [c] := by
  rw [dropWhileEnd, List.reverse_append, List.reverse_singleton, List.singleton_append,
    List.dropWhile_cons]
  split
  · rfl
  · simp

theorem trimBy_eq_nil_iff {cs : List Char} : trimBy p cs = [] ↔ ∀ c ∈ cs, p c = true := by
  rw [trimBy, dropWhileEnd, List.reverse_eq_nil_iff, List.dropWhile_eq_nil_iff]
  cases left : cs.dropWhile p with
  | nil => simpa using List.dropWhile_eq_nil_iff.mp left
  | cons c rest =>
    have stays : p c = false := by
      have head := List.head_dropWhile_not p (l := cs) (by simp [left])
      simpa [left] using head
    have member : c ∈ cs := (List.dropWhile_suffix p).subset (left ▸ List.mem_cons_self)
    constructor
    · intro all
      exact absurd (all c (by simp)) (by simp [stays])
    · intro all
      exact absurd (all c member) (by simp [stays])

/-- Trimming leaves nothing of white space and only of white space. -/
theorem isEmpty_trim_iff {s : String} :
    (trim s).isEmpty = true ↔ ∀ c ∈ s.toList, isBlank c = true := by
  rw [← trimBy_eq_nil_iff, trim, String.isEmpty_iff, ← String.toList_eq_nil_iff,
    String.toList_ofList]

theorem trimSlashes_append_slash (s : String) : trimSlashes (s ++ "/") = trimSlashes s := by
  have letters : (s ++ "/").toList = s.toList ++ ['/'] := by simp
  rw [trimSlashes, letters, dropWhileEnd_concat, if_pos (by decide)]
  rfl

/-- A text that does not end with a slash is left alone. -/
theorem trimSlashes_eq_self_iff {s : String} : trimSlashes s = s ↔ ∀ front, s ≠ front ++ "/" := by
  constructor
  · rintro whole front rfl
    have shorter : (trimSlashes (front ++ "/")).toList.length ≤ front.toList.length := by
      rw [trimSlashes_append_slash, trimSlashes, String.toList_ofList]
      exact (prefix_dropWhileEnd _ _).length_le
    rw [whole] at shorter
    simp only [String.toList_append, List.length_append] at shorter
    exact absurd shorter (by simp)
  · intro ends
    rcases List.eq_nil_or_concat s.toList with empty | ⟨cs, c, letters⟩
    · rw [trimSlashes, empty]
      exact String.toList_inj.mp (by rw [empty]; rfl)
    · rw [List.concat_eq_append] at letters
      have stays : ¬(c == '/') = true := by
        intro slash
        refine ends (.ofList cs) (String.toList_inj.mp ?_)
        rw [letters, beq_iff_eq.mp slash]
        simp
      rw [trimSlashes, letters, dropWhileEnd_concat, if_neg stays, ← letters, String.ofList_toList]

theorem trimSlashes_trimSlashes (s : String) : trimSlashes (trimSlashes s) = trimSlashes s := by
  rw [trimSlashes, trimSlashes, String.toList_ofList, dropWhileEnd, dropWhileEnd,
    List.reverse_reverse, List.dropWhile_idempotent]

theorem exists_dropWhileEnd_append (p : Char → Bool) (cs : List Char) :
    ∃ gone, cs = dropWhileEnd p cs ++ gone ∧ ∀ c ∈ gone, p c = true := by
  have parts := congrArg List.reverse
    (List.takeWhile_append_dropWhile (p := p) (l := cs.reverse))
  rw [List.reverse_append, List.reverse_reverse] at parts
  refine ⟨(cs.reverse.takeWhile p).reverse, parts.symm, fun c member => ?_⟩
  exact List.all_eq_true.mp List.all_takeWhile c (List.mem_reverse.mp member)

/-- Trimming takes away nothing but slashes. -/
theorem exists_trimSlashes_append (s : String) :
    ∃ n, s.toList = (trimSlashes s).toList ++ List.replicate n '/' := by
  obtain ⟨gone, parts, slashes⟩ := exists_dropWhileEnd_append (· == '/') s.toList
  refine ⟨gone.length, ?_⟩
  rw [← List.eq_replicate_of_mem fun c member => beq_iff_eq.mp (slashes c member), trimSlashes,
    String.toList_ofList]
  exact parts

/-- Trimming leaves a text alone exactly if it has nothing to drop at either end. -/
theorem trimBy_eq_self_iff {cs : List Char} :
    trimBy p cs = cs ↔ cs.dropWhile p = cs ∧ dropWhileEnd p cs = cs := by
  constructor
  · intro whole
    have last : (trimBy p cs).length ≤ (cs.dropWhile p).length :=
      (prefix_dropWhileEnd p _).length_le
    rw [whole] at last
    have first : cs.dropWhile p = cs := (List.dropWhile_suffix p).eq_of_length_le last
    rw [trimBy, first] at whole
    exact ⟨first, whole⟩
  · rintro ⟨first, last⟩
    rw [trimBy, first, last]

/-- A text that is trimmed at its end first is left alone by the same texts. -/
theorem trimBy_dropWhileEnd_eq_iff {cs : List Char} :
    trimBy p (dropWhileEnd p cs) = cs ↔ trimBy p cs = cs := by
  constructor
  · intro whole
    have front : (trimBy p (dropWhileEnd p cs)).length ≤ (dropWhileEnd p cs).length :=
      Nat.le_trans (prefix_dropWhileEnd p _).length_le (List.dropWhile_suffix p).length_le
    rw [whole] at front
    have last : dropWhileEnd p cs = cs := (prefix_dropWhileEnd p cs).eq_of_length_le front
    rwa [last] at whole
  · intro whole
    rw [(trimBy_eq_self_iff.mp whole).2, whole]

end Gatehouse.Text
