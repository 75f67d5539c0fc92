import Gatehouse.Proofs.Text.Escapes
import Gatehouse.Proofs.Url.Printable
import Gatehouse.Proofs.Url.Web

/-!
# Segments behind a base

The segments of a URL that is written behind a base: those that the base leaves, and behind them
what the text that is added resolves to.  Segments of dots take away what is in front of them,
so the last segments of such a URL can be those of the text, or older ones of the base.
-/

namespace Gatehouse

namespace Ascii

theorem eq_of_lower_eq {c d : Char} (same : lower c = d) (other : isLower d = false) : c = d := by
  have images : ∀ n < 91, 65 ≤ n → isLower (.ofNat (n + 32)) = true := by decide
  unfold lower at same
  split at same
  · rename_i upper
    simp only [isUpper, Bool.and_eq_true, decide_eq_true_eq, Char.le_def,
      UInt32.le_iff_toNat_le] at upper
    have small : c.toNat < 91 := Nat.lt_of_le_of_lt upper.2 (by decide)
    rw [← same, images c.toNat small upper.1] at other
    cases other
  · exact same

theorem eq_e_or_of_lower {c : Char} (same : lower c = 'e') : c = 'e' ∨ c = 'E' := by
  have images : ∀ n < 91, 65 ≤ n → Char.ofNat (n + 32) = 'e' → Char.ofNat n = 'E' := by decide
  unfold lower at same
  split at same
  · rename_i upper
    simp only [isUpper, Bool.and_eq_true, decide_eq_true_eq, Char.le_def,
      UInt32.le_iff_toNat_le] at upper
    have small : c.toNat < 91 := Nat.lt_of_le_of_lt upper.2 (by decide)
    have letter := images c.toNat small upper.1 same
    exact .inr ((Char.ofNat_toNat c).symm.trans letter)
  · exact .inl same

end Ascii

namespace Url

open Percent (decode decodeText? hasEscape)
open Text (trimSlashes)

/-- The segments that stand for the place above. -/
def doubleDots : List String :=
  ["..", ".%2e", ".%2E", "%2e.", "%2E.", "%2e%2e", "%2e%2E", "%2E%2e", "%2E%2E"]

/-- The segments that stand for the present place. -/
def singleDots : List String := [".", "%2e", "%2E"]

section Lower

variable {cs t : List Char}

theorem exists_of_lower_dot (same : cs.map Ascii.lower = '.' :: t) :
    ∃ rest, cs = '.' :: rest ∧ rest.map Ascii.lower = t := by
  obtain ⟨c, rest, rfl, dot, later⟩ := List.map_eq_cons_iff.mp same
  rw [Ascii.eq_of_lower_eq dot rfl]
  exact ⟨rest, rfl, later⟩

theorem exists_of_lower_escape (same : cs.map Ascii.lower = '%' :: '2' :: 'e' :: t) :
    ∃ rest, (cs = '%' :: '2' :: 'e' :: rest ∨ cs = '%' :: '2' :: 'E' :: rest) ∧
      rest.map Ascii.lower = t := by
  obtain ⟨a, digits, rfl, sign, number⟩ := List.map_eq_cons_iff.mp same
  obtain ⟨b, back, rfl, two, letter⟩ := List.map_eq_cons_iff.mp number
  obtain ⟨c, rest, rfl, letter, later⟩ := List.map_eq_cons_iff.mp letter
  rw [Ascii.eq_of_lower_eq sign rfl, Ascii.eq_of_lower_eq two rfl]
  refine ⟨rest, ?_, later⟩
  rcases Ascii.eq_e_or_of_lower letter with form | form
  · exact .inl (by rw [form])
  · exact .inr (by rw [form])

end Lower

theorem mem_doubleDots {segment : String} (dots : isDoubleDot segment = true) :
    segment ∈ doubleDots := by
  have lowered {t : String} (same : (Ascii.lowerString segment == t) = true) :
      segment.toList.map Ascii.lower = t.toList := by
    rw [beq_iff_eq, Ascii.lowerString] at same
    rw [← same, String.toList_ofList]
  suffices member : segment.toList ∈ doubleDots.map String.toList by
    obtain ⟨form, inside, same⟩ := List.mem_map.mp member
    exact String.toList_inj.mp same ▸ inside
  rw [isDoubleDot, Bool.or_eq_true, Bool.or_eq_true, Bool.or_eq_true] at dots
  rcases dots with ((same | same) | same) | same
  · have lower : segment.toList.map Ascii.lower = ['.', '.'] := lowered same
    obtain ⟨back, letters, second⟩ := exists_of_lower_dot lower
    obtain ⟨rest, forms, none⟩ := exists_of_lower_dot second
    rw [letters, forms, List.map_eq_nil_iff.mp none]
    decide
  · have lower : segment.toList.map Ascii.lower = ['.', '%', '2', 'e'] := lowered same
    obtain ⟨back, letters, second⟩ := exists_of_lower_dot lower
    obtain ⟨rest, forms, none⟩ := exists_of_lower_escape second
    rw [letters]
    rcases forms with forms | forms <;> rw [forms, List.map_eq_nil_iff.mp none] <;> decide
  · have lower : segment.toList.map Ascii.lower = ['%', '2', 'e', '.'] := lowered same
    obtain ⟨back, letters, second⟩ := exists_of_lower_escape lower
    obtain ⟨rest, forms, none⟩ := exists_of_lower_dot second
    rcases letters with letters | letters <;>
      rw [letters, forms, List.map_eq_nil_iff.mp none] <;> decide
  · have lower : segment.toList.map Ascii.lower = ['%', '2', 'e', '%', '2', 'e'] := lowered same
    obtain ⟨back, letters, second⟩ := exists_of_lower_escape lower
    obtain ⟨rest, forms, none⟩ := exists_of_lower_escape second
    rcases letters with letters | letters <;> rcases forms with forms | forms <;>
      rw [letters, forms, List.map_eq_nil_iff.mp none] <;> decide

theorem mem_singleDots {segment : String} (dots : isSingleDot segment = true) :
    segment ∈ singleDots := by
  simpa [isSingleDot, singleDots, or_assoc] using dots

theorem decode_dot (cs : List Char) : decode ('.' :: cs) = 0x2E :: decode cs :=
  Percent.decode_cons_of_ne (by decide) cs

theorem decode_escaped_dot {c : Char} (letter : c = 'e' ∨ c = 'E') (cs : List Char) :
    decode ('%' :: '2' :: c :: cs) = 0x2E :: decode cs := by
  obtain ⟨octet, read⟩ := Percent.exists_decode_percent (a := '2') (b := c) rfl
    (by rcases letter with rfl | rfl <;> rfl)
  have dot : decode ['%', '2', c] = [0x2E] := by
    rcases letter with rfl | rfl <;> decide
  rw [read, ← (List.cons.inj ((read []).symm.trans dot)).1]

theorem decode_doubleDots {form : String} (member : form ∈ doubleDots) (cs : List Char) :
    decode (form.toList ++ cs) = 0x2E :: 0x2E :: decode cs := by
  simp only [doubleDots, List.mem_cons, List.not_mem_nil, or_false] at member
  rcases member with rfl | rfl | rfl | rfl | rfl | rfl | rfl | rfl | rfl <;>
    simp [decode_dot, decode_escaped_dot]

/-- Where a path writes a part, escapes keep their meaning. -/
theorem decode_encodePart_pathSet (cs : List Char) :
    decode (encodePart pathSet cs).toList = decode cs := by
  have digits : ∀ c, (Ascii.hexValue? c).isSome = true →
      (!isEncodedAlways c && !pathSet.toList.contains c) = true := by
    have ascii : ∀ n < 128, (Ascii.hexValue? (.ofNat n)).isSome = true →
        (!isEncodedAlways (.ofNat n) && !pathSet.toList.contains (.ofNat n)) = true := by decide
    intro c digit
    have known := ascii c.toNat (Ascii.toNat_lt_of_hexValue? digit)
    rw [Char.ofNat_toNat] at known
    exact known digit
  rw [encodePart, String.toList_ofList, Percent.decode_encode_of_keep (by decide) digits]

theorem decodeText?_encodePart_pathSet (cs : List Char) :
    decodeText? (encodePart pathSet cs).toList = decodeText? cs := by
  rw [decodeText?, decode_encodePart_pathSet]
  rfl

/-- Two dots in front of a text without escapes are read from every way to write them. -/
theorem decodeText?_doubleDots {last cs : List Char}
    (up : isDoubleDot (encodePart pathSet last) = true) (none : hasEscape cs = false) :
    decodeText? (encodePart pathSet (last ++ cs)).toList = some ('.' :: '.' :: cs) := by
  have dots : Utf8.encode ('.' :: '.' :: cs) = 0x2E :: 0x2E :: Utf8.encode cs := by
    rw [Utf8.encode_cons, Utf8.encode_cons]
    rfl
  rw [encodePart_append, String.toList_append, decodeText?,
    decode_doubleDots (mem_doubleDots up), decode_encodePart_pathSet,
    Percent.decode_of_hasEscape none, ← dots, Utf8.decode?_encode]

/-- A text without escapes that is written in a path is of dots only if it is one or two of
    them. -/
theorem isDots_encodePart_eq_false {cs : List Char} (none : hasEscape cs = false)
    (one : cs ≠ ['.']) (two : cs ≠ ['.', '.']) : isDots (encodePart pathSet cs) = false := by
  have read : decodeText? (encodePart pathSet cs).toList = some cs := by
    rw [decodeText?_encodePart_pathSet, Percent.decodeText?_of_hasEscape none]
  have octets := Utf8.decode?_eq_some_iff.mp read
  rw [Bool.eq_false_iff]
  intro dots
  rcases Bool.or_eq_true_iff.mp dots with up | stay
  · have form := decode_doubleDots (mem_doubleDots up) []
    rw [List.append_nil, ← octets] at form
    exact two (Utf8.encode_inj.mp form)
  · have forms : ∀ form ∈ singleDots, decode form.toList = Utf8.encode ['.'] := by decide
    rw [forms _ (mem_singleDots stay)] at octets
    exact one (Utf8.encode_inj.mp octets)

/-- White space at the end of a segment keeps it from being one of dots. -/
theorem isDots_encodePart_blank (cs : List Char) {b : Char} (blank : isInnerBlank b = true) :
    isDots (encodePart pathSet (cs ++ [b])) = false := by
  have written : ∀ n < 33, ∀ form ∈ doubleDots ++ singleDots,
      (encodePart pathSet [Char.ofNat n]).toList.isSuffixOf form.toList = false := by decide
  have small : b.toNat ≤ 0x20 := of_decide_eq_true (Bool.and_eq_true_iff.mp blank).1
  rw [Bool.eq_false_iff]
  intro dots
  have form : encodePart pathSet (cs ++ [b]) ∈ doubleDots ++ singleDots :=
    List.mem_append.mpr ((Bool.or_eq_true_iff.mp dots).imp mem_doubleDots mem_singleDots)
  have other := written b.toNat (by omega) _ form
  rw [Char.ofNat_toNat, encodePart_append, String.toList_append, Bool.eq_false_iff] at other
  exact other (List.isSuffixOf_iff_suffix.mpr (List.suffix_append _ _))

theorem percent_mem_encodePart {front blanks : List Char} (inside : blanks ≠ [])
    (blank : ∀ c ∈ blanks, isInnerBlank c = true) :
    '%' ∈ (encodePart pathSet (front ++ blanks)).toList := by
  have written : ∀ n < 33, '%' ∈ (encodePart pathSet [Char.ofNat n]).toList := by decide
  obtain ⟨c, more, rfl⟩ := List.exists_cons_of_ne_nil inside
  have small : c.toNat ≤ 0x20 :=
    of_decide_eq_true (Bool.and_eq_true_iff.mp (blank c List.mem_cons_self)).1
  have escaped := written c.toNat (by omega)
  rw [Char.ofNat_toNat] at escaped
  rw [← List.singleton_append, encodePart_append, encodePart_append, String.toList_append,
    String.toList_append]
  exact List.mem_append_right _ (List.mem_append_left _ escaped)

/-- The pieces of a text between its slashes. -/
def names (s : String) : List (List Char) := Text.splitBy (· == '/') s.toList

theorem names_slash (s t : String) : names (s ++ "/" ++ t) = names s ++ names t := by
  have letters : (s ++ "/" ++ t).toList = s.toList ++ '/' :: t.toList := by
    simp [String.toList_append]
  rw [names, letters, Text.splitBy_append_separator _ _ rfl]
  rfl

theorem names_of_free {s : String} (free : '/' ∉ s.toList) : names s = [s.toList] :=
  Text.splitBy_of_all fun c member => by
    rw [beq_eq_false_iff_ne]
    rintro rfl
    exact free member

theorem names_slashes {s t : String} {n : Nat}
    (letters : s.toList = t.toList ++ List.replicate n '/') :
    names s = names t ++ List.replicate n [] := by
  rw [names, names, letters]
  clear letters
  induction n with
  | zero => simp
  | succ n ih =>
    rw [List.replicate_succ', ← List.append_assoc, Text.splitBy_append_separator _ _ rfl, ih,
      List.replicate_succ', List.append_assoc]
    rfl

theorem names_text_segments {xs : List String} (free : ∀ x ∈ xs, '/' ∉ x.toList) :
    names (Path.segments xs).text = [] :: xs.map String.toList := by
  induction xs using List.reverseRecOn with
  | nil => rfl
  | append_singleton xs x ih =>
    have front := ih fun y member => free y (List.mem_append_left [x] member)
    have last : (Path.segments [x]).text = "/" ++ x := by
      rw [Path.text_segments_cons]
      exact String.append_empty
    rw [Path.text_segments_append, last, ← String.append_assoc, names_slash, front,
      names_of_free (free x (by simp)), List.map_append]
    rfl

theorem free_of_mem_segmentsOf {cs : List Char} {x : String} (member : x ∈ segmentsOf true cs) :
    '/' ∉ x.toList := by
  obtain ⟨piece, inside, rfl⟩ := List.mem_map.mp member
  intro slash
  rcases mem_encodePart slash with ⟨within, -⟩ | sign | letter
  · exact absurd (Text.eq_false_of_mem_splitBy inside within) (by decide)
  · exact absurd sign (by decide)
  · exact absurd letter (by decide)

/-- The segments of a base that those behind its slash go on from, the last one first. -/
def above (more : List Char) : List String :=
  if more = [] then [] else (segmentsOf true (dropSlash more)).foldl (descend false) []

theorem free_of_mem_above {more : List Char} {x : String} (member : x ∈ above more) :
    '/' ∉ x.toList := by
  rw [above] at member
  split at member
  · cases member
  · obtain ⟨pushed, left, whole, suffix, inside⟩ :=
      exists_foldl_descend [] (segmentsOf true (dropSlash more))
    rw [whole, List.suffix_nil.mp suffix, List.append_nil] at member
    exact free_of_mem_segmentsOf (inside x member).1

section Path

variable {scheme : String} {authority : Authority} {more : List Char}

/-- The path behind the slash of a base without a query and a fragment. -/
theorem path_webUrl_slash (closed : (splitTail more).2 = []) (t : List Char) :
    (webUrl scheme authority (more ++ '/' :: t)).path =
      .segments (resolve false (above more) (segmentsOf true (splitTail t).1)) := by
  rw [webUrl, splitTail_append_of_nil closed, splitTail_slash, above]
  dsimp only
  split
  · rename_i none
    rw [none]
    rfl
  · rename_i some
    rw [dropSlash_append some, readPath, readSegments_append, List.map_append]
    exact congrArg Path.segments (resolve_append (segmentsOf_ne_nil true _))

/-- In the query and the fragment of a base all is lost. -/
theorem path_webUrl_of_open (opened : (splitTail more).2 ≠ []) (t : List Char) :
    (webUrl scheme authority (more ++ t)).path = readPath true (dropSlash (splitTail more).1) := by
  rw [webUrl, splitTail_append_of_ne_nil opened]

end Path

/-- Slashes at the end of a path are empty segments. -/
theorem exists_replicate_of_names {xs ys : List String} (free : ∀ x ∈ xs, '/' ∉ x.toList)
    (same : names (trimSlashes (Path.segments xs).text) = [] :: ys.map String.toList) :
    ∃ n, xs = ys ++ List.replicate n "" := by
  obtain ⟨n, letters⟩ := Text.exists_trimSlashes_append (Path.segments xs).text
  have pieces := names_slashes letters
  rw [names_text_segments free, same, List.cons_append, List.cons.injEq] at pieces
  refine ⟨n, (List.map_injective_iff.mpr fun _ _ => String.toList_inj.mp) ?_⟩
  rw [List.map_append, List.map_replicate, pieces.2]
  rfl

/-- A name is no empty segment. -/
theorem not_prefix_of_replicate {ys zs : List String} {name : String} (filled : name ≠ "") {n : Nat}
    (whole : zs = ys ++ List.replicate n "") : ¬ ys ++ [name] <+: zs := by
  rw [whole, List.prefix_append_right_inj]
  intro shorter
  exact filled (List.eq_of_mem_replicate (shorter.subset (List.mem_singleton_self name)))

section Names

variable {scheme : String} {authority : Authority} {more : List Char} {ys : List String}
  {name : String}

theorem text_webUrl_slash (scheme : String) (authority : Authority)
    (closed : (splitTail more).2 = []) :
    (webUrl scheme authority (more ++ ['/'])).path.text =
      (Path.segments (above more).reverse).text ++ "/" := by
  have empty : segmentsOf true (splitTail []).1 = [""] := rfl
  have slash : (Path.segments [""]).text = "/" := rfl
  have plain : ∀ x ∈ [""], isDots x = false := by decide
  rw [path_webUrl_slash closed, empty, resolve_of_plain plain, Path.text_segments_append, slash]

/-- A base with slashes at its end leaves its own names, and empty segments behind them. -/
theorem exists_above_eq (closed : (splitTail more).2 = []) {n : Nat}
    (same : names (trimSlashes
      (webUrl scheme authority (more ++ List.replicate n '/')).path.text) =
        [] :: ys.map String.toList) :
    ∃ n, (above more).reverse = ys ++ List.replicate n "" := by
  have text : trimSlashes (webUrl scheme authority (more ++ List.replicate n '/')).path.text =
      trimSlashes (Path.segments (above more).reverse).text := by
    have one : trimSlashes (webUrl scheme authority (more ++ List.replicate 1 '/')).path.text =
        trimSlashes (webUrl scheme authority more).path.text := trimSlashes_webUrl closed 1
    rw [trimSlashes_webUrl closed n, ← one, List.replicate_one, text_webUrl_slash _ _ closed,
      Text.trimSlashes_append_slash]
  refine exists_replicate_of_names (fun x member => ?_) (text ▸ same)
  exact free_of_mem_above (List.mem_reverse.mp member)

/-- The segments of a path are the names in it, and empty ones behind them. -/
theorem exists_resolve_eq {whole : List Char} (closed : (splitTail whole).2 = [])
    (same : names (trimSlashes (webUrl scheme authority whole).path.text) =
      [] :: ys.map String.toList) :
    ∃ n, resolve false [] (segmentsOf true (dropSlash whole)) = ys ++ List.replicate n "" := by
  have path : (webUrl scheme authority whole).path =
      .segments (resolve false [] (segmentsOf true (dropSlash whole))) := path_webUrl closed
  rw [path] at same
  refine exists_replicate_of_names (fun x member => ?_) same
  rcases mem_resolve member with rfl | earlier | later
  · decide
  · cases earlier
  · exact free_of_mem_segmentsOf later

/-- White space behind a base makes another segment of its last one. -/
theorem exists_above_append_blanks (whole : List Char) (some : whole ≠ []) {blanks : List Char}
    (inside : blanks ≠ []) (blank : ∀ c ∈ blanks, isInnerBlank c = true) :
    ∃ front last, segmentsOf true (dropSlash whole) = front ++ [encodePart pathSet last] ∧
      above (whole ++ blanks) =
        encodePart pathSet (last ++ blanks) :: front.foldl (descend false) [] := by
  have plain : ∀ c ∈ blanks, (c == '/' || (true && c == '\\')) = false := by
    intro c member
    rw [Bool.true_and, Bool.or_eq_false_iff, beq_eq_false_iff_ne, beq_eq_false_iff_ne]
    constructor <;> exact ne_of_isInnerBlank (blank c member) (by decide)
  obtain ⟨front, last, alone, longer⟩ := Text.exists_splitBy_append (dropSlash whole) plain
  refine ⟨front.map (encodePart pathSet), last, ?_, ?_⟩
  · rw [segmentsOf, readSegments, alone, List.map_append]
    rfl
  · obtain ⟨shorter, b, rfl⟩ : ∃ shorter b, blanks = shorter ++ [b] :=
      ⟨_, _, (List.dropLast_append_getLast inside).symm⟩
    have other := isDots_encodePart_blank (last ++ shorter) (blank b (by simp))
    rw [above, if_neg (by simp [some]), dropSlash_append some, segmentsOf, readSegments, longer,
      List.map_append, List.foldl_append, List.map_singleton, List.foldl_cons, List.foldl_nil,
      ← List.append_assoc, descend_of_plain other]

/-- White space behind a base keeps it from going on behind its own names, unless the base leads up
    where no white space is. -/
theorem above_of_suffix_blanks {whole blanks : List Char}
    (closed : (splitTail (whole ++ blanks)).2 = []) (some : whole ≠ []) (inside : blanks ≠ [])
    (blank : ∀ c ∈ blanks, isInnerBlank c = true)
    (same : names (trimSlashes (webUrl scheme authority whole).path.text) =
      [] :: ys.map String.toList) (filled : name ≠ "") (plain : '%' ∉ name.toList)
    (suffix : name :: ys.reverse <:+ above (whole ++ blanks)) :
    ∃ last, isDoubleDot (encodePart pathSet last) = true ∧
      above (whole ++ blanks) = encodePart pathSet (last ++ blanks) :: name :: ys.reverse := by
  obtain ⟨front, last, segments, left⟩ := exists_above_append_blanks whole some inside blank
  have bare : (splitTail whole).2 = [] := by
    by_contra opened
    rw [splitTail_append_of_ne_nil opened] at closed
    exact opened (List.append_eq_nil_iff.mp closed).1
  obtain ⟨n, resolved⟩ := exists_resolve_eq bare same
  rw [segments, resolve_concat] at resolved
  rw [left] at suffix ⊢
  generalize front.foldl (descend false) [] = behind at resolved suffix ⊢
  have missed {names more : List String} (suffix : name :: ys.reverse <:+ names)
      (whole : names.reverse ++ more = ys ++ List.replicate n "") : False := by
    have shorter := List.reverse_prefix.mpr suffix
    rw [List.reverse_cons, List.reverse_reverse] at shorter
    exact not_prefix_of_replicate filled whole (shorter.trans (List.prefix_append _ more))
  rcases List.suffix_cons_iff.mp suffix with first | suffix
  · obtain ⟨rfl, -⟩ := List.cons.inj first
    exact absurd (percent_mem_encodePart (by simp [inside]) blank) plain
  · cases up : isDoubleDot (encodePart pathSet last) with
    | true =>
      rw [isDots, up, Bool.true_or, if_pos rfl, descend, up, if_pos rfl] at resolved
      cases behind with
      | nil => exact absurd (List.suffix_nil.mp suffix) (List.cons_ne_nil _ _)
      | cons first behind =>
        rw [leave_cons] at resolved
        rcases List.suffix_cons_iff.mp suffix with all | suffix
        · exact ⟨last, up, congrArg _ all.symm⟩
        · exact (missed suffix resolved).elim
    | false =>
      rw [isDots, up, Bool.false_or] at resolved
      split at resolved
      · rename_i stay
        rw [descend, up, stay, if_neg Bool.false_ne_true, if_pos rfl] at resolved
        exact (missed suffix resolved).elim
      · exact (missed suffix resolved).elim

end Names

/-- A base does not go on behind its own names, but for one way: it ends with two dots and white
    space, so that it leads up where nothing follows. -/
theorem IsBaseAt.above_of_suffix {given : String} {url : Url} {authority : Authority}
    {more : List Char} (base : IsBaseAt given url authority more)
    (closed : (splitTail more).2 = []) {ys : List String}
    (same : names (trimSlashes url.path.text) = [] :: ys.map String.toList) {name : String}
    (filled : name ≠ "") (plain : '%' ∉ name.toList)
    (suffix : name :: ys.reverse <:+ above more) :
    ∃ last blanks, isDoubleDot (encodePart pathSet last) = true ∧ blanks ≠ [] ∧
      (∀ c ∈ blanks, isInnerBlank c = true) ∧
      above more = encodePart pathSet (last ++ blanks) :: name :: ys.reverse := by
  rcases base.url_cases with ⟨n, slashes⟩ | rfl | ⟨whole, blanks, read, rfl, some, inside, blank⟩
  · rw [slashes] at same
    obtain ⟨n, left⟩ := exists_above_eq closed same
    have behind := List.reverse_prefix.mpr suffix
    rw [List.reverse_cons, List.reverse_reverse] at behind
    exact absurd behind (not_prefix_of_replicate filled left)
  · exact absurd (List.suffix_nil.mp suffix) (List.cons_ne_nil _ _)
  · rw [read] at same
    obtain ⟨last, up, left⟩ :=
      above_of_suffix_blanks closed some inside blank same filled plain suffix
    exact ⟨last, blanks, up, inside, blank, left⟩

section Base

variable {given : String} {url : Url} {authority : Authority} {more : List Char}
  (base : IsBaseAt given url authority more)

include base

/-- What is written behind a query or a fragment does not get into the path. -/
theorem IsBaseAt.path_of_open (opened : (splitTail more).2 ≠ []) (t : List Char) :
    (webUrl url.scheme authority (more ++ t)).path = url.path := by
  rcases base.url_cases with ⟨n, read⟩ | rfl | ⟨whole, blanks, read, rfl, -, -, blank⟩
  · rw [path_webUrl_of_open opened, read, path_webUrl_of_open opened]
  · exact absurd rfl opened
  · have bare : (splitTail blanks).2 = [] := by
      rw [splitTail, List.dropWhile_eq_nil_iff]
      intro c member
      rw [Bool.and_eq_true, bne_iff_ne, bne_iff_ne]
      constructor <;> exact ne_of_isInnerBlank (blank c member) (by decide)
    have opened' : (splitTail whole).2 ≠ [] := by
      intro closed
      rw [splitTail_append_of_nil closed] at opened
      exact opened bare
    have alone : (webUrl url.scheme authority (whole ++ [])).path =
        readPath true (dropSlash (splitTail whole).1) := path_webUrl_of_open opened' []
    rw [List.append_nil] at alone
    rw [read, alone, List.append_assoc]
    exact path_webUrl_of_open opened' _

/-- When a base is under its URL, by what is read of the base. -/
theorem IsBaseAt.isUnder_slash_iff :
    url.IsUnder "/" (trimSlashes given ++ "/") ↔
      (webUrl url.scheme authority []).origin = url.origin ∧ (splitTail more).2 = [] ∧
        (Path.segments (above more).reverse).text = trimSlashes url.path.text := by
  have read := base.parse_append ""
  rw [String.append_empty, show cleanedBack "".toList = [] from rfl] at read
  have bare : ((webUrl url.scheme authority (more ++ ['/'])).query = none ∧
      (webUrl url.scheme authority (more ++ ['/'])).fragment = none) ↔ (splitTail more).2 = [] :=
    bare_webUrl_iff 1
  constructor
  · rintro ⟨link, parsed, origin, query, fragment, path⟩
    cases read.symm.trans parsed
    have closed := bare.mp ⟨query, fragment⟩
    rw [text_webUrl_slash _ _ closed, String.append_left_inj] at path
    exact ⟨origin, closed, path⟩
  · rintro ⟨origin, closed, path⟩
    obtain ⟨query, fragment⟩ := bare.mpr closed
    refine ⟨_, read, origin, query, fragment, ?_⟩
    rw [text_webUrl_slash _ _ closed, path]

end Base

end Url

end Gatehouse
