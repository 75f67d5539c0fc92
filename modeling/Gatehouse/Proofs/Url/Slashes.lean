import Gatehouse.Proofs.Url.Under

/-!
# Slashes at the end of a base

Slashes at the end of a URL of the web change nothing but the end of its path.  So its base is
under it unless there is a query or a fragment, or segments without a name at the end.
-/

namespace Gatehouse.Url

open Text (trimSlashes)

/-- A URL of the web: of a scheme with a default port. -/
def IsWeb (url : Url) : Prop :=
  isSpecial url.scheme = true ∧ url.scheme ≠ "file"

theorem dropWhileEnd_of_getLast? {p : Char → Bool} {cs : List Char}
    (stays : ∀ c ∈ cs.getLast?, p c = false) : Text.dropWhileEnd p cs = cs := by
  rcases List.eq_nil_or_concat cs with rfl | ⟨front, last, rfl⟩
  · rfl
  · rw [List.concat_eq_append] at stays ⊢
    rw [Text.dropWhileEnd_concat, stays last (by simp)]
    rfl

/-- Slashes at the end are read as they are. -/
theorem cleaned_of_slashes {given base : String} {n : Nat}
    (letters : given.toList = base.toList ++ List.replicate (n + 1) '/') :
    cleaned given = cleanedFront base ++ List.replicate (n + 1) '/' := by
  have slash : ∀ c ∈ List.replicate n '/', c = '/' := fun c => List.eq_of_mem_replicate
  have slashes : cleanedBack (List.replicate n '/') = List.replicate n '/' := by
    rw [cleanedBack, Text.dropWhileEnd_of_all fun c member => by rw [slash c member]; decide,
      List.filter_eq_self]
    intro c member
    rw [slash c member]
    decide
  have parts : given = base ++ "/" ++ String.ofList (List.replicate n '/') := by
    apply String.toList_inj.mp
    rw [letters]
    simp [List.replicate_succ]
  rw [parts, cleaned_append, String.toList_ofList, slashes]
  rfl

/-- A text that ends neither in white space nor in a control character is read in front of slashes
    as it is read alone. -/
theorem cleaned_trimSlashes {given : String}
    (ends : ∀ c ∈ (trimSlashes given).toList.getLast?, 0x20 < c.toNat) :
    ∃ n, cleaned given = cleanedFront (trimSlashes given) ++ List.replicate n '/' := by
  obtain ⟨n, letters⟩ := Text.exists_trimSlashes_append given
  refine ⟨n, ?_⟩
  cases n with
  | zero =>
    have whole : trimSlashes given = given := String.toList_inj.mp (by simpa using letters.symm)
    rw [whole] at ends ⊢
    rw [cleaned, cleanedFront, Text.trimBy, List.replicate_zero, List.append_nil]
    congr 1
    apply dropWhileEnd_of_getLast?
    intro c last
    obtain ⟨front, same⟩ := List.dropWhile_suffix (l := given.toList) fun c => c.toNat ≤ 0x20
    rw [decide_eq_false_iff_not, Nat.not_le]
    refine ends c ?_
    rw [← same, List.getLast?_append, Option.mem_def.mp last, Option.some_or]
    rfl
  | succ n => exact cleaned_of_slashes letters

/-- The scheme of a URL is that of its base. -/
theorem exists_scheme {given : String} {url : Url} (parsed : parse given = .ok url)
    (ends : ∀ c ∈ (trimSlashes given).toList.getLast?, 0x20 < c.toNat) :
    ∃ n scheme rest, scheme? (cleanedFront (trimSlashes given)) = some (scheme, rest) ∧
      scheme? (cleaned given) = some (scheme, rest ++ List.replicate n '/') := by
  obtain ⟨n, letters⟩ := cleaned_trimSlashes ends
  cases front : scheme? (cleaned given) with
  | none =>
    rw [parse, front] at parsed
    cases parsed
  | some parts =>
    obtain ⟨scheme, rest⟩ := parts
    rw [letters] at front
    cases n with
    | zero =>
      rw [List.replicate_zero, List.append_nil] at front
      exact ⟨0, scheme, rest, front, by simp⟩
    | succ n =>
      rw [List.replicate_succ, scheme?_append, Option.map_eq_some_iff] at front
      obtain ⟨⟨scheme', rest'⟩, front, same⟩ := front
      cases same
      exact ⟨n + 1, scheme, rest', front, rfl⟩

theorem readAuthority_nil {scheme : String} (special : isSpecial scheme = true) :
    readAuthority scheme [] = .error .emptyHost := by
  have nothing : readPlace scheme [] = .error .emptyHost := by
    unfold readPlace readHostPort
    simp [special, splitUser?, splitHost]
  rw [readAuthority_eq (.inl special), List.takeWhile_nil, nothing]
  rfl

/-- Slashes alone are no place. -/
theorem all_isSlash_of_webPlace {scheme : String} (special : isSpecial scheme = true)
    {rest more : List Char} {authority : Authority}
    (place : webPlace scheme rest = .ok (authority, more)) : rest.all isSlash = false := by
  rw [Bool.eq_false_iff]
  intro slashes
  have gone : rest.dropWhile isSlash = [] :=
    List.dropWhile_eq_nil_iff.mpr (List.all_eq_true.mp slashes)
  rw [webPlace, gone, readAuthority_nil special] at place
  cases place

/-- The place of a text with slashes at its end is the one of the text in front of them. -/
theorem exists_webPlace_of_slashes {scheme : String} (special : isSpecial scheme = true)
    {rest whole : List Char} {authority : Authority} {n : Nat}
    (place : webPlace scheme (rest ++ List.replicate n '/') = .ok (authority, whole)) :
    ∃ more, webPlace scheme rest = .ok (authority, more) ∧
      whole = more ++ List.replicate n '/' := by
  cases n with
  | zero => exact ⟨whole, by simpa using place, by simp⟩
  | succ n =>
    have closed := all_isSlash_of_webPlace special place
    have slashes : (List.replicate (n + 1) '/').all isSlash = true := by
      rw [List.all_eq_true]
      intro c member
      rw [List.eq_of_mem_replicate member]
      rfl
    rw [List.all_append, slashes, Bool.and_true] at closed
    rw [List.replicate_succ, webPlace_append_slash special closed] at place
    obtain ⟨⟨_, more⟩, found, same⟩ := exists_of_map_eq_ok place
    cases same
    exact ⟨more, found, rfl⟩

theorem parse_of_isWeb {s scheme : String} {rest : List Char}
    (front : scheme? (cleaned s) = some (scheme, rest)) (special : isSpecial scheme = true)
    (other : scheme ≠ "file") : parse s = readWeb scheme rest := by
  rw [parse, front]
  simp only [if_neg other, if_pos special]

/-- What is written behind a base and a slash goes on where the base leaves its place. -/
theorem parse_append_of_webPlace {base scheme : String} {rest more : List Char}
    {authority : Authority} (front : scheme? (cleanedFront base) = some (scheme, rest))
    (special : isSpecial scheme = true) (other : scheme ≠ "file")
    (place : webPlace scheme rest = .ok (authority, more)) (t : String) :
    parse (base ++ "/" ++ t) =
      .ok (webUrl scheme authority (more ++ '/' :: cleanedBack t.toList)) := by
  have behind : scheme? (cleaned (base ++ "/" ++ t)) =
      some (scheme, rest ++ '/' :: cleanedBack t.toList) := by
    rw [cleaned_append, scheme?_append, front]
    rfl
  rw [parse_of_isWeb behind special other, readWeb_eq_webPlace,
    webPlace_append_slash special (all_isSlash_of_webPlace special place), place]
  rfl

/-- What is read of a URL of the web and of its base. -/
theorem IsWeb.exists_parts {given : String} {url : Url} (parsed : parse given = .ok url)
    (web : url.IsWeb) (ends : ∀ c ∈ (trimSlashes given).toList.getLast?, 0x20 < c.toNat) :
    ∃ n authority rest, IsClosed (trimSlashes given) ∧
      url = webUrl url.scheme authority (rest ++ List.replicate n '/') ∧
      parse (trimSlashes given ++ "/") = .ok (webUrl url.scheme authority (rest ++ ['/'])) := by
  obtain ⟨n, scheme, rest, front, whole⟩ := exists_scheme parsed ends
  cases isRead_of_read parsed with
  | file => exact absurd rfl web.2
  | hosted _ other => exact absurd web.1 (ne_true_of_eq_false other)
  | bare _ other => exact absurd web.1 (ne_true_of_eq_false other)
  | web front' special other start =>
    cases whole.symm.trans front'
    obtain ⟨more, found, rfl⟩ := exists_webPlace_of_slashes special start
    have closed := all_isSlash_of_webPlace special found
    have base := parse_append_of_webPlace front special other found ""
    rw [String.append_empty] at base
    refine ⟨n, _, more, ?_, rfl, base⟩
    intro scheme' rest' front'
    cases front.symm.trans front'
    rw [opensAuthority, if_neg other, if_pos special]
    exact closed

section Path

variable {scheme : String} {authority : Authority} {rest : List Char}

theorem path_webUrl (closed : (splitTail rest).2 = []) :
    (webUrl scheme authority rest).path = readPath true (dropSlash rest) := by
  have whole := splitTail_append_of_nil closed []
  rw [List.append_nil] at whole
  rw [webUrl, whole]
  exact congrArg (fun path => readPath true (dropSlash path)) (List.append_nil rest)

theorem splitTail_slashes (closed : (splitTail rest).2 = []) (n : Nat) :
    (splitTail (rest ++ List.replicate n '/')).2 = [] := by
  have slashes : (splitTail (List.replicate n '/')).2 = [] := by
    rw [splitTail, List.dropWhile_eq_nil_iff]
    intro c member
    rw [List.eq_of_mem_replicate member]
    rfl
  rw [splitTail_append_of_nil closed, slashes]

/-- One more slash changes nothing but the slashes at the end of the path. -/
theorem trimSlashes_readPath_slash (special : Bool) (cs : List Char) :
    trimSlashes (readPath special (cs ++ ['/'])).text = trimSlashes (readPath special cs).text := by
  have segments : readSegments special (cs ++ ['/']) = readSegments special cs ++ [[]] :=
    readSegments_append special cs []
  have nothing : [[]].map (encodePart pathSet) = [""] := rfl
  have some : (readSegments special cs).map (encodePart pathSet) ≠ [] :=
    segmentsOf_ne_nil special cs
  have slash : (Path.segments [""]).text = "/" := rfl
  rw [readPath, readPath, segments, List.map_append, nothing]
  rcases resolve_append_empty some with same | longer
  · rw [same]
  · rw [longer, Path.text_segments_append, slash, Text.trimSlashes_append_slash]

theorem trimSlashes_webUrl (closed : (splitTail rest).2 = []) (n : Nat) :
    trimSlashes (webUrl scheme authority (rest ++ List.replicate n '/')).path.text =
      trimSlashes (webUrl scheme authority rest).path.text := by
  induction n with
  | zero => rw [List.replicate_zero, List.append_nil]
  | succ n ih =>
    have before := splitTail_slashes closed n
    have after := splitTail_slashes closed (n + 1)
    rw [List.replicate_succ', ← List.append_assoc] at after ⊢
    rw [← ih, path_webUrl after, path_webUrl before]
    generalize rest ++ List.replicate n '/' = cs
    by_cases none : cs = []
    · rw [none]
      rfl
    · rw [dropSlash_append none, trimSlashes_readPath_slash]

/-- A path behind a slash ends with one. -/
theorem exists_text_webUrl_slash (scheme : String) (authority : Authority)
    (closed : (splitTail rest).2 = []) :
    ∃ front, (webUrl scheme authority (rest ++ ['/'])).path.text = front ++ "/" := by
  obtain ⟨front, path⟩ := exists_front_readPath true rest
  have descends : Descends [] := by decide
  have slash : (Path.segments (segmentsOf true (splitTail []).1)).text = "/" := rfl
  refine ⟨(Path.segments front).text, ?_⟩
  have after : (splitTail (rest ++ ['/'])).2 = [] := splitTail_slashes closed 1
  have same := path [] descends
  rw [path_webUrl after]
  rw [show '/' :: (splitTail []).1 = ['/'] from rfl] at same
  rw [same, Path.text_segments_append, slash]

/-- Slashes at the end make no difference for the query and the fragment. -/
theorem bare_webUrl_iff (n : Nat) :
    ((webUrl scheme authority (rest ++ List.replicate n '/')).query = none ∧
      (webUrl scheme authority (rest ++ List.replicate n '/')).fragment = none) ↔
        (splitTail rest).2 = [] := by
  have bare : ((webUrl scheme authority (rest ++ List.replicate n '/')).query = none ∧
      (webUrl scheme authority (rest ++ List.replicate n '/')).fragment = none) ↔
        (splitTail (rest ++ List.replicate n '/')).2 = [] := by
    rw [← readTail_eq_none_iff true, Prod.ext_iff]
    rfl
  rw [bare]
  constructor
  · intro nothing
    by_contra open_
    rw [splitTail_append_of_ne_nil open_] at nothing
    exact open_ (List.append_eq_nil_iff.mp nothing).1
  · intro closed
    exact splitTail_slashes closed n

end Path

/-- The base of a URL of the web is under it exactly if there is neither a query nor a fragment, and
    the path of the base does not end with two slashes. -/
theorem isUnder_slash_iff {given : String} {url : Url} (parsed : parse given = .ok url)
    (web : url.IsWeb) (ends : ∀ c ∈ (trimSlashes given).toList.getLast?, 0x20 < c.toNat) :
    url.IsUnder "/" (trimSlashes given ++ "/") ↔
      url.query = none ∧ url.fragment = none ∧
        ∀ dir front, parse (trimSlashes given ++ "/") = .ok dir →
          dir.path.text ≠ front ++ "//" := by
  obtain ⟨n, authority, rest, -, same, base⟩ := IsWeb.exists_parts parsed web ends
  have origin : (webUrl url.scheme authority (rest ++ ['/'])).origin = url.origin := by
    conv_rhs => rw [same]
    rfl
  have whole : (url.query = none ∧ url.fragment = none) ↔ (splitTail rest).2 = [] := by
    conv_lhs => rw [same]
    exact bare_webUrl_iff n
  have slash : ((webUrl url.scheme authority (rest ++ ['/'])).query = none ∧
      (webUrl url.scheme authority (rest ++ ['/'])).fragment = none) ↔ (splitTail rest).2 = [] :=
    bare_webUrl_iff 1
  have trimmed (closed : (splitTail rest).2 = []) :
      trimSlashes (webUrl url.scheme authority (rest ++ ['/'])).path.text =
        trimSlashes url.path.text := by
    conv_rhs => rw [same, trimSlashes_webUrl closed n]
    exact trimSlashes_webUrl closed 1
  constructor
  · rintro ⟨dir, read, -, query, fragment, path⟩
    cases base.symm.trans read
    have closed := slash.mp ⟨query, fragment⟩
    obtain ⟨query, fragment⟩ := whole.mpr closed
    refine ⟨query, fragment, ?_⟩
    intro dir front read slashes
    cases base.symm.trans read
    rw [path, show "//" = "/" ++ "/" from rfl, ← String.append_assoc, String.append_left_inj]
      at slashes
    exact Text.trimSlashes_eq_self_iff.mp (Text.trimSlashes_trimSlashes _) front slashes
  · rintro ⟨query, fragment, single⟩
    have closed := whole.mp ⟨query, fragment⟩
    obtain ⟨query, fragment⟩ := slash.mpr closed
    obtain ⟨front, text⟩ := exists_text_webUrl_slash url.scheme authority closed
    refine ⟨_, base, origin, query, fragment, ?_⟩
    have kept : trimSlashes front = front := by
      rw [Text.trimSlashes_eq_self_iff]
      rintro shorter rfl
      refine single _ shorter base ?_
      rw [text, String.append_assoc]
      rfl
    rw [← trimmed closed, text, Text.trimSlashes_append_slash, kept]

end Gatehouse.Url
