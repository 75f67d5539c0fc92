import Gatehouse.Proofs.Url.Slashes

/-!
# Bases of the web

What is read of a base of a web URL with a slash and any text behind it: authority and path go
on where the base leaves them, whatever the text is.  The base differs from the URL itself by the
slashes at the end, and by white space there, which counts as soon as something follows it.
-/

namespace Gatehouse.Url

open Text (trimSlashes)

/-- Whether a character is dropped at the ends of a text, but read elsewhere. -/
def isInnerBlank (c : Char) : Bool :=
  c.toNat ≤ 0x20 && (c != '\t' && c != '\n' && c != '\r')

theorem ne_of_isInnerBlank {c d : Char} (blank : isInnerBlank c = true)
    (other : isInnerBlank d = false) : c ≠ d := by
  rintro rfl
  rw [blank] at other
  cases other

/-- A scheme is found by what is in front of its colon. -/
theorem scheme?_append_of_eq_some {cs rest : List Char} {scheme : String}
    (front : scheme? cs = some (scheme, rest)) (ds : List Char) :
    scheme? (cs ++ ds) = some (scheme, rest ++ ds) := by
  cases cs with
  | nil => cases front
  | cons c cs =>
    rw [List.cons_append, scheme?]
    rw [scheme?] at front
    split at front
    · rename_i letter
      rw [if_pos letter]
      split at front
      · rename_i rest' colon
        cases front
        have longer : ((c :: cs).takeWhile isSchemeChar).length ≠ (c :: cs).length := by
          intro same
          have whole := congrArg List.length
            (List.takeWhile_append_dropWhile (p := isSchemeChar) (l := c :: cs))
          rw [List.length_append, colon, List.length_cons] at whole
          omega
        rw [← List.cons_append, List.dropWhile_append, List.takeWhile_append, if_neg longer, colon]
        rfl
      · cases front
    · cases front

/-- The scheme of a URL is the one in front of the text that it is read from. -/
theorem exists_scheme_of_parse {s : String} {url : Url} (parsed : parse s = .ok url) :
    ∃ rest, scheme? (cleaned s) = some (url.scheme, rest) := by
  cases isRead_of_read parsed with
  | file front => exact ⟨_, front⟩
  | web front => exact ⟨_, front⟩
  | hosted front => exact ⟨_, front⟩
  | bare front => exact ⟨_, front⟩

theorem mem_splitHost {inside : Bool} {cs : List Char} {c : Char}
    (member : c ∈ (splitHost inside cs).2) : c ∈ cs := by
  induction cs generalizing inside with
  | nil => cases member
  | cons d cs ih =>
    rw [splitHost] at member
    split at member
    · exact member
    · exact List.mem_cons_of_mem d (ih member)

theorem mem_splitUser? {cs user place : List Char} (split : splitUser? cs = some (user, place))
    {c : Char} (member : c ∈ place) : c ∈ cs := by
  unfold splitUser? at split
  dsimp only at split
  split at split
  · cases split
    exact List.mem_reverse.mp ((List.takeWhile_prefix _).subset (List.mem_reverse.mp member))
  · cases split

theorem eq_nil_of_readPort {scheme : String} {digits left : List Char} {port : Option Nat}
    (plain : '\\' ∉ digits) (read : readPort scheme digits = .ok (port, left)) : left = [] := by
  unfold readPort at read
  dsimp only at read
  split at read
  · cases read
  · cases rest : digits.dropWhile Ascii.isDigit with
    | nil =>
      rw [rest] at read
      cases read
      rfl
    | cons c more =>
      have inside : c ∈ digits :=
        (List.dropWhile_suffix _).subset (rest ▸ List.mem_cons_self : c ∈ digits.dropWhile _)
      rw [rest] at read
      dsimp only at read
      split at read
      · rename_i backslash
        exact absurd (backslash ▸ inside) plain
      · cases read

/-- Nothing is left of the text of an authority without backslashes. -/
theorem eq_nil_of_readPlace {scheme : String} {whole left : List Char} {authority : Authority}
    (plain : '\\' ∉ whole) (read : readPlace scheme whole = .ok (authority, left)) :
    left = [] := by
  have behind (user : Option (List Char)) (place : List Char) (inside : ∀ c ∈ place, c ∈ whole)
      (read : readHostPort scheme (readUser (user.getD [])).1 (readUser (user.getD [])).2
        (splitHost false place).1 (splitHost false place).2 = .ok (authority, left)) :
      left = [] := by
    unfold readHostPort at read
    split at read
    · split at read
      · cases read
      · cases read
        rfl
    · split at read
      · cases read
      · cases read
        rfl
      · rename_i colon digits _ text
        obtain ⟨⟨number, rest⟩, ported, same⟩ := exists_of_map_eq_ok read
        cases same
        refine eq_nil_of_readPort (fun backslash => plain (inside _ ?_)) ported
        exact mem_splitHost (text ▸ List.mem_cons_of_mem colon backslash)
  unfold readPlace at read
  cases split : splitUser? whole with
  | none =>
    rw [split] at read
    dsimp only at read
    rw [if_neg (by simp)] at read
    exact behind none whole (fun c member => member) read
  | some parts =>
    obtain ⟨user, place⟩ := parts
    rw [split] at read
    dsimp only at read
    split at read
    · cases read
    · exact behind (some user) place (fun c member => mem_splitUser? split member) read

section Place

variable {scheme : String} {rest : List Char}

/-- White space behind a base belongs to the authority, behind which nothing is left then, or to
    what is behind the authority. -/
theorem webPlace_append_blanks (special : isSpecial scheme = true)
    (closed : rest.all isSlash = false) {blanks : List Char}
    (blank : ∀ c ∈ blanks, isInnerBlank c = true) {authority authority' : Authority}
    {more more' : List Char} (place : webPlace scheme rest = .ok (authority, more))
    (place' : webPlace scheme (rest ++ blanks) = .ok (authority', more')) :
    more' = [] ∨ more ≠ [] ∧ authority' = authority ∧ more' = more ++ blanks := by
  have inside : ∀ c ∈ blanks, (!endsAuthority (isSpecial scheme) c) = true := by
    intro c member
    rw [Bool.not_eq_true', endsAuthority]
    simp only [Bool.or_eq_false_iff, Bool.and_eq_false_iff, beq_eq_false_iff_ne]
    refine ⟨⟨⟨?_, ?_⟩, ?_⟩, .inr ?_⟩ <;> exact ne_of_isInnerBlank (blank c member) (by decide)
  rw [webPlace, dropWhile_isSlash_append closed, readAuthority_eq (.inl special)] at place'
  rw [webPlace, readAuthority_eq (.inl special)] at place
  generalize rest.dropWhile isSlash = u at place place'
  obtain ⟨⟨_, left⟩, read, same⟩ := exists_of_map_eq_ok place
  cases same
  obtain ⟨⟨_, left'⟩, read', same⟩ := exists_of_map_eq_ok place'
  cases same
  by_cases all : u.dropWhile (!endsAuthority (isSpecial scheme) ·) = []
  · left
    have whole : (u ++ blanks).dropWhile (!endsAuthority (isSpecial scheme) ·) = [] := by
      rw [List.dropWhile_eq_nil_iff] at all ⊢
      intro c member
      exact (List.mem_append.mp member).elim (all c) (inside c)
    have plain : '\\' ∉ (u ++ blanks).takeWhile (!endsAuthority (isSpecial scheme) ·) := by
      intro member
      have free := List.all_eq_true.mp List.all_takeWhile _ member
      rw [special] at free
      exact absurd free (by decide)
    rw [whole, eq_nil_of_readPlace plain read']
    rfl
  · right
    have shorter : (u.takeWhile (!endsAuthority (isSpecial scheme) ·)).length ≠ u.length := by
      intro same
      have parts := congrArg List.length
        (List.takeWhile_append_dropWhile (p := (!endsAuthority (isSpecial scheme) ·)) (l := u))
      rw [List.length_append, same] at parts
      exact all (List.length_eq_zero_iff.mp (by omega))
    rw [List.takeWhile_append, if_neg shorter, read] at read'
    cases read'
    rw [List.dropWhile_append, if_neg (by simpa using all), List.append_assoc]
    exact ⟨by simp [all], rfl, rfl⟩

end Place

/-- A base with a slash at its end is read as the URL with as many slashes as it has there; one
    without may have white space at its end, which is not read at the end of the URL. -/
theorem cleanedFront_trimSlashes_cases (given : String) :
    (∃ n, cleaned given = cleanedFront (trimSlashes given) ++ List.replicate n '/') ∨
      ∃ blanks, cleanedFront (trimSlashes given) = cleaned given ++ blanks ∧ blanks ≠ [] ∧
        ∀ c ∈ blanks, isInnerBlank c = true := by
  obtain ⟨n, letters⟩ := Text.exists_trimSlashes_append given
  cases n with
  | succ n => exact .inl ⟨n + 1, cleaned_of_slashes letters⟩
  | zero =>
    have whole : trimSlashes given = given := String.toList_inj.mp (by simpa using letters.symm)
    obtain ⟨gone, parts, blank⟩ := Text.exists_dropWhileEnd_append
      (fun c => c.toNat ≤ 0x20) (given.toList.dropWhile fun c => c.toNat ≤ 0x20)
    have longer : cleanedFront given =
        cleaned given ++ gone.filter fun c => c != '\t' && c != '\n' && c != '\r' := by
      rw [cleanedFront, parts, List.filter_append]
      rfl
    rw [whole, longer]
    cases left : gone.filter fun c => c != '\t' && c != '\n' && c != '\r' with
    | nil => exact .inl ⟨0, by simp⟩
    | cons c blanks =>
      refine .inr ⟨c :: blanks, rfl, List.cons_ne_nil c blanks, fun d member => ?_⟩
      rw [← left, List.mem_filter] at member
      rw [isInnerBlank, blank d member.1, member.2]
      rfl

/-- What is known of the base of a URL behind which a text is read as a URL of the web: the place
    that all these texts go on from, and what the URL itself has there. -/
structure IsBaseAt (given : String) (url : Url) (authority : Authority) (more : List Char) :
    Prop where
  parse_append : ∀ t, parse (trimSlashes given ++ "/" ++ t) =
    .ok (webUrl url.scheme authority (more ++ '/' :: cleanedBack t.toList))
  url_cases : (∃ n, url = webUrl url.scheme authority (more ++ List.replicate n '/')) ∨ more = [] ∨
    ∃ whole blanks, url = webUrl url.scheme authority whole ∧ more = whole ++ blanks ∧
      whole ≠ [] ∧ blanks ≠ [] ∧ ∀ c ∈ blanks, isInnerBlank c = true

theorem exists_isBaseAt {given t : String} {url link : Url} (parsed : parse given = .ok url)
    (linked : parse (trimSlashes given ++ "/" ++ t) = .ok link) (web : link.IsWeb) :
    ∃ authority more, IsBaseAt given url authority more := by
  obtain ⟨whole, frontUrl⟩ := exists_scheme_of_parse parsed
  obtain ⟨behind, frontLink⟩ := exists_scheme_of_parse linked
  rw [cleaned_append, scheme?_append, Option.map_eq_some_iff] at frontLink
  obtain ⟨⟨scheme, rest⟩, front, same⟩ := frontLink
  obtain ⟨rfl, rfl⟩ := Prod.mk.inj same
  have read : scheme? (cleaned given) = some (link.scheme, whole) ∧
      url.scheme = link.scheme ∧ ((∃ n, whole = rest ++ List.replicate n '/') ∨
        ∃ blanks, rest = whole ++ blanks ∧ blanks ≠ [] ∧ ∀ c ∈ blanks, isInnerBlank c = true) := by
    rcases cleanedFront_trimSlashes_cases given with ⟨n, slashes⟩ | ⟨blanks, longer, filled, blank⟩
    · rw [slashes, scheme?_append_of_eq_some front, Option.some.injEq, Prod.mk.injEq] at frontUrl
      obtain ⟨schemes, rfl⟩ := frontUrl
      rw [slashes, scheme?_append_of_eq_some front]
      exact ⟨rfl, schemes.symm, .inl ⟨n, rfl⟩⟩
    · rw [longer, scheme?_append_of_eq_some frontUrl, Option.some.injEq, Prod.mk.injEq] at front
      obtain ⟨schemes, rfl⟩ := front
      exact ⟨schemes ▸ frontUrl, schemes, .inr ⟨blanks, rfl, filled, blank⟩⟩
  obtain ⟨frontUrl, schemes, ends⟩ := read
  obtain ⟨special, other⟩ := web
  rw [parse_of_isWeb frontUrl special other, readWeb_eq_webPlace] at parsed
  obtain ⟨⟨authority, left⟩, place, rfl⟩ := exists_of_map_eq_ok parsed
  rcases ends with ⟨n, rfl⟩ | ⟨blanks, rfl, filled, blank⟩
  · obtain ⟨more, found, rfl⟩ := exists_webPlace_of_slashes special place
    exact ⟨authority, more, parse_append_of_webPlace front special other found, .inl ⟨n, rfl⟩⟩
  · have closed : (whole ++ blanks).all isSlash = false := by
      rw [List.all_append, all_isSlash_of_webPlace special place, Bool.false_and]
    have read : parse (trimSlashes given ++ "/" ++ t) = _ :=
      parse_of_isWeb (by rw [cleaned_append, scheme?_append, front]; rfl) special other
    rw [linked, readWeb_eq_webPlace, webPlace_append_slash special closed] at read
    obtain ⟨_, found, -⟩ := exists_of_map_eq_ok read.symm
    obtain ⟨⟨authority', more⟩, found, -⟩ := exists_of_map_eq_ok found
    refine ⟨authority', more, parse_append_of_webPlace front special other found, .inr ?_⟩
    rcases webPlace_append_blanks special (all_isSlash_of_webPlace special place) blank place found
      with rfl | ⟨some, rfl, rfl⟩
    · exact .inl rfl
    · exact .inr ⟨left, blanks, rfl, rfl, some, filled, blank⟩

end Gatehouse.Url
