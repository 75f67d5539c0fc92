import Gatehouse.Proofs.Url.Parts

/-!
# The places that bases name

A base names a place to which paths can be added, and what is read of a base with a slash and
a path that leads down is this place with the path added.
-/

namespace Gatehouse.Url

open Text (dropWhile_append_cons takeWhile_append_cons)

/-- A place that paths can be added to.  In the query or the fragment of a base they are lost. -/
structure Spot where
  scheme : String
  authority : Option Authority
  path : Path
  /-- The base from its query or fragment on. -/
  tail : List Char

/-- A path with a text added behind a slash. -/
def Path.extend (special : Bool) (cs : List Char) : Path → Path
  | .segments front => .segments (front ++ segmentsOf special cs)
  | .opaqueText front => .opaqueText (front ++ "/" ++ encodePart "" cs)

/-- The URL of a text added behind a slash. -/
def Spot.extend (spot : Spot) (t : List Char) : Url :=
  let special := isSpecial spot.scheme
  if spot.tail = [] then
    ⟨spot.scheme, spot.authority, spot.path.extend special (splitTail t).1,
      (readTail special (splitTail t).2).1, (readTail special (splitTail t).2).2⟩
  else
    ⟨spot.scheme, spot.authority, spot.path, (readTail special (spot.tail ++ '/' :: t)).1,
      (readTail special (spot.tail ++ '/' :: t)).2⟩

/-- Whether a text is a single slash. -/
def isLoneSlash : List Char → Bool
  | [c] => isSlash c
  | _ => false

/-- Whether a slash and a name behind what follows a scheme are read as an authority. -/
def opensAuthority (scheme : String) (rest : List Char) : Bool :=
  if scheme = "file" then isLoneSlash rest
  else if isSpecial scheme then rest.all isSlash
  else rest == ['/']

theorem dropSlash_append {cs : List Char} (some : cs ≠ []) (t : List Char) :
    dropSlash (cs ++ t) = dropSlash cs ++ t := by
  cases cs with
  | nil => exact absurd rfl some
  | cons c cs =>
    rw [List.cons_append, dropSlash, dropSlash]
    split <;> rfl

theorem dropSlash_slash (t : List Char) : dropSlash ('/' :: t) = t := rfl

/-- A path of a special scheme goes on with the segments of what is added. -/
theorem exists_front_readPath (special : Bool) (cs : List Char) :
    ∃ front, ∀ t, Descends t → readPath special (dropSlash (cs ++ '/' :: (splitTail t).1)) =
      .segments (front ++ segmentsOf special (splitTail t).1) := by
  by_cases none : cs = []
  · refine ⟨[], fun t descends => ?_⟩
    rw [none, List.nil_append, dropSlash_slash, List.nil_append, readPath_of_descends descends]
  · refine ⟨((segmentsOf special (dropSlash cs)).foldl (descend false) []).reverse,
      fun t descends => ?_⟩
    rw [dropSlash_append none, readPath_append descends]

/-- A rest of a base in front of a slash makes a place, whatever is behind the slash. -/
theorem exists_spot_webUrl {scheme : String} (special : isSpecial scheme = true)
    (authority : Authority) (rest : List Char) :
    ∃ spot : Spot, ∀ t, Descends t →
      webUrl scheme authority (rest ++ '/' :: t) = spot.extend t := by
  by_cases closed : (splitTail rest).2 = []
  · obtain ⟨front, path⟩ := exists_front_readPath true rest
    refine ⟨⟨scheme, some authority, .segments front, []⟩, fun t descends => ?_⟩
    rw [webUrl, splitTail_append_of_nil closed, splitTail_slash, path t descends, Spot.extend,
      if_pos rfl, special]
    rfl
  · refine ⟨⟨scheme, some authority, readPath true (dropSlash (splitTail rest).1),
      (splitTail rest).2⟩, fun t _ => ?_⟩
    rw [webUrl, splitTail_append_of_ne_nil closed, Spot.extend, if_neg closed, special]

theorem dropWhile_isSlash_append {cs : List Char} (closed : cs.all isSlash = false)
    (t : List Char) : (cs ++ t).dropWhile isSlash = cs.dropWhile isSlash ++ t := by
  have some : cs.dropWhile isSlash ≠ [] := by
    intro none
    rw [List.dropWhile_eq_nil_iff] at none
    rw [List.all_eq_true.mpr none] at closed
    cases closed
  rw [List.dropWhile_append, if_neg (by simpa using some)]

/-- The authority in front of a text without its first slashes, and what is behind it. -/
def webPlace (scheme : String) (rest : List Char) : Except Fault (Authority × List Char) :=
  readAuthority scheme (rest.dropWhile isSlash)

theorem readWeb_eq_webPlace (scheme : String) (rest : List Char) :
    readWeb scheme rest =
      (webPlace scheme rest).map fun (authority, more) => webUrl scheme authority more :=
  readWeb_eq scheme rest

/-- What is written behind a place and a slash is kept behind its authority. -/
theorem webPlace_append_slash {scheme : String} (special : isSpecial scheme = true)
    {rest : List Char} (closed : rest.all isSlash = false) (t : List Char) :
    webPlace scheme (rest ++ '/' :: t) =
      (webPlace scheme rest).map fun (authority, more) => (authority, more ++ '/' :: t) := by
  rw [webPlace, dropWhile_isSlash_append closed, readAuthority_append, webPlace,
    readAuthority_eq (.inl special)]
  cases readPlace scheme
    ((rest.dropWhile isSlash).takeWhile (!endsAuthority (isSpecial scheme) ·)) with
  | error fault => rfl
  | ok parts => rfl

theorem exists_spot_web {scheme : String} {cs : List Char} (special : isSpecial scheme = true)
    (closed : cs.all isSlash = false) :
    ∃ spot : Except Fault Spot, ∀ t, Descends t →
      readWeb scheme (cs ++ '/' :: t) = spot.map (·.extend t) := by
  cases place : webPlace scheme cs with
  | error fault =>
    refine ⟨.error fault, fun t _ => ?_⟩
    rw [readWeb_eq_webPlace, webPlace_append_slash special closed, place]
    rfl
  | ok parts =>
    obtain ⟨spot, same⟩ := exists_spot_webUrl special parts.1 parts.2
    refine ⟨.ok spot, fun t descends => ?_⟩
    rw [readWeb_eq_webPlace, webPlace_append_slash special closed, place]
    exact congrArg Except.ok (same t descends)

/-- A path of another scheme goes on with the segments of what is added. -/
theorem exists_front_hostedPath (cs : List Char) :
    ∃ front, ∀ t, Descends t → hostedPath (cs ++ '/' :: (splitTail t).1) =
      .segments (front ++ segmentsOf false (splitTail t).1) := by
  by_cases none : cs = []
  · refine ⟨[], fun t descends => ?_⟩
    rw [none]
    exact readPath_of_descends descends
  · by_cases slash : ∃ rest, cs = '/' :: rest
    · obtain ⟨rest, rfl⟩ := slash
      exact ⟨_, fun t descends => readPath_append descends rest⟩
    · refine ⟨_, fun t descends => Eq.trans ?_ (readPath_append descends cs)⟩
      unfold hostedPath
      split
      · rename_i empty
        simp at empty
      · rename_i path same
        cases cs with
        | nil => exact absurd rfl none
        | cons c cs =>
          cases same
          exact absurd ⟨cs, rfl⟩ slash
      · rfl

theorem exists_spot_hostedUrl {scheme : String} (special : isSpecial scheme = false)
    (authority : Authority) (rest : List Char) :
    ∃ spot : Spot, ∀ t, Descends t →
      hostedUrl scheme authority (rest ++ '/' :: t) = spot.extend t := by
  by_cases closed : (splitTail rest).2 = []
  · obtain ⟨front, path⟩ := exists_front_hostedPath rest
    refine ⟨⟨scheme, some authority, .segments front, []⟩, fun t descends => ?_⟩
    rw [hostedUrl, splitTail_append_of_nil closed, splitTail_slash, path t descends, Spot.extend,
      if_pos rfl, special]
    rfl
  · refine ⟨⟨scheme, some authority, hostedPath (splitTail rest).1, (splitTail rest).2⟩,
      fun t _ => ?_⟩
    rw [hostedUrl, splitTail_append_of_ne_nil closed, Spot.extend, if_neg closed, special]

theorem encodePart_append (also : String) (cs ds : List Char) :
    encodePart also (cs ++ ds) = encodePart also cs ++ encodePart also ds := by
  rw [encodePart, Percent.encode, List.flatMap_append, String.ofList_append]
  rfl

/-- A path without an authority goes on with segments, or with a text if it is one. -/
theorem exists_barePath (cs : List Char) :
    ∃ front : Path, ∀ t, Descends t → barePath (cs ++ '/' :: (splitTail t).1) =
      front.extend false (splitTail t).1 := by
  by_cases slash : cs = [] ∨ ∃ rest, cs = '/' :: rest
  · obtain ⟨front, path⟩ := exists_front_readPath false cs
    refine ⟨.segments front, fun t descends => ?_⟩
    rw [Path.extend, ← path t descends]
    rcases slash with rfl | ⟨rest, rfl⟩ <;> rfl
  · refine ⟨.opaqueText (encodePart "" cs), fun t _ => ?_⟩
    have bare : ∀ rest, cs ++ '/' :: (splitTail t).1 ≠ '/' :: rest := by
      intro rest same
      cases cs with
      | nil => exact slash (.inl rfl)
      | cons c cs =>
        cases same
        exact slash (.inr ⟨cs, rfl⟩)
    have kept : encodePart "" ['/'] = "/" := by decide
    rw [barePath_of_ne bare, Path.extend, ← List.singleton_append, encodePart_append,
      encodePart_append, kept, String.append_assoc]

theorem exists_spot_bareUrl {scheme : String} (special : isSpecial scheme = false)
    (cs : List Char) :
    ∃ spot : Spot, ∀ t, Descends t → bareUrl scheme (cs ++ '/' :: t) = spot.extend t := by
  by_cases closed : (splitTail cs).2 = []
  · obtain ⟨front, path⟩ := exists_barePath cs
    refine ⟨⟨scheme, none, front, []⟩, fun t descends => ?_⟩
    rw [bareUrl, splitTail_append_of_nil closed, splitTail_slash, path t descends, Spot.extend,
      if_pos rfl, special]
  · refine ⟨⟨scheme, none, barePath (splitTail cs).1, (splitTail cs).2⟩, fun t _ => ?_⟩
    rw [bareUrl, splitTail_append_of_ne_nil closed, Spot.extend, if_neg closed, special]

theorem exists_spot_other {scheme : String} {cs : List Char} (special : isSpecial scheme = false)
    (closed : cs ≠ ['/']) :
    ∃ spot : Except Fault Spot, ∀ t, Descends t →
      readOther scheme (cs ++ '/' :: t) = spot.map (·.extend t) := by
  by_cases hosted : ∃ rest, cs = '/' :: '/' :: rest
  · obtain ⟨rest, rfl⟩ := hosted
    cases place : readPlace scheme (rest.takeWhile (!endsAuthority (isSpecial scheme) ·)) with
    | error fault =>
      refine ⟨.error fault, fun t _ => ?_⟩
      rw [List.cons_append, List.cons_append, readOther_slashes, readAuthority_append, place]
      rfl
    | ok parts =>
      obtain ⟨spot, same⟩ := exists_spot_hostedUrl special parts.1
        (parts.2 ++ rest.dropWhile (!endsAuthority (isSpecial scheme) ·))
      refine ⟨.ok spot, fun t descends => ?_⟩
      rw [List.cons_append, List.cons_append, readOther_slashes, readAuthority_append, place]
      exact congrArg Except.ok (same t descends)
  · obtain ⟨spot, same⟩ := exists_spot_bareUrl special cs
    refine ⟨.ok spot, fun t descends => ?_⟩
    have bare : ∀ rest, cs ++ '/' :: t ≠ '/' :: '/' :: rest := by
      intro rest slashes
      match cs, slashes with
      | [], slashes =>
        -- The added text does not begin with a slash.
        obtain rfl : t = '/' :: rest := (List.cons.inj slashes).2
        exact absurd (descends.single '/' rfl) (by decide)
      | [c], slashes =>
        obtain rfl : c = '/' := (List.cons.inj slashes).1
        exact closed rfl
      | c :: d :: more, slashes =>
        obtain ⟨rfl, later⟩ := List.cons.inj slashes
        obtain ⟨rfl, -⟩ := List.cons.inj later
        exact hosted ⟨more, rfl⟩
    rw [readOther_of_ne scheme bare]
    exact congrArg Except.ok (same t descends)

theorem encodePart_cons_ne_empty (also : String) (c : Char) (cs : List Char) :
    encodePart also (c :: cs) ≠ "" := by
  have first : (if !isEncodedAlways c && !also.toList.contains c then [c]
      else Percent.escapeChar c) ≠ [] := by
    split
    · simp
    · obtain ⟨lead, more, octets, -⟩ := Utf8.front_encodeChar c []
      rw [Percent.escapeChar, octets, List.flatMap_cons]
      simp [Percent.escape]
  intro empty
  have letters := congrArg String.toList empty
  rw [encodePart, String.toList_ofList, Percent.encode, List.flatMap_cons] at letters
  exact first (List.append_eq_nil_iff.mp letters).1

/-- Behind a slash the first segment of a text that leads down is empty only if the text is. -/
theorem Descends.segmentsOf_cases {t : List Char} (descends : Descends t) (special : Bool) :
    segmentsOf special (splitTail t).1 = [""] ∨
      ∃ first rest, segmentsOf special (splitTail t).1 = first :: rest ∧ first ≠ "" := by
  cases path : (splitTail t).1 with
  | nil => exact .inl rfl
  | cons c cs =>
    right
    have front : t.head? = some c := by
      cases t with
      | nil => cases path
      | cons d t =>
        rw [splitTail, List.takeWhile_cons] at path
        split at path
        · rw [(List.cons.inj path).1]
          rfl
        · cases path
    have plain : (c == '/' || (special && c == '\\')) = false := by
      have single := descends.single c front
      rw [isSlash, Bool.or_eq_false_iff] at single
      simp [single]
    obtain ⟨word, words, pieces⟩ := List.exists_cons_of_ne_nil (readSegments_ne_nil special cs)
    have first : readSegments special (c :: cs) = (c :: word) :: words := by
      rw [readSegments] at pieces ⊢
      rw [Text.splitBy, plain, pieces]
      rfl
    rw [segmentsOf, first]
    exact ⟨_, _, rfl, encodePart_cons_ne_empty _ _ _⟩

/-- Segments of a file without empty ones in front, of which one is kept if there is nothing
    else. -/
def withoutFront (segments : List String) : List String :=
  if (segments.dropWhile String.isEmpty).isEmpty then [""] else segments.dropWhile String.isEmpty

/-- Segments of which the first one, if it names a drive, has its usual form; and whether it
    does. -/
def withDrive (raw : List (List Char)) : List (List Char) × Bool :=
  match raw with
  | first :: rest =>
    match drive? first with
    | some drive => (drive :: rest, true)
    | none => (raw, false)
  | [] => (raw, false)

theorem readFilePath_eq (cs : List Char) :
    readFilePath cs =
      (.segments (withoutFront (resolve true []
        ((withDrive (readSegments true cs)).1.map (encodePart pathSet)))),
        (withDrive (readSegments true cs)).2) := by
  rfl

theorem withDrive_append {raw : List (List Char)} (some : raw ≠ []) (more : List (List Char)) :
    withDrive (raw ++ more) = ((withDrive raw).1 ++ more, (withDrive raw).2) := by
  cases raw with
  | nil => exact absurd rfl some
  | cons first rest =>
    simp only [List.cons_append, withDrive]
    split <;> rfl

theorem withoutFront_of_cases {segments : List String}
    (shape : segments = [""] ∨ ∃ first rest, segments = first :: rest ∧ first ≠ "") :
    withoutFront segments = segments := by
  rcases shape with rfl | ⟨first, rest, rfl, filled⟩
  · rfl
  · rw [withoutFront, List.dropWhile_cons_of_neg (by simpa using filled)]
    rfl

/-- Segments of which the first one is not empty are kept behind any others. -/
theorem exists_withoutFront (front : List String) :
    ∃ front', ∀ more, more = [""] ∨ (∃ first rest, more = first :: rest ∧ first ≠ "") →
      withoutFront (front ++ more) = front' ++ more := by
  cases left : front.dropWhile String.isEmpty with
  | nil =>
    refine ⟨[], fun more shape => ?_⟩
    have gone : (front ++ more).dropWhile String.isEmpty = more.dropWhile String.isEmpty := by
      rw [List.dropWhile_append, left]
      rfl
    rw [withoutFront, gone]
    exact withoutFront_of_cases shape
  | cons first rest =>
    refine ⟨first :: rest, fun more _ => ?_⟩
    have kept : (front ++ more).dropWhile String.isEmpty = first :: rest ++ more := by
      rw [List.dropWhile_append, left]
      rfl
    rw [withoutFront, kept]
    rfl

theorem Descends.withDrive_eq {t : List Char} (descends : Descends t) :
    withDrive (readSegments true (splitTail t).1) = (readSegments true (splitTail t).1, false) := by
  cases pieces : readSegments true (splitTail t).1 with
  | nil => rfl
  | cons first rest =>
    have none := descends.driveless true first (by rw [pieces]; exact List.mem_cons_self)
    simp only [withDrive, none]

/-- A path of a file goes on with the segments of what is added. -/
theorem exists_front_readFilePath (cs : List Char) :
    ∃ front drive, ∀ t, Descends t → readFilePath (dropSlash (cs ++ '/' :: (splitTail t).1)) =
      (.segments (front ++ segmentsOf true (splitTail t).1), drive) := by
  by_cases none : cs = []
  · refine ⟨[], false, fun t descends => ?_⟩
    have resolved : resolve true [] (segmentsOf true (splitTail t).1) =
        segmentsOf true (splitTail t).1 := resolve_of_plain (descends.isDots true)
    have kept := withoutFront_of_cases (descends.segmentsOf_cases true)
    rw [segmentsOf] at resolved kept ⊢
    rw [none, List.nil_append, dropSlash_slash, readFilePath_eq, descends.withDrive_eq, resolved,
      kept, List.nil_append]
  · obtain ⟨front, same⟩ := exists_withoutFront
      (((withDrive (readSegments true (dropSlash cs))).1.map (encodePart pathSet)).foldl
        (descend true) []).reverse
    refine ⟨front, (withDrive (readSegments true (dropSlash cs))).2, fun t descends => ?_⟩
    have resolved : resolve true []
        ((withDrive (readSegments true (dropSlash cs))).1.map (encodePart pathSet) ++
          segmentsOf true (splitTail t).1) = _ :=
      resolve_append_plain (segmentsOf_ne_nil true _) (descends.isDots true)
    rw [dropSlash_append none, readFilePath_eq, readSegments_append,
      withDrive_append (readSegments_ne_nil _ _), List.map_append]
    rw [segmentsOf] at resolved
    rw [resolved, ← same _ (descends.segmentsOf_cases true)]
    rfl

theorem readFileHost_append (cs t : List Char) :
    readFileHost (cs ++ '/' :: t) =
      (readFileHost cs).map fun (host, rest) => (host, rest ++ '/' :: t) := by
  have stays : (!('/' == '/' || '/' == '\\' || '/' == '?' || '/' == '#')) = false := by decide
  simp only [readFileHost]
  rw [takeWhile_append_cons (p := fun c => !(c == '/' || c == '\\' || c == '?' || c == '#'))
      cs t stays,
    dropWhile_append_cons (p := fun c => !(c == '/' || c == '\\' || c == '?' || c == '#'))
      cs t stays]
  split
  · rfl
  · split
    · rfl
    · cases specialHost _ <;> rfl

theorem fileStart_append {cs t : List Char} (closed : opensAuthority "file" cs = false)
    (descends : Descends t) :
    fileStart (cs ++ '/' :: t) =
      (fileStart cs).map fun (host, rest) => (host, rest ++ '/' :: t) := by
  match cs with
  | [] =>
    cases t with
    | nil => rfl
    | cons d t =>
      have single : isSlash d = false := descends.single d rfl
      simp only [List.nil_append, fileStart, single, Bool.and_false, Bool.false_eq_true, if_false]
      rfl
  | [c] =>
    have single : isSlash c = false := closed
    simp only [List.cons_append, List.nil_append, fileStart, single, Bool.false_and,
      Bool.false_eq_true, if_false]
    rfl
  | a :: b :: rest =>
    simp only [List.cons_append, fileStart]
    split
    · exact readFileHost_append rest t
    · rfl

theorem exists_spot_fileUrl (host : Host) (rest : List Char) :
    ∃ spot : Spot, ∀ t, Descends t → fileUrl host (rest ++ '/' :: t) = spot.extend t := by
  by_cases closed : (splitTail rest).2 = []
  · obtain ⟨front, drive, path⟩ := exists_front_readFilePath rest
    refine ⟨⟨"file", some ⟨"", none, if drive then .domain "" else host, none⟩, .segments front,
      []⟩, fun t descends => ?_⟩
    rw [fileUrl, splitTail_append_of_nil closed, splitTail_slash, path t descends, Spot.extend,
      if_pos rfl]
    rfl
  · refine ⟨⟨"file", (fileUrl host rest).authority, (fileUrl host rest).path, (splitTail rest).2⟩,
      fun t _ => ?_⟩
    rw [fileUrl, splitTail_append_of_ne_nil closed, Spot.extend, if_neg closed]
    rfl

theorem exists_spot_file {cs : List Char} (closed : opensAuthority "file" cs = false) :
    ∃ spot : Except Fault Spot, ∀ t, Descends t →
      readFile (cs ++ '/' :: t) = spot.map (·.extend t) := by
  cases start : fileStart cs with
  | error fault =>
    refine ⟨.error fault, fun t descends => ?_⟩
    rw [readFile_eq, fileStart_append closed descends, start]
    rfl
  | ok parts =>
    obtain ⟨spot, same⟩ := exists_spot_fileUrl parts.1 parts.2
    refine ⟨.ok spot, fun t descends => ?_⟩
    rw [readFile_eq, fileStart_append closed descends, start]
    exact congrArg Except.ok (same t descends)

/-- A base names a place, or none, whatever is added to it, unless it opens an authority. -/
theorem exists_spot {base : List Char}
    (closed : ∀ scheme rest, scheme? base = some (scheme, rest) →
      opensAuthority scheme rest = false) :
    ∃ spot : Except Fault Spot, ∀ t, Descends t →
      read (base ++ '/' :: t) = spot.map (·.extend t) := by
  cases named : scheme? base with
  | none =>
    refine ⟨.error .noScheme, fun t _ => ?_⟩
    rw [read, scheme?_append, named]
    rfl
  | some parts =>
    obtain ⟨scheme, rest⟩ := parts
    have closed := closed scheme rest named
    have reads (t : List Char) : read (base ++ '/' :: t) =
        if scheme = "file" then readFile (rest ++ '/' :: t)
        else if isSpecial scheme then readWeb scheme (rest ++ '/' :: t)
        else readOther scheme (rest ++ '/' :: t) := by
      rw [read, scheme?_append, named]
      rfl
    by_cases file : scheme = "file"
    · subst file
      simp only [reads, if_true]
      exact exists_spot_file closed
    · by_cases special : isSpecial scheme = true
      · rw [opensAuthority, if_neg file, if_pos special] at closed
        simp only [reads, file, special, if_true, if_false]
        exact exists_spot_web special closed
      · rw [opensAuthority, if_neg file, if_neg special] at closed
        simp only [reads, file, special, Bool.false_eq_true, if_false]
        exact exists_spot_other (by simpa using special) (by simpa using closed)

end Gatehouse.Url
