import Gatehouse.Proofs.Url.Spot

/-!
# Links under a base

When the links that are made by writing texts behind a base are URLs under the URL of the
base: of the same origin, without query and fragment, and with the path that is meant.
-/

namespace Gatehouse.Url

/-- The host of a URL; one without a name does not count. -/
def host? (url : Url) : Option Host :=
  (url.authority.map (·.host)).filter (· ≠ .domain "")

/-- Where a URL is served: its scheme, its host and its port. -/
def origin (url : Url) : String × Option Host × Option Nat :=
  (url.scheme, url.host?, url.authority.bind (·.port))

/-- A text is a URL under another one: it has the same origin, neither query nor fragment, and the
    path of the other one without its last slashes in front of a suffix. -/
def IsUnder (url : Url) (suffix text : String) : Prop :=
  ∃ link, parse text = .ok link ∧ link.origin = url.origin ∧ link.query = none ∧
    link.fragment = none ∧ link.path.text = Text.trimSlashes url.path.text ++ suffix

/-- What is written behind a base and a slash: the paths of the login, the profile and the
    logout. -/
def linkTails : List String :=
  ["login/openid-connect", "profile", "logout/openid-connect"]

/-- A base behind which a slash and a name are not read as an authority. -/
def IsClosed (base : String) : Prop :=
  ∀ scheme rest, scheme? (cleanedFront base) = some (scheme, rest) →
    opensAuthority scheme rest = false

namespace Spot

variable {spot : Spot}

theorem origin_extend (spot : Spot) (t : List Char) :
    (spot.extend t).origin = (spot.extend []).origin := by
  unfold extend
  split <;> rfl

/-- A text is not lost in a query or a fragment exactly if the base and the text have none. -/
theorem bare_iff {t : List Char} :
    ((spot.extend t).query = none ∧ (spot.extend t).fragment = none) ↔
      spot.tail = [] ∧ (splitTail t).2 = [] := by
  unfold extend
  by_cases closed : spot.tail = []
  · rw [if_pos closed]
    simp only [closed, true_and]
    rw [← readTail_eq_none_iff (isSpecial spot.scheme), Prod.ext_iff]
  · rw [if_neg closed]
    simp only [closed, false_and, iff_false]
    intro none
    have nothing : spot.tail ++ '/' :: t = [] :=
      (readTail_eq_none_iff _).mp (Prod.ext none.1 none.2)
    simp at nothing

/-- The path of a place goes on with what is added. -/
theorem exists_text_extend (closed : spot.tail = []) (t : List Char) :
    ∃ more, (spot.extend t).path.text = (spot.extend []).path.text ++ more ∧
      ((∀ special, (Path.segments (segmentsOf special (splitTail t).1)).text =
          "/" ++ String.ofList t) → encodePart "" (splitTail t).1 = String.ofList t →
        more = String.ofList t) := by
  unfold extend
  rw [if_pos closed, if_pos closed, show (splitTail []).1 = [] from rfl]
  dsimp only
  cases spot.path with
  | opaqueText front =>
    refine ⟨encodePart "" (splitTail t).1, ?_, fun _ literal => literal⟩
    have nothing : encodePart "" [] = "" := rfl
    simp only [Path.extend, Path.text, nothing, String.append_empty]
  | segments front =>
    obtain ⟨first, rest, segments⟩ :=
      List.exists_cons_of_ne_nil (segmentsOf_ne_nil (isSpecial spot.scheme) (splitTail t).1)
    have nothing : segmentsOf (isSpecial spot.scheme) [] = [""] := rfl
    refine ⟨first ++ (Path.segments rest).text, ?_, fun literal _ => ?_⟩
    · have slash : (Path.segments [""]).text = "/" := rfl
      rw [Path.extend, Path.extend, segments, nothing, Path.text_segments_append,
        Path.text_segments_append, Path.text_segments_cons, slash]
      simp only [String.append_assoc]
    · have same := literal (isSpecial spot.scheme)
      rw [segments, Path.text_segments_cons, String.append_assoc, String.append_right_inj] at same
      exact same

end Spot

/-- A text that leads down behind a base is read at the place of the base. -/
theorem parse_append {base : String} (closed : IsClosed base) :
    ∃ spot : Except Fault Spot, ∀ t : String, Descends (cleanedBack t.toList) →
      parse (base ++ "/" ++ t) = spot.map (·.extend (cleanedBack t.toList)) := by
  obtain ⟨spot, same⟩ := exists_spot closed
  refine ⟨spot, fun t descends => ?_⟩
  rw [parse_eq_read, cleaned_append]
  exact same _ descends

theorem descends_nil : Descends (cleanedBack "".toList) := by decide

/-- The tails of links are read as they are written. -/
theorem linkTails_plain : ∀ t ∈ linkTails, Descends (cleanedBack t.toList) ∧
    cleanedBack t.toList = t.toList ∧ splitTail t.toList = (t.toList, []) ∧
    (∀ special, (Path.segments (segmentsOf special t.toList)).text = "/" ++ t) ∧
    encodePart "" t.toList = t := by
  decide

/-- Behind a base under a URL a text that leads down is read as a URL of the same origin, and with a
    path that begins as that of the base does. -/
theorem IsUnder.exists_extension {base : String} {url : Url} (closed : IsClosed base)
    (under : url.IsUnder "/" (base ++ "/")) {t : String}
    (descends : Descends (cleanedBack t.toList)) :
    ∃ spot : Spot, spot.tail = [] ∧
      parse (base ++ "/" ++ t) = .ok (spot.extend (cleanedBack t.toList)) ∧
      (spot.extend (cleanedBack t.toList)).origin = url.origin ∧
      (spot.extend []).path.text = Text.trimSlashes url.path.text ++ "/" := by
  obtain ⟨spot, same⟩ := parse_append closed
  obtain ⟨dir, parsed, origin, query, fragment, path⟩ := under
  have found := same "" descends_nil
  rw [String.append_empty, parsed] at found
  obtain ⟨spot, rfl, rfl⟩ := exists_of_map_eq_ok found.symm
  obtain ⟨tail, -⟩ := Spot.bare_iff.mp ⟨query, fragment⟩
  refine ⟨spot, tail, same t descends, ?_, path⟩
  rw [Spot.origin_extend]
  exact origin

/-- A base under a URL has links under it. -/
theorem IsUnder.link {base : String} {url : Url} (closed : IsClosed base)
    (under : url.IsUnder "/" (base ++ "/")) {t : String} (member : t ∈ linkTails) :
    url.IsUnder ("/" ++ t) (base ++ "/" ++ t) := by
  obtain ⟨descends, cleaned, bare, segments, literal⟩ := linkTails_plain t member
  obtain ⟨spot, tail, parsed, origin, path⟩ := under.exists_extension closed descends
  rw [cleaned] at parsed origin
  obtain ⟨more, text, plain⟩ := Spot.exists_text_extend tail t.toList
  rw [bare, String.ofList_toList] at plain
  have none := Spot.bare_iff.mpr ⟨tail, (by rw [bare] : (splitTail t.toList).2 = [])⟩
  refine ⟨_, parsed, origin, none.1, none.2, ?_⟩
  rw [text, plain segments literal, path, String.append_assoc]

/-- The tails of links of which the first segment could be taken for a host. -/
def hostNames : List String := ["login", "logout"]

theorem hostNames_plain : ∀ n ∈ hostNames, splitUser? n.toList = none ∧
    splitHost false n.toList = (n.toList, []) ∧ n.toList.isEmpty = false ∧
    n.toList.dropWhile isSlash = n.toList ∧
    ∀ special, n.toList.takeWhile (!endsAuthority special ·) = n.toList ∧
      n.toList.dropWhile (!endsAuthority special ·) = [] := by
  decide

theorem readHost_hostNames (scheme : String) {n : String} (name : n ∈ hostNames) :
    readHost scheme n.toList = .ok (.domain n) := by
  have special : ∀ n ∈ hostNames, (specialHost n.toList).toOption = some (.domain n) := by
    decide +kernel
  have other : ∀ n ∈ hostNames, (opaqueHost n.toList).toOption = some (.domain n) := by
    decide
  apply eq_ok_of_toOption
  rw [readHost]
  split
  · exact special n name
  · exact other n name

theorem readFileHost_hostNames {n : String} (name : n ∈ hostNames) :
    readFileHost n.toList = .ok (.domain n, []) := by
  have known : ∀ n ∈ hostNames, (readFileHost n.toList).toOption = some (.domain n, []) := by
    decide +kernel
  exact eq_ok_of_toOption (known n name)

/-- The authority that a name alone makes. -/
def Authority.ofName (name : String) : Authority := ⟨"", none, .domain name, none⟩

theorem readAuthority_hostNames (scheme : String) {n : String} (name : n ∈ hostNames)
    (more : List Char) :
    readAuthority scheme (n.toList ++ '/' :: more) = .ok (.ofName n, '/' :: more) := by
  obtain ⟨user, place, filled, -, ends⟩ := hostNames_plain n name
  have read : readPlace scheme n.toList = .ok (.ofName n, []) := by
    have noUser : readUser [] = ("", none) := rfl
    unfold readPlace readHostPort
    simp only [user, place, reduceCtorEq, false_and, if_false, Option.getD_none, noUser, filled,
      Bool.false_eq_true, readHost_hostNames scheme name]
    rfl
  rw [readAuthority_append, (ends _).1, (ends _).2, read]
  rfl

/-- The path of the login and of the logout behind the name that stands first. -/
def hostTail : List Char := '/' :: "openid-connect".toList

theorem filled_hostNames {n : String} (name : n ∈ hostNames) :
    (Option.some (Host.domain n)).filter (· ≠ .domain "") = some (.domain n) := by
  have known : ∀ n ∈ hostNames,
      (Option.some (Host.domain n)).filter (· ≠ .domain "") = some (.domain n) := by decide
  exact known n name

section Host

variable {scheme n : String} {link : Url} (name : n ∈ hostNames)
include name

theorem host?_readFile {c : Char} (slash : isSlash c = true)
    (parsed : readFile (c :: '/' :: (n.toList ++ hostTail)) = .ok link) :
    link.host? = some (.domain n) := by
  have driveless : (readFilePath (dropSlash (splitTail hostTail).1)).2 = false := by decide
  rw [readFile_eq, fileStart, slash, show isSlash '/' = true from rfl, Bool.and_self, if_pos rfl,
    hostTail, readFileHost_append, readFileHost_hostNames name] at parsed
  cases parsed
  rw [hostTail] at driveless
  simp only [host?, fileUrl, List.nil_append, driveless]
  exact filled_hostNames name

theorem host?_readWeb {rest : List Char} (slashes : rest.all isSlash = true)
    (parsed : readWeb scheme (rest ++ '/' :: (n.toList ++ hostTail)) = .ok link) :
    link.host? = some (.domain n) := by
  obtain ⟨-, -, filled, stays, -⟩ := hostNames_plain n name
  rw [List.all_eq_true] at slashes
  have dropped : (rest ++ '/' :: (n.toList ++ hostTail)).dropWhile isSlash =
      n.toList ++ hostTail := by
    rw [List.dropWhile_append_of_pos slashes, List.dropWhile_cons_of_pos rfl,
      List.dropWhile_append, stays, if_neg (by simpa using filled)]
  rw [readWeb_eq, dropped, hostTail, readAuthority_hostNames scheme name] at parsed
  cases parsed
  exact filled_hostNames name

theorem host?_readOther
    (parsed : readOther scheme ('/' :: '/' :: (n.toList ++ hostTail)) = .ok link) :
    link.host? = some (.domain n) := by
  rw [readOther_slashes, hostTail, readAuthority_hostNames scheme name] at parsed
  cases parsed
  exact filled_hostNames name

/-- Behind an open base the login and the logout are on hosts of their own. -/
theorem host?_of_opens {base rest : List Char} (front : scheme? base = some (scheme, rest))
    (opens : opensAuthority scheme rest = true)
    (parsed : read (base ++ '/' :: (n.toList ++ hostTail)) = .ok link) :
    link.host? = some (.domain n) := by
  rw [read, scheme?_append, front] at parsed
  dsimp only [Option.map_some] at parsed
  rw [opensAuthority] at opens
  split at parsed
  · rename_i file
    rw [if_pos file] at opens
    obtain ⟨c, rfl, slash⟩ : ∃ c, rest = [c] ∧ isSlash c = true := by
      unfold isLoneSlash at opens
      split at opens
      · exact ⟨_, rfl, opens⟩
      · cases opens
    exact host?_readFile name slash parsed
  · rename_i file
    rw [if_neg file] at opens
    split at parsed
    · rename_i special
      rw [if_pos special] at opens
      exact host?_readWeb name opens parsed
    · rename_i special
      rw [if_neg special, beq_iff_eq] at opens
      subst opens
      exact host?_readOther name parsed

end Host

/-- If all links of a base are under a URL, then the base is closed: otherwise the login and the
    logout would be on different hosts. -/
theorem isClosed_of_links {base : String} {url : Url}
    (links : ∀ t ∈ linkTails, url.IsUnder ("/" ++ t) (base ++ "/" ++ t)) : IsClosed base := by
  intro scheme rest front
  by_contra opens
  rw [Bool.not_eq_false] at opens
  have host {n : String} (name : n ∈ hostNames) : url.host? = some (.domain n) := by
    have tail : n ++ "/openid-connect" ∈ linkTails := by
      rcases List.mem_pair.mp name with rfl | rfl <;> decide
    have letters : cleanedBack (n ++ "/openid-connect").toList = n.toList ++ hostTail := by
      rcases List.mem_pair.mp name with rfl | rfl <;> decide
    obtain ⟨link, parsed, origin, -⟩ := links _ tail
    rw [parse_eq_read, cleaned_append, letters] at parsed
    have same : link.host? = url.host? := congrArg (fun origin => origin.2.1) origin
    rw [← same]
    exact host?_of_opens name front opens parsed
  have login := host (List.mem_cons_self)
  have logout := host (List.mem_cons_of_mem _ List.mem_cons_self)
  rw [login] at logout
  exact absurd logout (by decide)

/-- If the profile of a closed base is under a URL, then so is the base. -/
theorem isUnder_slash_of_profile {base : String} {url : Url} (closed : IsClosed base)
    (under : url.IsUnder "/profile" (base ++ "/" ++ "profile")) :
    url.IsUnder "/" (base ++ "/") := by
  obtain ⟨spot, same⟩ := parse_append closed
  obtain ⟨descends, cleaned, bare, segments, literal⟩ := linkTails_plain "profile" (by decide)
  obtain ⟨link, parsed, origin, query, fragment, path⟩ := under
  rw [same _ descends, cleaned] at parsed
  obtain ⟨spot, rfl, rfl⟩ := exists_of_map_eq_ok parsed
  obtain ⟨tail, -⟩ := Spot.bare_iff.mp ⟨query, fragment⟩
  obtain ⟨more, text, plain⟩ := Spot.exists_text_extend tail "profile".toList
  rw [bare, String.ofList_toList] at plain
  have none := Spot.bare_iff.mpr ⟨tail, (rfl : (splitTail []).2 = [])⟩
  have found := same "" descends_nil
  rw [String.append_empty] at found
  refine ⟨spot.extend [], found, ?_, none.1, none.2, ?_⟩
  · exact (Spot.origin_extend spot _).symm.trans origin
  · rw [text, plain segments literal, show "/profile" = "/" ++ "profile" from rfl,
      ← String.append_assoc] at path
    exact (String.append_left_inj _).mp path

/-- The links of a base are under a URL exactly if the base is, and does not open an authority. -/
theorem isUnder_links_iff {base : String} {url : Url} :
    (∀ t ∈ linkTails, url.IsUnder ("/" ++ t) (base ++ "/" ++ t)) ↔
      IsClosed base ∧ url.IsUnder "/" (base ++ "/") :=
  ⟨fun links => ⟨isClosed_of_links links,
      isUnder_slash_of_profile (isClosed_of_links links) (links "profile" (by decide))⟩,
    fun ⟨closed, under⟩ _ member => under.link closed member⟩

/-- Behind a base under a URL a text that leads down is a URL of the same origin, further down. -/
theorem IsUnder.exists_below {base : String} {url : Url} (closed : IsClosed base)
    (under : url.IsUnder "/" (base ++ "/")) {t : String}
    (descends : Descends (cleanedBack t.toList)) :
    ∃ link more, parse (base ++ "/" ++ t) = .ok link ∧ link.origin = url.origin ∧
      link.path.text = Text.trimSlashes url.path.text ++ "/" ++ more := by
  obtain ⟨spot, tail, parsed, origin, path⟩ := under.exists_extension closed descends
  obtain ⟨more, text, -⟩ := Spot.exists_text_extend tail (cleanedBack t.toList)
  exact ⟨_, more, parsed, origin, by rw [text, path]⟩

end Gatehouse.Url
