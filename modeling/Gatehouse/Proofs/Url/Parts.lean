import Gatehouse.Proofs.Text.Percent
import Gatehouse.Proofs.Url.Extension

/-!
# The parts of which URLs are read

A URL is of a file, of the web, of another scheme with an authority, or has none.  Each kind is
read from what is behind the scheme and the authority.
-/

namespace Gatehouse.Url

/-- What is behind the authority of a URL of the web. -/
def webUrl (scheme : String) (authority : Authority) (rest : List Char) : Url :=
  ⟨scheme, some authority, readPath true (dropSlash (splitTail rest).1),
    (readTail true (splitTail rest).2).1, (readTail true (splitTail rest).2).2⟩

theorem readWeb_eq (scheme : String) (cs : List Char) :
    readWeb scheme cs =
      (readAuthority scheme (cs.dropWhile isSlash)).map
        fun (authority, rest) => webUrl scheme authority rest := by
  simp only [readWeb, bind, Except.bind]
  cases readAuthority scheme (cs.dropWhile isSlash) <;> rfl

/-- The path of a URL of another scheme with an authority, which may be empty. -/
def hostedPath : List Char → Path
  | [] => .segments []
  | '/' :: path => readPath false path
  | path => readPath false path

/-- What is behind the authority of a URL of another scheme. -/
def hostedUrl (scheme : String) (authority : Authority) (rest : List Char) : Url :=
  ⟨scheme, some authority, hostedPath (splitTail rest).1, (readTail false (splitTail rest).2).1,
    (readTail false (splitTail rest).2).2⟩

/-- The path of a URL without an authority. -/
def barePath : List Char → Path
  | '/' :: path => readPath false path
  | path => .opaqueText (encodePart "" path)

/-- What is behind the scheme of a URL without an authority. -/
def bareUrl (scheme : String) (cs : List Char) : Url :=
  ⟨scheme, none, barePath (splitTail cs).1, (readTail false (splitTail cs).2).1,
    (readTail false (splitTail cs).2).2⟩

theorem readOther_slashes (scheme : String) (cs : List Char) :
    readOther scheme ('/' :: '/' :: cs) =
      (readAuthority scheme cs).map fun (authority, rest) => hostedUrl scheme authority rest := by
  simp only [readOther, bind, Except.bind]
  cases readAuthority scheme cs <;> rfl

theorem readOther_of_ne (scheme : String) {cs : List Char}
    (bare : ∀ rest, cs ≠ '/' :: '/' :: rest) :
    readOther scheme cs = .ok (bareUrl scheme cs) := by
  unfold readOther
  split
  · exact absurd rfl (bare _)
  · rfl

theorem barePath_of_ne {cs : List Char} (bare : ∀ rest, cs ≠ '/' :: rest) :
    barePath cs = .opaqueText (encodePart "" cs) := by
  unfold barePath
  split
  · exact absurd rfl (bare _)
  · rfl

theorem exists_segments_hostedPath (cs : List Char) : ∃ list, hostedPath cs = .segments list := by
  unfold hostedPath
  split
  · exact ⟨_, rfl⟩
  · exact ⟨_, rfl⟩
  · exact ⟨_, rfl⟩

/-- What is behind the host of a file URL. -/
def fileUrl (host : Host) (rest : List Char) : Url :=
  let path := readFilePath (dropSlash (splitTail rest).1)
  ⟨"file", some ⟨"", none, if path.2 then .domain "" else host, none⟩, path.1,
    (readTail true (splitTail rest).2).1, (readTail true (splitTail rest).2).2⟩

/-- The host of a file URL and what follows it; without two slashes there is none. -/
def fileStart : List Char → Except Fault (Host × List Char)
  | a :: b :: rest =>
    if isSlash a && isSlash b then readFileHost rest else .ok (.domain "", a :: b :: rest)
  | cs => .ok (.domain "", cs)

theorem readFile_eq (cs : List Char) :
    readFile cs = (fileStart cs).map fun (host, rest) => fileUrl host rest := by
  match cs with
  | [] => rfl
  | [_] => rfl
  | a :: b :: rest =>
    simp only [readFile, fileStart, bind, Except.bind]
    split
    · cases readFileHost rest <;> rfl
    · rfl

/-- The ways in which a text is read as a URL. -/
inductive IsRead (cs : List Char) : Url → Prop where
  | file {rest more : List Char} {host : Host} (front : scheme? cs = some ("file", rest))
      (start : fileStart rest = .ok (host, more)) : IsRead cs (fileUrl host more)
  | web {scheme : String} {rest more : List Char} {authority : Authority}
      (front : scheme? cs = some (scheme, rest)) (special : isSpecial scheme = true)
      (other : scheme ≠ "file")
      (start : readAuthority scheme (rest.dropWhile isSlash) = .ok (authority, more)) :
      IsRead cs (webUrl scheme authority more)
  | hosted {scheme : String} {rest more : List Char} {authority : Authority}
      (front : scheme? cs = some (scheme, '/' :: '/' :: rest)) (other : isSpecial scheme = false)
      (start : readAuthority scheme rest = .ok (authority, more)) :
      IsRead cs (hostedUrl scheme authority more)
  | bare {scheme : String} {rest : List Char} (front : scheme? cs = some (scheme, rest))
      (other : isSpecial scheme = false) (bare : ∀ more, rest ≠ '/' :: '/' :: more) :
      IsRead cs (bareUrl scheme rest)

/-- There is no other way. -/
theorem isRead_of_read {cs : List Char} {url : Url} (parsed : read cs = .ok url) :
    IsRead cs url := by
  rw [read] at parsed
  split at parsed
  · cases parsed
  · rename_i scheme rest front
    split at parsed
    · rename_i file
      subst file
      rw [readFile_eq] at parsed
      obtain ⟨⟨host, more⟩, start, rfl⟩ := exists_of_map_eq_ok parsed
      exact .file front start
    · rename_i file
      split at parsed
      · rename_i special
        rw [readWeb_eq] at parsed
        obtain ⟨⟨authority, more⟩, start, rfl⟩ := exists_of_map_eq_ok parsed
        exact .web front special file start
      · rename_i special
        rw [Bool.not_eq_true] at special
        by_cases hosted : ∃ more, rest = '/' :: '/' :: more
        · obtain ⟨more, rfl⟩ := hosted
          rw [readOther_slashes] at parsed
          obtain ⟨⟨authority, more⟩, start, rfl⟩ := exists_of_map_eq_ok parsed
          exact .hosted front special start
        · have bare : ∀ more, rest ≠ '/' :: '/' :: more := fun more same => hosted ⟨more, same⟩
          rw [readOther_of_ne scheme bare] at parsed
          cases parsed
          exact .bare front special bare

section Opaque

variable {cs : List Char} {url : Url} {text : String}

/-- An opaque path is the path of a URL without an authority. -/
theorem IsRead.exists_barePath (read : IsRead cs url) (path : url.path = .opaqueText text) :
    ∃ rest, barePath rest = .opaqueText text := by
  cases read with
  | file => cases path
  | web => cases path
  | hosted =>
    obtain ⟨segments, same⟩ := exists_segments_hostedPath _
    cases same.symm.trans path
  | bare => exact ⟨_, path⟩

/-- A text that does not begin with a slash does not begin with one when it is encoded. -/
theorem encodePart_ne_slash (also : String) {cs : List Char} (bare : ∀ rest, cs ≠ '/' :: rest)
    (rest : String) : encodePart also cs ≠ "/" ++ rest := by
  intro slash
  have letters := congrArg String.toList slash
  have front : ("/" ++ rest).toList = '/' :: rest.toList := by
    rw [String.toList_append]
    rfl
  rw [encodePart, String.toList_ofList, Percent.encode, front] at letters
  cases cs with
  | nil => cases letters
  | cons c cs =>
    rw [List.flatMap_cons] at letters
    split at letters
    · obtain ⟨rfl, -⟩ := List.cons.inj letters
      exact bare cs rfl
    · obtain ⟨lead, more, octets, -⟩ := Utf8.front_encodeChar c []
      rw [Percent.escapeChar, octets, List.flatMap_cons, Percent.escape, List.cons_append,
        List.cons_append] at letters
      exact absurd (List.cons.inj letters).1 (by decide)

/-- An opaque path does not begin with a slash. -/
theorem opaqueText_ne_slash {given : String} (parsed : parse given = .ok url)
    (path : url.path = .opaqueText text) (rest : String) : text ≠ "/" ++ rest := by
  obtain ⟨cs, same⟩ := (isRead_of_read parsed).exists_barePath path
  by_cases slash : ∃ more, cs = '/' :: more
  · obtain ⟨more, rfl⟩ := slash
    cases same
  · have bare : ∀ more, cs ≠ '/' :: more := fun more letters => slash ⟨more, letters⟩
    rw [barePath_of_ne bare] at same
    cases same
    exact encodePart_ne_slash "" bare rest

end Opaque

end Gatehouse.Url
