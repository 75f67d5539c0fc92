import Gatehouse.Text.Percent
import Gatehouse.Url.Basic
import Gatehouse.Url.Domain

/-!
# Reading URLs

A text is cut into its parts in the order of the parts: scheme, authority, path, query
and fragment.  What a part must not contain is written with percent signs; dot segments
are resolved; and a host is brought into the one form in which it is compared.
-/

namespace Gatehouse.Url

/-- Characters that are always written with percent signs. -/
def isEncodedAlways (c : Char) : Bool :=
  Ascii.isControl c || 0x80 ≤ c.toNat

/-- A part written with percent signs for control characters, characters above U+007F and `also`. -/
def encodePart (also : String) (cs : List Char) : String :=
  .ofList (Percent.encode (fun c => !isEncodedAlways c && !also.toList.contains c) cs)

/-- The characters that a fragment writes with percent signs. -/
def fragmentSet : String := " \"<>`"

/-- The characters that a query writes with percent signs. -/
def querySet : String := " \"#<>"

/-- The characters that the query of a special scheme writes with percent signs. -/
def specialQuerySet : String := querySet ++ "'"

/-- The characters that a path writes with percent signs. -/
def pathSet : String := fragmentSet ++ "#?\x7b\x7d"

/-- The characters that a user and a password write with percent signs. -/
def userSet : String := pathSet ++ "/:;=@[\\]^|"

/-- A text without control characters and spaces at its ends, and without tabs and line breaks. -/
def cleaned (s : String) : List Char :=
  (Text.trimBy (fun c => c.toNat ≤ 0x20) s.toList).filter fun c =>
    c != '\t' && c != '\n' && c != '\r'

/-- Whether a character may stand in a scheme behind its first letter. -/
def isSchemeChar (c : Char) : Bool :=
  Ascii.isAlphanumeric c || c == '+' || c == '-' || c == '.'

/-- The scheme in front of a text, and what follows its colon. -/
def scheme? (cs : List Char) : Option (String × List Char) :=
  match cs with
  | c :: _ =>
    if Ascii.isLetter c then
      match cs.dropWhile isSchemeChar with
      | ':' :: rest => some (.ofList ((cs.takeWhile isSchemeChar).map Ascii.lower), rest)
      | _ => none
    else none
  | [] => none

/-- Whether a character ends an authority. -/
def endsAuthority (special : Bool) (c : Char) : Bool :=
  c == '/' || c == '?' || c == '#' || (special && c == '\\')

/-- Splits a text at its last `@`. -/
def splitUser? (cs : List Char) : Option (List Char × List Char) :=
  let back := cs.reverse
  match back.dropWhile (· != '@') with
  | _ :: user => some (user.reverse, (back.takeWhile (· != '@')).reverse)
  | [] => none

/-- The user and the password of an authority. -/
def readUser (cs : List Char) : String × Option String :=
  match Text.cutAt? (· == ':') cs with
  | some (user, password) =>
    (encodePart userSet user, if password.isEmpty then none else some (encodePart userSet password))
  | none => (encodePart userSet cs, none)

/-- Splits a host from what follows it: the first colon that is not between brackets. -/
def splitHost : (inside : Bool) → List Char → List Char × List Char
  | _, [] => ([], [])
  | inside, c :: cs =>
    if c = ':' ∧ !inside then ([], c :: cs)
    else
      let (host, rest) := splitHost (c = '[' || (inside && c != ']')) cs
      (c :: host, rest)

/-- An address between brackets, if the host begins with one. -/
def bracketed? (cs : List Char) : Option (Except Fault Host) :=
  match cs with
  | '[' :: inner =>
    if cs.getLast? = some ']' then
      match ipv6? inner.dropLast with
      | some pieces => some (.ok (.ipv6 pieces))
      | none => some (.error .invalidIpv6)
    else some (.error .invalidIpv6)
  | _ => none

/-- The host of a special scheme: a domain name or an address. -/
def specialHost (cs : List Char) : Except Fault Host :=
  match bracketed? cs with
  | some result => result
  | none =>
    match (Percent.decodeText? cs).bind Domain.toAscii? with
    | none => .error .invalidDomain
    | some name =>
      if name.isEmpty then .error .emptyHost
      else if endsInNumber name then
        match ipv4? name with
        | some address => .ok (.ipv4 address)
        | none => .error .invalidIpv4
      else .ok (.domain (.ofList name))

/-- Whether a character must not occur in a host of another scheme. -/
def isForbiddenHostChar (c : Char) : Bool :=
  "\x00\t\n\r #/:<>?@[\\]^|".toList.contains c

/-- The host of another scheme, which is kept as it is. -/
def opaqueHost (cs : List Char) : Except Fault Host :=
  match bracketed? cs with
  | some result => result
  | none =>
    if cs.any isForbiddenHostChar then .error .invalidHostCharacter
    else .ok (.domain (encodePart "" cs))

/-- The number that decimal digits write, if it is a port. -/
def port? (digits : List Char) : Option Nat :=
  match Ascii.natural? digits with
  | some n => if n ≤ 65535 then some n else none
  | none => none

/-- The port behind a colon, and what follows it; no digits mean no port. -/
def readPort (scheme : String) (cs : List Char) : Except Fault (Option Nat × List Char) :=
  let digits := cs.takeWhile Ascii.isDigit
  let rest := cs.dropWhile Ascii.isDigit
  if !digits.isEmpty && (port? digits).isNone then .error .invalidPort
  else
    let port := port? digits
    match rest with
    | c :: _ =>
      if c = '\\' then .ok (if port = defaultPort? scheme then none else port, rest)
      else .error .invalidPort
    | [] => .ok (if port = defaultPort? scheme then none else port, [])

/-- The authority in front of a text, and what follows it. -/
def readAuthority (scheme : String) (cs : List Char) : Except Fault (Authority × List Char) := do
  let special := isSpecial scheme
  let whole := cs.takeWhile (!endsAuthority special ·)
  let after := cs.dropWhile (!endsAuthority special ·)
  let (user, place) :=
    match splitUser? whole with
    | some (user, place) => (some user, place)
    | none => (none, whole)
  if user = some [] ∧ place.isEmpty ∧ !after.isEmpty then .error .emptyHost
  let (username, password) := readUser (user.getD [])
  let (hostText, rest) := splitHost false place
  if hostText.isEmpty then
    if special ∨ !rest.isEmpty ∨ !username.isEmpty ∨ password.isSome then .error .emptyHost
    else .ok (⟨"", none, .domain "", none⟩, after)
  else
    let host ← if special then specialHost hostText else opaqueHost hostText
    match rest with
    | _ :: digits =>
      let (port, rest) ← readPort scheme digits
      .ok (⟨username, password, host, port⟩, rest ++ after)
    | [] => .ok (⟨username, password, host, none⟩, after)

/-- Whether a segment stands for the present place. -/
def isSingleDot (segment : String) : Bool :=
  segment == "." || segment == "%2e" || segment == "%2E"

/-- Whether a segment stands for the place above. -/
def isDoubleDot (segment : String) : Bool :=
  Ascii.lowerString segment == ".." || Ascii.lowerString segment == ".%2e" ||
    Ascii.lowerString segment == "%2e." || Ascii.lowerString segment == "%2e%2e"

/-- Whether a segment is a letter and a colon. -/
def isDrive (segment : String) : Bool :=
  match segment.toList with
  | [letter, ':'] => Ascii.isLetter letter
  | _ => false

/-- Resolves segments, of which `done` have gone before, the last one first.  The first letter of
    a file path may name a drive, above which nothing leads. -/
def resolve (file : Bool) : (done : List String) → List String → List String
  | done, [] => done.reverse
  | done, segment :: rest =>
    if isDoubleDot segment then
      let above := match done with
        | [] => []
        | [first] => if file && isDrive first then [first] else []
        | _ :: above => above
      resolve file (if rest.isEmpty then "" :: above else above) rest
    else if isSingleDot segment then
      resolve file (if rest.isEmpty then "" :: done else done) rest
    else
      resolve file (segment :: done) rest

/-- The letter of a segment of the form `c|` or `c:` as a drive. -/
def drive? (segment : List Char) : Option (List Char) :=
  match segment with
  | [letter, mark] =>
    if Ascii.isLetter letter ∧ (mark = ':' ∨ mark = '|') then some [letter, ':'] else none
  | _ => none

/-- The segments of a path without its first slash. -/
def readSegments (special : Bool) (cs : List Char) : List (List Char) :=
  Text.splitBy (fun c => c == '/' || (special && c == '\\')) cs

/-- A path behind its first slash. -/
def readPath (special : Bool) (cs : List Char) : Path :=
  .segments (resolve false [] ((readSegments special cs).map (encodePart pathSet)))

/-- The path of a file behind its first slash: without empty segments in front, and with a drive
    in its usual form.  Also says whether it begins with a drive. -/
def readFilePath (cs : List Char) : Path × Bool :=
  let raw := readSegments true cs
  let (raw, hasDrive) := match raw with
    | first :: rest =>
      match drive? first with
      | some drive => (drive :: rest, true)
      | none => (raw, false)
    | [] => (raw, false)
  let segments := resolve true [] (raw.map (encodePart pathSet))
  let trimmed := segments.dropWhile String.isEmpty
  (.segments (if trimmed.isEmpty then [""] else trimmed), hasDrive)

/-- Splits a text in front of its query and fragment. -/
def splitTail (cs : List Char) : List Char × List Char :=
  (cs.takeWhile (fun c => c != '?' && c != '#'), cs.dropWhile (fun c => c != '?' && c != '#'))

/-- The query and the fragment that a text consists of. -/
def readTail (special : Bool) (cs : List Char) : Option String × Option String :=
  let fragment (cs : List Char) : Option String :=
    match cs with
    | _ :: rest => some (encodePart fragmentSet rest)
    | [] => none
  match cs with
  | '?' :: rest =>
    (some (encodePart (if special then specialQuerySet else querySet) (rest.takeWhile (· != '#'))),
      fragment (rest.dropWhile (· != '#')))
  | _ => (none, fragment cs)

/-- Whether a character is a slash of either kind. -/
def isSlash (c : Char) : Bool :=
  c == '/' || c == '\\'

/-- A text without one slash in front. -/
def dropSlash (cs : List Char) : List Char :=
  match cs with
  | c :: rest => if isSlash c then rest else cs
  | [] => []

/-- A URL of a scheme of the web, behind the scheme. -/
def readWeb (scheme : String) (cs : List Char) : Except Fault Url := do
  let (authority, rest) ← readAuthority scheme (cs.dropWhile isSlash)
  let (path, tail) := splitTail rest
  let (query, fragment) := readTail true tail
  .ok ⟨scheme, some authority, readPath true (dropSlash path), query, fragment⟩

/-- The host of a file URL and what follows it. -/
def readFileHost (cs : List Char) : Except Fault (Host × List Char) :=
  let ends (c : Char) : Bool := c == '/' || c == '\\' || c == '?' || c == '#'
  let text := cs.takeWhile (!ends ·)
  if (drive? text).isSome then .ok (.domain "", cs)
  else if text.isEmpty then .ok (.domain "", cs)
  else
    match specialHost text with
    | .error fault => .error fault
    | .ok host =>
      .ok (if host = .domain "localhost" then .domain "" else host, cs.dropWhile (!ends ·))

/-- A file URL, behind the scheme. -/
def readFile (cs : List Char) : Except Fault Url := do
  let (host, rest) ←
    match cs with
    | a :: b :: rest => if isSlash a && isSlash b then readFileHost rest else .ok (.domain "", cs)
    | _ => .ok (.domain "", cs)
  let (path, tail) := splitTail rest
  let (path, hasDrive) := readFilePath (dropSlash path)
  let (query, fragment) := readTail true tail
  .ok ⟨"file", some ⟨"", none, if hasDrive then .domain "" else host, none⟩, path, query, fragment⟩

/-- A URL of any other scheme, behind the scheme. -/
def readOther (scheme : String) (cs : List Char) : Except Fault Url := do
  match cs with
  | '/' :: '/' :: rest =>
    let (authority, rest) ← readAuthority scheme rest
    let (path, tail) := splitTail rest
    let (query, fragment) := readTail false tail
    let path := match path with
      | [] => .segments []
      | '/' :: path => readPath false path
      | path => readPath false path
    .ok ⟨scheme, some authority, path, query, fragment⟩
  | _ =>
    let (path, tail) := splitTail cs
    let (query, fragment) := readTail false tail
    let path := match path with
      | '/' :: path => readPath false path
      | path => .opaqueText (encodePart "" path)
    .ok ⟨scheme, none, path, query, fragment⟩

/-- Reads a URL. -/
def parse (s : String) : Except Fault Url :=
  match scheme? (cleaned s) with
  | none => .error .noScheme
  | some (scheme, rest) =>
    if scheme = "file" then readFile rest
    else if isSpecial scheme then readWeb scheme rest
    else readOther scheme rest

end Gatehouse.Url
