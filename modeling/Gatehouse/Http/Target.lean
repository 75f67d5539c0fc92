import Gatehouse.Text.Ascii
import Gatehouse.Text.Utf8

/-!
# Request targets

What a request asks for: a path with a query, a whole address, an authority alone, or
an asterisk.  The same grammar decides which addresses can be asked for at all.
-/

namespace Gatehouse.Http

/-- A request target.  A fragment is cut off. -/
structure Target where
  scheme : Option String
  authority : Option String
  /-- The path, which begins with a slash; it is empty for an authority alone. -/
  path : String
  query : Option String
deriving DecidableEq, Repr

/-- Why a text is no request target. -/
inductive TargetFault where
  | invalidCharacter
  | invalidAuthority
  | invalidFormat
  | tooLong
  | schemeTooLong
  | empty
deriving DecidableEq, Repr

/-- The wording of a fault. -/
def TargetFault.message : TargetFault → String
  | .invalidCharacter => "invalid uri character"
  | .invalidAuthority => "invalid authority"
  | .invalidFormat => "invalid format"
  | .tooLong => "uri too long"
  | .schemeTooLong => "scheme too long"
  | .empty => "empty string"

namespace Target

/-- The greatest length of a target in octets. -/
def maxLength : Nat := 65534

/-- The greatest length of a scheme. -/
def maxSchemeLength : Nat := 64

/-- The greatest number of colons in one part of an authority. -/
def maxColons : Nat := 8

/-- Whether a character may stand in a path. -/
def isPathChar (c : Char) : Bool :=
  let n := c.toNat
  n == 0x21 || (0x24 ≤ n && n ≤ 0x3B) || n == 0x3D || (0x40 ≤ n && n ≤ 0x5F) ||
    (0x61 ≤ n && n ≤ 0x7A) || n == 0x7C || 0x7E ≤ n || "\"\x7b\x7d".toList.contains c

/-- Whether a character may stand in a query. -/
def isQueryChar (c : Char) : Bool :=
  let n := c.toNat
  n == 0x21 || (0x24 ≤ n && n ≤ 0x3B) || n == 0x3D || 0x3F ≤ n

/-- Whether a character may stand in a scheme in front of a colon. -/
def isSchemeChar (c : Char) : Bool :=
  Ascii.isAlphanumeric c || "+-.~".toList.contains c

/-- Whether a character ends an authority. -/
def endsAuthority (c : Char) : Bool :=
  c == '/' || c == '?' || c == '#'

/-- Whether a character may stand anywhere in an authority. -/
def isAuthorityChar (c : Char) : Bool :=
  Ascii.isAlphanumeric c || "!$&'()*+,-.;=_~".toList.contains c

/-- A text without what begins with a number sign. -/
def dropFragment (cs : List Char) : List Char :=
  cs.takeWhile (· != '#')

/-- A path and a query. -/
def readPath (cs : List Char) : Except TargetFault (List Char × Option (List Char)) :=
  let path := cs.takeWhile fun c => c != '?' && c != '#'
  let query := match cs.dropWhile fun c => c != '?' && c != '#' with
    | '?' :: rest => some (dropFragment rest)
    | _ => none
  if path.all isPathChar && (query.getD []).all isQueryChar then .ok (path, query)
  else .error .invalidCharacter

/-- The scheme in front of a text, if there is one, and what follows `://`. -/
def readScheme (cs : List Char) : Except TargetFault (Option (List Char × List Char)) :=
  let front := cs.takeWhile isSchemeChar
  match cs.dropWhile isSchemeChar with
  | ':' :: '/' :: '/' :: rest =>
    if front.length ≤ maxSchemeLength then .ok (some (front, rest)) else .error .schemeTooLong
  | _ => .ok none

/-- What is known of an authority while it is read. -/
structure Scan where
  /-- The colons since the last `@` and outside of brackets. -/
  colons : Nat
  percent : Bool
  bracketOpen : Bool
  bracketClosed : Bool
  /-- Whether the last character was an `@`. -/
  atLast : Bool
deriving DecidableEq, Repr

/-- The next character of an authority. -/
def Scan.step (scan : Scan) (c : Char) : Except TargetFault Scan :=
  let scan := { scan with atLast := false }
  if c = ':' then
    if maxColons ≤ scan.colons then .error .invalidAuthority
    else .ok { scan with colons := scan.colons + 1 }
  else if c = '[' then
    if scan.percent ∨ scan.bracketOpen then .error .invalidAuthority
    else .ok { scan with bracketOpen := true }
  else if c = ']' then
    if !scan.bracketOpen ∨ scan.bracketClosed then .error .invalidAuthority
    else .ok { scan with colons := 0, percent := false, bracketClosed := true }
  else if c = '@' then
    .ok { scan with colons := 0, percent := false, atLast := true }
  else if c = '%' then
    .ok { scan with percent := true }
  else if isAuthorityChar c then
    .ok scan
  else
    .error .invalidCharacter

/-- Checks an authority: brackets come in a pair, only one colon is left for the port, a host
    follows the user, and a percent sign occurs in the user alone. -/
def checkAuthority (cs : List Char) : Except TargetFault Unit := do
  let scan ← cs.foldlM Scan.step ⟨0, false, false, false, false⟩
  if scan.bracketOpen != scan.bracketClosed ∨ 1 < scan.colons ∨ scan.atLast ∨ scan.percent then
    .error .invalidAuthority
  else
    .ok ()

/-- A target that does not begin with a slash. -/
def readWhole (cs : List Char) : Except TargetFault Target := do
  let found ← readScheme cs
  let (scheme, rest) :=
    match found with
    | some (scheme, rest) => (some (String.ofList scheme), rest)
    | none => (none, cs)
  let authority := rest.takeWhile (!endsAuthority ·)
  let after := rest.dropWhile (!endsAuthority ·)
  checkAuthority authority
  match scheme with
  | none =>
    if after.isEmpty then .ok ⟨none, some (.ofList authority), "", none⟩ else .error .invalidFormat
  | some scheme =>
    if authority.isEmpty then .error .invalidFormat
    else
      let (path, query) ← readPath after
      .ok
        ⟨some scheme, some (.ofList authority), if path.isEmpty then "/" else .ofList path,
          query.map .ofList⟩

/-- Reads a request target. -/
def parse (s : String) : Except TargetFault Target :=
  if maxLength < s.utf8ByteSize then .error .tooLong
  else
    match s.toList with
    | [] => .error .empty
    | ['*'] => .ok ⟨none, none, "*", none⟩
    | '/' :: rest => do
      let (path, query) ← readPath ('/' :: rest)
      .ok ⟨none, none, .ofList path, query.map .ofList⟩
    | [c] => if endsAuthority c then .error .invalidCharacter else readWhole [c]
    | cs => readWhole cs

end Target

end Gatehouse.Http
