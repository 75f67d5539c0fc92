import Gatehouse.Url.Address

/-!
# URLs

A URL by its parts, each in the form in which it is written.
-/

namespace Gatehouse

/-- The host of a URL. -/
inductive Url.Host where
  | domain (name : String)
  | ipv4 (address : Nat)
  | ipv6 (pieces : List Nat)
deriving DecidableEq, Repr

/-- The text of a host. -/
def Url.Host.text : Url.Host → String
  | .domain name => name
  | .ipv4 address => Url.ipv4Text address
  | .ipv6 pieces => "[" ++ Url.ipv6Text pieces ++ "]"

/-- The path of a URL: one opaque text, or segments with a slash in front of each. -/
inductive Url.Path where
  | opaqueText (text : String)
  | segments (list : List String)
deriving DecidableEq, Repr

/-- The text of a path. -/
def Url.Path.text : Url.Path → String
  | .opaqueText text => text
  | .segments list => list.foldl (fun text segment => text ++ "/" ++ segment) ""

/-- The part of a URL between the double slash and the path. -/
structure Url.Authority where
  username : String
  password : Option String
  host : Url.Host
  port : Option Nat
deriving DecidableEq, Repr

/-- The user and the password in front of a host. -/
def Url.Authority.userText (authority : Url.Authority) : String :=
  match authority.password with
  | some password => authority.username ++ ":" ++ password ++ "@"
  | none => if authority.username.isEmpty then "" else authority.username ++ "@"

/-- The host with the port, if one is written. -/
def Url.Authority.hostText (authority : Url.Authority) : String :=
  authority.host.text ++
    match authority.port with
    | some port => ":" ++ toString port
    | none => ""

/-- A URL.  The query and the fragment are without their question mark and number sign. -/
structure Url where
  scheme : String
  authority : Option Url.Authority
  path : Url.Path
  query : Option String
  fragment : Option String
deriving DecidableEq, Repr

namespace Url

/-- Why a text is no URL. -/
inductive Fault where
  | emptyHost
  | invalidDomain
  | invalidPort
  | invalidIpv4
  | invalidIpv6
  | invalidHostCharacter
  | noScheme
deriving DecidableEq, Repr

/-- The wording of a fault. -/
def Fault.message : Fault → String
  | .emptyHost => "empty host"
  | .invalidDomain => "invalid international domain name"
  | .invalidPort => "invalid port number"
  | .invalidIpv4 => "invalid IPv4 address"
  | .invalidIpv6 => "invalid IPv6 address"
  | .invalidHostCharacter => "invalid domain character"
  | .noScheme => "relative URL without a base"

/-- The port that a scheme uses unless another one is written; only the schemes of the web and
    of file transfer have one. -/
def defaultPort? (scheme : String) : Option Nat :=
  match scheme with
  | "http" => some 80
  | "ws" => some 80
  | "https" => some 443
  | "wss" => some 443
  | "ftp" => some 21
  | _ => none

/-- Whether a scheme always has a host and a path of segments. -/
def isSpecial (scheme : String) : Bool :=
  (defaultPort? scheme).isSome || scheme == "file"

/-- What stands between the scheme and the path: an authority, or what keeps a path with an empty
    first segment from being read as one. -/
def frontText (url : Url) : String :=
  match url.authority, url.path with
  | some authority, _ => "//" ++ authority.userText ++ authority.hostText
  | none, .segments ("" :: _ :: _) => "/."
  | none, _ => ""

/-- A mark and a text, if there is one. -/
def marked (mark : String) : Option String → String
  | some text => mark ++ text
  | none => ""

/-- The text of a URL. -/
def text (url : Url) : String :=
  url.scheme ++ ":" ++ url.frontText ++ url.path.text ++ marked "?" url.query ++
    marked "#" url.fragment

end Url

end Gatehouse
