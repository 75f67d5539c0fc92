import Gatehouse.Cookie.Pair
import Gatehouse.Hash.Hmac
import Gatehouse.Hash.Sha512
import Gatehouse.Text.Base64

/-!
# Signed cookies

A signed value carries its tag in front: 44 letters of Base64 for the 32 octets of a
keyed hash.  The tag covers the value and not the name of the cookie.
-/

namespace Gatehouse.Cookie

/-- A key for tags. -/
structure SigningKey where
  octets : List UInt8
deriving DecidableEq, Repr

namespace SigningKey

/-- The key of a secret text. -/
def ofSecret (secret : String) : SigningKey :=
  ⟨(Sha512.digest (Utf8.octets secret)).octets.take 32⟩

/-- The letters of a tag. -/
def tagLength : Nat := 44

/-- The tag of a value. -/
def tag (key : SigningKey) (value : List Char) : List Char :=
  Base64.encode Base64.usual (Hmac.tag key.octets (Utf8.encode value)).octets

/-- A value behind its tag. -/
def sign (key : SigningKey) (value : String) : String :=
  .ofList (key.tag value.toList ++ value.toList)

/-- The value of a text that begins with the value's tag. -/
def verify? (key : SigningKey) (text : String) : Option String :=
  let value := text.toList.drop tagLength
  if text.toList.take tagLength = key.tag value then some (.ofList value) else none

end SigningKey

/-- The pairs with a verified tag, each with the value behind it. -/
def verifiedPairs (key : SigningKey) (pairs : List Pair) : List Pair :=
  pairs.filterMap fun pair => (key.verify? pair.value).map fun value => ⟨pair.name, value⟩

/-- The value of the last pair of a name. -/
def lastValue? (pairs : List Pair) (name : String) : Option String :=
  (pairs.findRev? (·.name == name)).map (·.value)

/-- Puts a pair among pairs in the order of their names, in place of one of the same name. -/
def placePair (kept : List Pair) (pair : Pair) : List Pair :=
  kept.filter (·.name < pair.name) ++ pair :: kept.filter (pair.name < ·.name)

/-- The names of pairs in their order, each once, with the value of the last pair of the name. -/
def lastOfEach (pairs : List Pair) : List Pair :=
  pairs.foldl placePair []

end Gatehouse.Cookie
