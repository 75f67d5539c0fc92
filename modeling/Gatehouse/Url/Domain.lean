import Gatehouse.Text.Blank
import Gatehouse.Text.Case
import Gatehouse.Text.Normal
import Gatehouse.Text.Property.Printing
import Gatehouse.Url.Domain.Folding
import Gatehouse.Url.Punycode

/-!
# Domain names

A domain name in ASCII: letters in lower case, and each label with other characters
folded, composed and written with Punycode behind `xn--`.
-/

namespace Gatehouse.Url.Domain

/-- Whether an ASCII character must not occur in a domain name. -/
def isForbidden (c : Char) : Bool :=
  c.toNat ≤ 0x20 || c.toNat == 0x7F || "%#/:<>?@[\\]^|".toList.contains c

/-- What a character stands for according to the table. -/
def folded? (c : Char) : Option (List Char) :=
  folds.findSome? fun (first, images) =>
    if first ≤ c.toNat then (Text.splitBy (· == ' ') images.toList)[c.toNat - first]? else none

/-- The two characters that are kept although their other case differs, and the two joiners. -/
def isKept (c : Char) : Bool :=
  "ßς\u200c\u200d".toList.contains c

/-- What a character stands for in a domain name; nothing when it may not occur in one. -/
def fold? (c : Char) : Option (List Char) :=
  if c.toNat < 0x80 then some [Ascii.lower c]
  else if isKept c then some [c]
  else if Text.Ranges.has ignored c then some []
  else if Text.Ranges.has refused c then none
  else
    match folded? c with
    | some image => some image
    | none => if Text.unprintable.has c then none else some (Text.lowerChar c)

/-- The mark of a label that is written with Punycode. -/
def punycodeMark : List Char := ['x', 'n', '-', '-']

/-- Whether a label with characters above U+007F may be written with Punycode. -/
def isLabel (label : List Char) : Bool :=
  label.all (fun c => fold? c == some [c] && (0x80 ≤ c.toNat || !isForbidden c)) &&
    (match label with
      | c :: _ => !Text.graphemeExtend.has c
      | [] => false) &&
    Text.composed label == label

/-- A folded label in ASCII. -/
def labelToAscii? (label : List Char) : Option (List Char) :=
  if punycodeMark.isPrefixOf label then
    match Punycode.decode? (label.drop punycodeMark.length) with
    | some inner =>
      if isLabel inner && inner.any (0x80 ≤ ·.toNat) && label.all (·.toNat < 0x80) then some label
      else none
    | none => none
  else if label.all (·.toNat < 0x80) then
    if label.any isForbidden then none else some label
  else if isLabel label then
    some (punycodeMark ++ Punycode.encode label)
  else none

/-- Labels with dots between them. -/
def joinLabels : List (List Char) → List Char
  | [] => []
  | [label] => label
  | label :: next :: rest => label ++ '.' :: joinLabels (next :: rest)

/-- A domain name in ASCII, if it is one. -/
def toAscii? (name : List Char) : Option (List Char) := do
  let images ← name.mapM fold?
  let text := Text.composed images.flatten
  let labels ← (Text.splitBy (· == '.') text).mapM labelToAscii?
  some (joinLabels labels)

end Gatehouse.Url.Domain
