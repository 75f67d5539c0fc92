import Gatehouse.Text.Ascii
import Gatehouse.Text.Utf8

/-!
# Percent encoding

An octet written as a percent sign and two hexadecimal digits.  Which characters
stand for themselves is a parameter, as every place of a URL, a form and a cookie
has its own set.  A percent sign without two digits after it stands for itself.
-/

namespace Gatehouse.Percent

/-- An octet as a percent sign and two upper-case digits. -/
def escape (octet : UInt8) : List Char :=
  ['%', Ascii.upperHexDigit (octet.toNat / 16), Ascii.upperHexDigit (octet.toNat % 16)]

/-- All octets of a character, each written with a percent sign. -/
def escapeChar (c : Char) : List Char :=
  (Utf8.encodeChar c).flatMap escape

/-- Writes a text so that only characters of `keep` stand for themselves. -/
def encode (keep : Char → Bool) (cs : List Char) : List Char :=
  cs.flatMap fun c => if keep c then [c] else escapeChar c

/-- Reads the escapes of a sequence of octets. -/
def decodeOctets : List UInt8 → List UInt8
  | [] => []
  | x :: rest =>
    if x = 0x25 then
      match rest with
      | a :: b :: more =>
        match Ascii.hexValue? (.ofNat a.toNat), Ascii.hexValue? (.ofNat b.toNat) with
        | some high, some low => .ofNat (high * 16 + low) :: decodeOctets more
        | _, _ => x :: decodeOctets (a :: b :: more)
      | more => x :: decodeOctets more
    else
      x :: decodeOctets rest

/-- The octets that a text stands for. -/
def decode (cs : List Char) : List UInt8 :=
  decodeOctets (Utf8.encode cs)

/-- The text that a text stands for, if its octets are UTF-8. -/
def decodeText? (cs : List Char) : Option (List Char) :=
  Utf8.decode? (decode cs)

end Gatehouse.Percent
