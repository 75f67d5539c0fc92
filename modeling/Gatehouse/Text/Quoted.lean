import Gatehouse.Text.Ascii
import Gatehouse.Text.Property.Printing

/-!
# Quoted text

A text between double quotes, as messages show it: quotes, backslashes and the usual
control characters behind a backslash, and characters that do not show by number.
-/

namespace Gatehouse.Text

/-- Lower-case hexadecimal digits without leading zeros. -/
def hexDigits (n : Nat) : List Char :=
  Nat.toDigits 16 n

/-- Whether a character is shown as it is. -/
def showsPlain (c : Char) : Bool :=
  if c.toNat < 0x80 then !Ascii.isControl c else !graphemeExtend.has c && !unprintable.has c

/-- A character inside quotes. -/
def quoteChar (c : Char) : List Char :=
  if c = '\x00' then ['\\', '0']
  else if c = '\t' then ['\\', 't']
  else if c = '\r' then ['\\', 'r']
  else if c = '\n' then ['\\', 'n']
  else if c = '\\' then ['\\', '\\']
  else if c = '"' then ['\\', '"']
  else if showsPlain c then [c]
  else ['\\', 'u', '\x7b'] ++ hexDigits c.toNat ++ ['\x7d']

/-- A text between quotes. -/
def quote (s : String) : String :=
  .ofList ('"' :: s.toList.flatMap quoteChar ++ ['"'])

end Gatehouse.Text
