/-!
# ASCII

The classes of characters that formats of the Internet are made of.  None of
them holds a character above U+007F.
-/

namespace Gatehouse.Ascii

/-- A letter from `a` to `z`. -/
def isLower (c : Char) : Bool :=
  'a' ≤ c && c ≤ 'z'

/-- A letter from `A` to `Z`. -/
def isUpper (c : Char) : Bool :=
  'A' ≤ c && c ≤ 'Z'

/-- A letter of either case. -/
def isLetter (c : Char) : Bool :=
  isLower c || isUpper c

/-- A decimal digit. -/
def isDigit (c : Char) : Bool :=
  '0' ≤ c && c ≤ '9'

/-- A letter or a decimal digit. -/
def isAlphanumeric (c : Char) : Bool :=
  isLetter c || isDigit c

/-- A control character: U+0000 to U+001F, and U+007F. -/
def isControl (c : Char) : Bool :=
  c.toNat < 0x20 || c.toNat == 0x7F

/-- A character that shows: U+0021 to U+007E. -/
def isVisible (c : Char) : Bool :=
  0x21 ≤ c.toNat && c.toNat ≤ 0x7E

/-- The lower-case form of a letter; other characters stay. -/
def lower (c : Char) : Char :=
  if isUpper c then .ofNat (c.toNat + 32) else c

/-- A string with its letters in lower case. -/
def lowerString (s : String) : String :=
  .ofList (s.toList.map lower)

/-- The value of a hexadecimal digit of either case. -/
def hexValue? (c : Char) : Option Nat :=
  if isDigit c then some (c.toNat - '0'.toNat)
  else if 'a' ≤ c && c ≤ 'f' then some (c.toNat - 'a'.toNat + 10)
  else if 'A' ≤ c && c ≤ 'F' then some (c.toNat - 'A'.toNat + 10)
  else none

/-- The upper-case hexadecimal digit of a number below 16. -/
def upperHexDigit (n : Nat) : Char :=
  if n < 10 then .ofNat ('0'.toNat + n) else .ofNat ('A'.toNat + (n - 10))

/-- The lower-case hexadecimal digit of a number below 16. -/
def lowerHexDigit (n : Nat) : Char :=
  if n < 10 then .ofNat ('0'.toNat + n) else .ofNat ('a'.toNat + (n - 10))

/-- The value of a decimal numeral: at least one digit and nothing else. -/
def natural? (digits : List Char) : Option Nat :=
  if digits.isEmpty || !digits.all isDigit then none
  else some (digits.foldl (fun n c => n * 10 + (c.toNat - '0'.toNat)) 0)

end Gatehouse.Ascii
