/-!
# UTF-8

Characters as octets and back.  Reading distinguishes a malformed piece in the
middle of a text from a character cut off by the end of the octets, because
messages tell them apart; the lossy reading puts one replacement character in
place of every longest malformed piece.
-/

namespace Gatehouse.Utf8

/-- The octets of one character. -/
def encodeChar (c : Char) : List UInt8 :=
  let n := c.toNat
  if n < 0x80 then
    [.ofNat n]
  else if n < 0x800 then
    [.ofNat (0xC0 + n / 0x40), .ofNat (0x80 + n % 0x40)]
  else if n < 0x10000 then
    [.ofNat (0xE0 + n / 0x1000), .ofNat (0x80 + n / 0x40 % 0x40), .ofNat (0x80 + n % 0x40)]
  else
    [.ofNat (0xF0 + n / 0x40000), .ofNat (0x80 + n / 0x1000 % 0x40),
      .ofNat (0x80 + n / 0x40 % 0x40), .ofNat (0x80 + n % 0x40)]

/-- The octets of a text. -/
def encode (cs : List Char) : List UInt8 :=
  cs.flatMap encodeChar

/-- The octets of a string. -/
def octets (s : String) : List UInt8 :=
  encode s.toList

/-- What stands in front of a nonempty list of octets. -/
inductive Front where
  /-- A character written with `size` octets. -/
  | char (c : Char) (size : Nat)
  /-- A number of octets that begin no character. -/
  | malformed (size : Nat)
  /-- The beginning of a character that the end of the octets cuts off. -/
  | truncated
deriving DecidableEq, Repr

/-- The range that the second octet of a longer character lies in; it excludes
    overlong forms, surrogates and everything above U+10FFFF. -/
def secondRange (lead : Nat) : Nat × Nat :=
  if lead = 0xE0 then (0xA0, 0xBF)
  else if lead = 0xED then (0x80, 0x9F)
  else if lead = 0xF0 then (0x90, 0xBF)
  else if lead = 0xF4 then (0x80, 0x8F)
  else (0x80, 0xBF)

/-- Whether an octet lies in a range. -/
def within (range : Nat × Nat) (octet : UInt8) : Bool :=
  range.1 ≤ octet.toNat && octet.toNat ≤ range.2

/-- Whether an octet continues a character. -/
def continues (octet : UInt8) : Bool :=
  within (0x80, 0xBF) octet

/-- The six payload bits of a continuing octet. -/
def payload (octet : UInt8) : Nat :=
  octet.toNat % 0x40

/-- Reads the character in front of the octets `lead :: rest`. -/
def front (lead : UInt8) (rest : List UInt8) : Front :=
  let n := lead.toNat
  if n < 0x80 then
    .char (.ofNat n) 1
  else if n < 0xC2 then
    .malformed 1
  else if n < 0xE0 then
    match rest with
    | [] => .truncated
    | b :: _ =>
      if continues b then .char (.ofNat (n % 0x20 * 0x40 + payload b)) 2 else .malformed 1
  else if n < 0xF0 then
    match rest with
    | [] => .truncated
    | [b] => if within (secondRange n) b then .truncated else .malformed 1
    | b :: c :: _ =>
      if !within (secondRange n) b then .malformed 1
      else if !continues c then .malformed 2
      else .char (.ofNat (n % 0x10 * 0x1000 + payload b * 0x40 + payload c)) 3
  else if n < 0xF5 then
    match rest with
    | [] => .truncated
    | [b] => if within (secondRange n) b then .truncated else .malformed 1
    | [b, c] =>
      if !within (secondRange n) b then .malformed 1
      else if !continues c then .malformed 2
      else .truncated
    | b :: c :: d :: _ =>
      if !within (secondRange n) b then .malformed 1
      else if !continues c then .malformed 2
      else if !continues d then .malformed 3
      else .char (.ofNat (n % 8 * 0x40000 + payload b * 0x1000 + payload c * 0x40 + payload d)) 4
  else
    .malformed 1

/-- Where and how octets fail to be UTF-8: the number of good octets before the
    failure, and the size of the malformed piece unless the end cuts it off. -/
structure Fault where
  index : Nat
  size : Option Nat
deriving DecidableEq, Repr

/-- The wording of a fault. -/
def Fault.message (fault : Fault) : String :=
  match fault.size with
  | some size =>
    "invalid utf-8 sequence of " ++ toString size ++ " bytes from index " ++ toString fault.index
  | none => "incomplete utf-8 byte sequence from index " ++ toString fault.index

/-- Reads octets of which `index` have gone before. -/
def decodeFrom (index : Nat) (octets : List UInt8) : Except Fault (List Char) :=
  match octets with
  | [] => .ok []
  | lead :: rest =>
    match front lead rest with
    | .char c size => (decodeFrom (index + size) (rest.drop (size - 1))).map (c :: ·)
    | .malformed size => .error ⟨index, some size⟩
    | .truncated => .error ⟨index, none⟩
termination_by octets.length
decreasing_by simp only [List.length_drop, List.length_cons]; omega

/-- Reads octets that have to be UTF-8 throughout, or says where they are not. -/
def read (octets : List UInt8) : Except Fault (List Char) :=
  decodeFrom 0 octets

/-- The number of octets in front of the first that belongs to no character. -/
def goodLength (octets : List UInt8) : Nat :=
  match read octets with
  | .ok _ => octets.length
  | .error fault => fault.index

/-- Reads octets that have to be UTF-8 throughout. -/
def decode? (octets : List UInt8) : Option (List Char) :=
  (read octets).toOption

/-- Reads any octets, with U+FFFD in place of every malformed piece. -/
def decodeLossy (octets : List UInt8) : List Char :=
  match octets with
  | [] => []
  | lead :: rest =>
    match front lead rest with
    | .char c size => c :: decodeLossy (rest.drop (size - 1))
    | .malformed size => '\uFFFD' :: decodeLossy (rest.drop (size - 1))
    | .truncated => ['\uFFFD']
termination_by octets.length
decreasing_by all_goals (simp only [List.length_drop, List.length_cons]; omega)

end Gatehouse.Utf8
