import Gatehouse.Json.Skip
import Gatehouse.Json.Writer
import Gatehouse.Proofs.Text.Percent

/-!
# Strings in JSON

A string that was written reads back as the same string, whatever follows it, and
skipping it leaves exactly what follows.
-/

namespace Gatehouse.Json

/-- An octet that stands for itself between quotes. -/
def isPlainOctet (octet : UInt8) : Prop :=
  octet ≠ 0x22 ∧ octet ≠ 0x5C ∧ ¬octet < 0x20

/-- The ways in which a character is written. -/
inductive Written (c : Char) : List UInt8 → Prop
  | named (letter : UInt8) (other : letter ≠ 0x75) (known : simpleEscape? letter = some c) :
    Written c [0x5C, letter]
  | numbered (low : c.toNat < 0x20) :
    Written c
      [0x5C, 0x75, 0x30, 0x30, .ofNat (Ascii.lowerHexDigit (c.toNat / 16)).toNat,
        .ofNat (Ascii.lowerHexDigit (c.toNat % 16)).toNat]
  | plain (octets : ∀ x ∈ Utf8.encodeChar c, isPlainOctet x) : Written c (Utf8.encodeChar c)

theorem isPlainOctet_of_mem {c : Char} (quote : c ≠ '"') (backslash : c ≠ '\\')
    (high : ¬c.toNat < 0x20) {x : UInt8} (member : x ∈ Utf8.encodeChar c) : isPlainOctet x := by
  by_cases ascii : c.toNat < 0x80
  · rw [Utf8.encodeChar_of_ascii ascii, List.mem_singleton] at member
    subst x
    have back := Ascii.ofNat_octet ascii
    refine ⟨?_, ?_, ?_⟩
    · intro same
      exact quote (by rw [← back, same]; rfl)
    · intro same
      exact backslash (by rw [← back, same]; rfl)
    · rw [UInt8.lt_iff_toNat_lt, Utf8.toNat_ofNat_of_lt (by omega)]
      exact high
  · have bound := Utf8.le_of_mem_encodeChar (by omega) member
    refine ⟨?_, ?_, ?_⟩
    · rintro rfl
      exact absurd bound (by decide)
    · rintro rfl
      exact absurd bound (by decide)
    · rw [UInt8.lt_iff_toNat_lt]
      exact Nat.not_lt.mpr (Nat.le_trans (by decide) bound)

theorem written_writeChar (c : Char) : Written c (Utf8.encode (writeChar c)) := by
  unfold writeChar
  split
  · subst c
    exact .named 0x22 (by decide) rfl
  rename_i quote
  split
  · subst c
    exact .named 0x5C (by decide) rfl
  rename_i backslash
  split
  · subst c
    exact .named 0x62 (by decide) rfl
  split
  · subst c
    exact .named 0x66 (by decide) rfl
  split
  · subst c
    exact .named 0x6E (by decide) rfl
  split
  · subst c
    exact .named 0x72 (by decide) rfl
  split
  · subst c
    exact .named 0x74 (by decide) rfl
  split
  · rename_i low
    rw [Utf8.encode_of_ascii]
    · exact .numbered low
    · simp only [List.forall_mem_cons]
      exact ⟨by decide, by decide, by decide, by decide, Ascii.toNat_lowerHexDigit_lt _ (by omega),
        Ascii.toNat_lowerHexDigit_lt _ (by omega), by simp⟩
  · rename_i high
    rw [Utf8.encode_cons, Utf8.encode_nil, List.append_nil]
    exact .plain fun x member => isPlainOctet_of_mem quote backslash high member

/-- The digits of a written number read back as the number. -/
theorem readHex_lowerHexDigit {n : Nat} (low : n < 0x20) (rest : List UInt8) :
    readHex (0x30 :: 0x30 :: .ofNat (Ascii.lowerHexDigit (n / 16)).toNat ::
      .ofNat (Ascii.lowerHexDigit (n % 16)).toNat :: rest) = .ok n := by
  have zero : Ascii.hexValue? (Char.ofNat (UInt8.toNat 0x30)) = some 0 := by decide
  simp only [readHex, zero, Ascii.ofNat_octet (Ascii.toNat_lowerHexDigit_lt (n / 16) (by omega)),
    Ascii.ofNat_octet (Ascii.toNat_lowerHexDigit_lt (n % 16) (by omega)),
    Ascii.hexValue?_lowerHexDigit (n / 16) (by omega),
    Ascii.hexValue?_lowerHexDigit (n % 16) (by omega)]
  congr 1
  omega

theorem readEscape_numbered {c : Char} (low : c.toNat < 0x20) (rest : List UInt8) :
    readEscape (0x75 :: 0x30 :: 0x30 :: .ofNat (Ascii.lowerHexDigit (c.toNat / 16)).toNat ::
      .ofNat (Ascii.lowerHexDigit (c.toNat % 16)).toNat :: rest) = .ok (c, 5) := by
  have lowHalf : isLowSurrogate c.toNat = false := by simp [isLowSurrogate]; omega
  have highHalf : isHighSurrogate c.toNat = false := by simp [isHighSurrogate]; omega
  rw [readEscape, if_pos rfl, readCodePoint, readHex_lowerHexDigit low]
  simp only [bind, Except.bind, lowHalf, highHalf]
  simp only [Char.ofNat_toNat]
  rfl

theorem readTextOctets_plain {octets : List UInt8} (plain : ∀ x ∈ octets, isPlainOctet x)
    (rest : List UInt8) :
    readTextOctets (octets ++ rest) =
      (readTextOctets rest).map fun (more, after) => (octets ++ more, after) := by
  induction octets with
  | nil =>
    cases read : readTextOctets rest <;> simp [read, Except.map]
  | cons x octets ih =>
    obtain ⟨quote, backslash, high⟩ := plain x List.mem_cons_self
    rw [List.cons_append, readTextOctets, if_neg quote, if_neg backslash, if_neg high,
      ih fun y member => plain y (List.mem_cons_of_mem _ member)]
    cases readTextOctets rest <;> rfl

theorem readTextOctets_written {c : Char} {octets : List UInt8} (written : Written c octets)
    (rest : List UInt8) :
    readTextOctets (octets ++ rest) =
      (readTextOctets rest).map fun (more, after) => (Utf8.encodeChar c ++ more, after) := by
  cases written with
  | named letter other known =>
    have escape : readEscape (letter :: rest) = .ok (c, 1) := by
      rw [readEscape, if_neg other, known]
    rw [List.cons_append, readTextOctets, if_neg (by decide), if_pos rfl, List.cons_append,
      List.nil_append, escape]
    rfl
  | numbered low =>
    simp only [List.cons_append, List.nil_append]
    rw [readTextOctets, if_neg (by decide), if_pos rfl, readEscape_numbered low]
    rfl
  | plain octets => exact readTextOctets_plain octets rest

theorem readTextOctets_written_all (cs : List Char) (rest : List UInt8) :
    readTextOctets (Utf8.encode (cs.flatMap writeChar) ++ 0x22 :: rest) =
      .ok (Utf8.encode cs, rest) := by
  induction cs with
  | nil =>
    rw [List.flatMap_nil, Utf8.encode_nil, List.nil_append, readTextOctets, if_pos rfl]
  | cons c cs ih =>
    rw [List.flatMap_cons, Utf8.encode_append, List.append_assoc,
      readTextOctets_written (written_writeChar c), ih, Utf8.encode_cons]
    rfl

theorem octets_writeText (s : String) :
    Utf8.octets (writeText s) = 0x22 :: (Utf8.encode (s.toList.flatMap writeChar) ++ [0x22]) := by
  have quote : Utf8.encodeChar '"' = [0x22] := by decide
  rw [writeText, Utf8.octets_ofList, writeChars, List.cons_append, Utf8.encode_cons,
    Utf8.encode_append, Utf8.encode_cons, quote]
  rfl

/-- A string that was written is read up to its closing quote. -/
theorem readText_written (s : String) (rest : List UInt8) :
    readText (Utf8.encode (s.toList.flatMap writeChar) ++ 0x22 :: rest) = .ok (s, rest) := by
  simp only [readText, readTextOctets_written_all, bind, Except.bind, Utf8.decode?_encode,
    String.ofList_toList]

theorem skipSpace_quote (rest : List UInt8) : skipSpace (0x22 :: rest) = 0x22 :: rest := rfl

/-- White space in front of a token is passed over. -/
theorem skipSpace_append {gap : List UInt8} (blank : ∀ x ∈ gap, isSpace x = true)
    (rest : List UInt8) : skipSpace (gap ++ rest) = skipSpace rest :=
  List.dropWhile_append_of_pos blank

theorem length_skipSpace_le (input : List UInt8) : (skipSpace input).length ≤ input.length :=
  (List.dropWhile_sublist _).length_le

theorem skipSpace_cons {x : UInt8} (token : isSpace x = false) (rest : List UInt8) :
    skipSpace (x :: rest) = x :: rest :=
  List.dropWhile_cons_of_neg (by simp [token])

theorem readString_writeText {gap : List UInt8} (blank : ∀ x ∈ gap, isSpace x = true)
    (s : String) (rest : List UInt8) :
    readString (gap ++ (Utf8.octets (writeText s) ++ rest)) = .ok (s, rest) := by
  rw [octets_writeText, List.cons_append, List.append_assoc, readString, skipSpace_append blank,
    skipSpace_quote]
  exact readText_written s rest

theorem skipText_plain {octets : List UInt8} (plain : ∀ x ∈ octets, isPlainOctet x)
    (rest : List UInt8) : skipText (octets ++ rest) = skipText rest := by
  induction octets with
  | nil => rfl
  | cons x octets ih =>
    obtain ⟨quote, backslash, high⟩ := plain x List.mem_cons_self
    rw [List.cons_append, skipText, if_neg quote, if_neg backslash, if_neg high,
      ih fun y member => plain y (List.mem_cons_of_mem _ member)]

theorem skipText_written {c : Char} {octets : List UInt8} (written : Written c octets)
    (rest : List UInt8) : skipText (octets ++ rest) = skipText rest := by
  cases written with
  | named letter other known =>
    have escape : skipEscape (letter :: rest) = .ok 1 := by
      rw [skipEscape, if_neg other, known]
      rfl
    rw [List.cons_append, skipText, if_neg (by decide), if_pos rfl, List.cons_append,
      List.nil_append, escape]
    rfl
  | numbered low =>
    simp only [List.cons_append, List.nil_append]
    rw [skipText, if_neg (by decide), if_pos rfl, skipEscape, if_pos rfl, readHex_lowerHexDigit low]
    rfl
  | plain octets => exact skipText_plain octets rest

theorem skipText_written_all (cs : List Char) (rest : List UInt8) :
    skipText (Utf8.encode (cs.flatMap writeChar) ++ 0x22 :: rest) = .ok rest := by
  induction cs with
  | nil => rw [List.flatMap_nil, Utf8.encode_nil, List.nil_append, skipText, if_pos rfl]
  | cons c cs ih =>
    rw [List.flatMap_cons, Utf8.encode_append, List.append_assoc,
      skipText_written (written_writeChar c), ih]

/-- A string that was written is skipped as a value, and nothing else is. -/
theorem skipValue_writeText {gap : List UInt8} (blank : ∀ x ∈ gap, isSpace x = true)
    (s : String) (rest : List UInt8) :
    skipValue (gap ++ (Utf8.octets (writeText s) ++ rest)) = .ok rest := by
  rw [octets_writeText, List.cons_append, List.append_assoc, skipValue, skipValues,
    skipSpace_append blank, skipSpace_quote]
  simp only [List.singleton_append, skipText_written_all]
  rfl

end Gatehouse.Json
