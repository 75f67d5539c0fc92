import Gatehouse.Proofs.Text.Ascii
import Gatehouse.Proofs.Text.Utf8
import Gatehouse.Text.Percent

/-!
# Percent encoding round trips

Reading gives back every text that was written, whichever characters stand for
themselves, as long as the percent sign does not.
-/

namespace Gatehouse

namespace Ascii

/-- An ASCII character is the character of its octet. -/
theorem ofNat_octet {c : Char} (ascii : c.toNat < 0x80) :
    Char.ofNat (UInt8.ofNat c.toNat).toNat = c := by
  rw [Utf8.toNat_ofNat_of_lt (by omega)]
  exact Char.ofNat_toNat c

end Ascii

namespace Percent

theorem encode_escape (octet : UInt8) :
    Utf8.encode (escape octet) =
      [0x25, .ofNat (Ascii.upperHexDigit (octet.toNat / 16)).toNat,
        .ofNat (Ascii.upperHexDigit (octet.toNat % 16)).toNat] := by
  have bound := octet.toNat_lt
  rw [Utf8.encode_of_ascii]
  · rfl
  · intro c member
    simp only [escape, List.mem_cons, List.not_mem_nil, or_false] at member
    rcases member with rfl | rfl | rfl
    · decide
    · exact Ascii.toNat_upperHexDigit_lt _ (by omega)
    · exact Ascii.toNat_upperHexDigit_lt _ (by omega)

theorem decodeOctets_escape (octet : UInt8) (rest : List UInt8) :
    decodeOctets (Utf8.encode (escape octet) ++ rest) = octet :: decodeOctets rest := by
  have bound := octet.toNat_lt
  have whole : octet.toNat / 16 * 16 + octet.toNat % 16 = octet.toNat := by omega
  rw [encode_escape]
  simp only [List.cons_append, List.nil_append, decodeOctets, if_true]
  rw [Ascii.ofNat_octet (Ascii.toNat_upperHexDigit_lt _ (by omega)),
    Ascii.ofNat_octet (Ascii.toNat_upperHexDigit_lt _ (by omega)),
    Ascii.hexValue?_upperHexDigit _ (by omega), Ascii.hexValue?_upperHexDigit _ (by omega)]
  simp only [whole, UInt8.ofNat_toNat]

theorem decodeOctets_escapes (octets rest : List UInt8) :
    decodeOctets (Utf8.encode (octets.flatMap escape) ++ rest) = octets ++ decodeOctets rest := by
  induction octets with
  | nil => rfl
  | cons octet octets ih =>
    rw [List.flatMap_cons, Utf8.encode_append, List.append_assoc, decodeOctets_escape, ih]
    rfl

/-- Octets that are no percent sign stand for themselves. -/
theorem decodeOctets_append {octets : List UInt8} (rest : List UInt8)
    (plain : ∀ x ∈ octets, x ≠ 0x25) :
    decodeOctets (octets ++ rest) = octets ++ decodeOctets rest := by
  induction octets with
  | nil => rfl
  | cons x octets ih =>
    rw [List.cons_append, decodeOctets.eq_def]
    simp only [plain x List.mem_cons_self, if_false]
    rw [ih fun y member => plain y (List.mem_cons_of_mem _ member)]
    rfl

theorem ne_percent_of_mem_encodeChar {c : Char} (other : c ≠ '%') {x : UInt8}
    (member : x ∈ Utf8.encodeChar c) : x ≠ 0x25 := by
  rintro rfl
  by_cases ascii : c.toNat < 0x80
  · rw [Utf8.encodeChar_of_ascii ascii, List.mem_singleton] at member
    apply other
    rw [← Ascii.ofNat_octet ascii, ← member]
    rfl
  · have high := Utf8.le_of_mem_encodeChar (by omega) member
    exact absurd high (by decide)

theorem decode_encode {keep : Char → Bool} (escaped : keep '%' = false) (cs : List Char) :
    decode (encode keep cs) = Utf8.encode cs := by
  unfold decode
  induction cs with
  | nil => rfl
  | cons c cs ih =>
    rw [encode, List.flatMap_cons, Utf8.encode_append, ← encode]
    by_cases kept : keep c = true
    · have other : c ≠ '%' := by
        rintro rfl
        rw [escaped] at kept
        cases kept
      rw [if_pos kept, Utf8.encode_cons, Utf8.encode_nil, List.append_nil,
        decodeOctets_append _ fun x member => ne_percent_of_mem_encodeChar other member, ih,
        Utf8.encode_cons]
    · rw [if_neg kept, escapeChar, decodeOctets_escapes, ih, Utf8.encode_cons]

/-- A text that was written with escapes reads back. -/
theorem decodeText?_encode {keep : Char → Bool} (escaped : keep '%' = false) (cs : List Char) :
    decodeText? (encode keep cs) = some cs := by
  rw [decodeText?, decode_encode escaped, Utf8.decode?_encode]

/-- A text without percent signs stands for itself. -/
theorem decodeText?_of_plain {cs : List Char} (plain : ∀ c ∈ cs, c ≠ '%') :
    decodeText? cs = some cs := by
  have kept : encode (· != '%') cs = cs := by
    induction cs with
    | nil => rfl
    | cons c cs ih =>
      have other : (c != '%') = true := by simpa using plain c List.mem_cons_self
      rw [encode, List.flatMap_cons, if_pos other, ← encode,
        ih fun d member => plain d (List.mem_cons_of_mem _ member)]
      rfl
  rw [← kept, decodeText?_encode (by decide), kept]

/-- An escape is made of percent signs and digits. -/
theorem mem_escapeChar {c d : Char} (member : d ∈ escapeChar c) :
    d = '%' ∨ Ascii.isAlphanumeric d = true := by
  rw [escapeChar, List.mem_flatMap] at member
  obtain ⟨octet, -, member⟩ := member
  have bound := octet.toNat_lt
  simp only [escape, List.mem_cons, List.not_mem_nil, or_false] at member
  rcases member with rfl | rfl | rfl
  · exact .inl rfl
  · exact .inr (Ascii.isAlphanumeric_upperHexDigit _ (by omega))
  · exact .inr (Ascii.isAlphanumeric_upperHexDigit _ (by omega))

/-- What an encoded text is made of. -/
theorem mem_encode {keep : Char → Bool} {cs : List Char} {c : Char} (member : c ∈ encode keep cs) :
    (c ∈ cs ∧ keep c = true) ∨ c = '%' ∨ Ascii.isAlphanumeric c = true := by
  rw [encode, List.mem_flatMap] at member
  obtain ⟨d, inside, member⟩ := member
  split at member
  · rename_i kept
    rw [List.mem_singleton] at member
    subst c
    exact .inl ⟨inside, kept⟩
  · exact .inr (mem_escapeChar member)

end Percent

end Gatehouse
