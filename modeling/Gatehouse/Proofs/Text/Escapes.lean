import Gatehouse.Proofs.Text.Percent

/-!
# Escapes in a text

A text without escapes stands for itself, and one with escapes for fewer octets than it has.
So a text from which another one is read, and which is no longer, is that other one.
-/

namespace Gatehouse

namespace Ascii

theorem toNat_lt_of_hexValue? {c : Char} (digit : (hexValue? c).isSome = true) :
    c.toNat < 0x80 := by
  unfold hexValue? at digit
  split at digit
  · rename_i number
    simp only [isDigit, Bool.and_eq_true, decide_eq_true_eq, Char.le_def,
      UInt32.le_iff_toNat_le] at number
    exact Nat.lt_of_le_of_lt number.2 (by decide)
  · split at digit
    · rename_i letter
      simp only [Bool.and_eq_true, decide_eq_true_eq, Char.le_def,
        UInt32.le_iff_toNat_le] at letter
      exact Nat.lt_of_le_of_lt letter.2 (by decide)
    · split at digit
      · rename_i letter
        simp only [Bool.and_eq_true, decide_eq_true_eq, Char.le_def,
        UInt32.le_iff_toNat_le] at letter
        exact Nat.lt_of_le_of_lt letter.2 (by decide)
      · cases digit

end Ascii

namespace Percent

open Ascii (hexValue?)

/-- Whether two hexadecimal digits stand in front of a text. -/
def opensEscape : List Char → Bool
  | a :: b :: _ => (hexValue? a).isSome && (hexValue? b).isSome
  | _ => false

/-- Whether a text has an escape: a percent sign with two hexadecimal digits behind it. -/
def hasEscape : List Char → Bool
  | [] => false
  | c :: cs => (c == '%' && opensEscape cs) || hasEscape cs

/-- Only the octet of a digit is a digit. -/
theorem eq_octet_of_hexValue? {c : Char} {x : UInt8} {xs more : List UInt8}
    (octets : Utf8.encodeChar c ++ xs = x :: more)
    (digit : (hexValue? (.ofNat x.toNat)).isSome = true) :
    (hexValue? c).isSome = true ∧ xs = more := by
  by_cases ascii : c.toNat < 0x80
  · rw [Utf8.encodeChar_of_ascii ascii, List.singleton_append, List.cons.injEq] at octets
    obtain ⟨rfl, same⟩ := octets
    rw [Ascii.ofNat_octet ascii] at digit
    exact ⟨digit, same⟩
  · obtain ⟨lead, tail, written, -⟩ := Utf8.front_encodeChar c []
    rw [written, List.cons_append, List.cons.injEq] at octets
    have high := Utf8.le_of_mem_encodeChar (Nat.le_of_not_lt ascii)
      (written ▸ List.mem_cons_self : lead ∈ Utf8.encodeChar c)
    have other : ∀ n < 256, 0x80 ≤ n → (hexValue? (.ofNat n)).isSome = false := by
      decide +kernel
    rw [← octets.1, other _ lead.toNat_lt high] at digit
    cases digit

theorem decode_cons_of_ne {c : Char} (other : c ≠ '%') (cs : List Char) :
    decode (c :: cs) = Utf8.encodeChar c ++ decode cs := by
  rw [decode, Utf8.encode_cons,
    decodeOctets_append _ fun x member => ne_percent_of_mem_encodeChar other member]
  rfl

/-- A percent sign without two digits behind it stands for itself. -/
theorem decode_percent_of_bare {cs : List Char} (bare : opensEscape cs = false) :
    decode ('%' :: cs) = 0x25 :: decode cs := by
  have sign : Utf8.encodeChar '%' = [0x25] := by decide
  rw [decode, Utf8.encode_cons, sign, List.singleton_append, decode, decodeOctets.eq_def]
  dsimp only
  rw [if_pos rfl]
  split
  · rename_i x y more octets
    split
    · rename_i high low
      cases cs with
      | nil => cases octets
      | cons a cs =>
        obtain ⟨first, rest⟩ := eq_octet_of_hexValue? octets (by simp [high])
        cases cs with
        | nil => cases rest
        | cons b cs =>
          obtain ⟨second, -⟩ := eq_octet_of_hexValue? rest (by simp [low])
          rw [opensEscape, first, second] at bare
          cases bare
    · rw [octets]
  · rfl

/-- An escape is read as one octet, whatever is behind it. -/
theorem exists_decode_percent {a b : Char} (first : (hexValue? a).isSome = true)
    (second : (hexValue? b).isSome = true) :
    ∃ octet, ∀ cs, decode ('%' :: a :: b :: cs) = octet :: decode cs := by
  obtain ⟨high, value⟩ := Option.isSome_iff_exists.mp first
  obtain ⟨low, value'⟩ := Option.isSome_iff_exists.mp second
  have ascii := Ascii.toNat_lt_of_hexValue? first
  have ascii' := Ascii.toNat_lt_of_hexValue? second
  have sign : Utf8.encodeChar '%' = [0x25] := by decide
  refine ⟨.ofNat (high * 16 + low), fun cs => ?_⟩
  rw [decode, Utf8.encode_cons, Utf8.encode_cons, Utf8.encode_cons, sign,
    Utf8.encodeChar_of_ascii ascii, Utf8.encodeChar_of_ascii ascii']
  simp only [List.singleton_append, decodeOctets, if_true, Ascii.ofNat_octet ascii,
    Ascii.ofNat_octet ascii', value, value']
  rfl

/-- A text is read from its front: a character other than the percent sign, a percent sign that
    stands for itself, or an escape. -/
theorem readingInduction {motive : List Char → Prop} (nil : motive [])
    (plain : ∀ c cs, c ≠ '%' → motive cs → motive (c :: cs))
    (bare : ∀ cs, opensEscape cs = false → motive cs → motive ('%' :: cs))
    (escape : ∀ a b cs, (hexValue? a).isSome = true → (hexValue? b).isSome = true → motive cs →
      motive ('%' :: a :: b :: cs)) (cs : List Char) : motive cs := by
  induction whole : cs.length using Nat.strongRecOn generalizing cs with
  | ind n ih =>
    subst whole
    match cs with
    | [] => exact nil
    | c :: cs =>
      by_cases sign : c = '%'
      · subst sign
        cases opens : opensEscape cs with
        | false => exact bare cs opens (ih _ (by simp) cs rfl)
        | true =>
          match cs with
          | [] => cases opens
          | [_] => cases opens
          | a :: b :: cs =>
            obtain ⟨first, second⟩ := Bool.and_eq_true_iff.mp opens
            exact escape a b cs first second (ih _ (by simp; omega) cs rfl)
      · exact plain c cs sign (ih _ (by simp) cs rfl)

/-- Reading makes a text shorter exactly if it has escapes, and leaves it alone otherwise. -/
theorem decode_cases (cs : List Char) :
    hasEscape cs = false ∧ decode cs = Utf8.encode cs ∨
      hasEscape cs = true ∧ (decode cs).length < (Utf8.encode cs).length := by
  have sign : Utf8.encodeChar '%' = [0x25] := by decide
  induction cs using readingInduction with
  | nil => exact .inl ⟨rfl, rfl⟩
  | plain c cs other ih =>
    have same : hasEscape (c :: cs) = hasEscape cs := by simp [hasEscape, other]
    rw [same, decode_cons_of_ne other, Utf8.encode_cons, List.append_cancel_left_eq]
    refine ih.imp_right (And.imp_right fun shorter => ?_)
    simpa using shorter
  | bare cs bare ih =>
    have same : hasEscape ('%' :: cs) = hasEscape cs := by simp [hasEscape, bare]
    rw [same, decode_percent_of_bare bare, Utf8.encode_cons, sign, List.singleton_append,
      List.cons.injEq]
    refine ih.imp (And.imp_right fun same => ⟨rfl, same⟩) (And.imp_right fun shorter => ?_)
    simpa using shorter
  | escape a b cs first second ih =>
    obtain ⟨octet, read⟩ := exists_decode_percent first second
    refine .inr ⟨by simp [hasEscape, opensEscape, first, second], ?_⟩
    have most : (decode cs).length ≤ (Utf8.encode cs).length := by
      rcases ih with ⟨-, same⟩ | ⟨-, shorter⟩
      · exact Nat.le_of_eq (congrArg List.length same)
      · exact Nat.le_of_lt shorter
    rw [read]
    simp only [Utf8.encode_cons, sign, List.length_append, List.length_cons,
      Utf8.encodeChar_of_ascii (Ascii.toNat_lt_of_hexValue? first),
      Utf8.encodeChar_of_ascii (Ascii.toNat_lt_of_hexValue? second)]
    omega

section Keep

variable {keep : Char → Bool} (sign : keep '%' = true)
  (digits : ∀ c, (hexValue? c).isSome = true → keep c = true)

include digits

theorem opensEscape_encode (cs : List Char) : opensEscape (encode keep cs) = opensEscape cs := by
  have other {c : Char} (gone : keep c = false) : (hexValue? c).isSome = false := by
    rw [Bool.eq_false_iff]
    intro digit
    rw [digits c digit] at gone
    cases gone
  have escaped (c : Char) (cs : List Char) : opensEscape (escapeChar c ++ cs) = false := by
    obtain ⟨lead, more, written, -⟩ := Utf8.front_encodeChar c []
    rw [escapeChar, written, List.flatMap_cons]
    rfl
  rcases cs with _ | ⟨a, _ | ⟨b, cs⟩⟩
  · rfl
  · rw [encode, List.flatMap_cons, List.flatMap_nil]
    split
    · rfl
    · exact escaped a []
  · rw [encode, List.flatMap_cons, List.flatMap_cons]
    cases kept : keep a with
    | false =>
      rw [if_neg Bool.false_ne_true, escaped, opensEscape, other kept]
      rfl
    | true =>
      rw [if_pos rfl]
      cases kept' : keep b with
      | true => rfl
      | false =>
        obtain ⟨lead, more, written, -⟩ := Utf8.front_encodeChar b []
        rw [if_neg Bool.false_ne_true, opensEscape, other kept', escapeChar, written,
          List.flatMap_cons]
        rfl

include sign

/-- Writing a text with escapes does not change what it is read as, where the escapes that it has
    already stand for themselves. -/
theorem decode_encode_of_keep (cs : List Char) : decode (encode keep cs) = decode cs := by
  induction cs using readingInduction with
  | nil => rfl
  | plain c cs other ih =>
    rw [decode_cons_of_ne other, ← ih, encode, List.flatMap_cons, ← encode]
    split
    · rw [List.singleton_append, decode_cons_of_ne other]
    · rw [decode, Utf8.encode_append, escapeChar, decodeOctets_escapes]
      rfl
  | bare cs bare ih =>
    have front : encode keep ('%' :: cs) = '%' :: encode keep cs := by
      rw [encode, List.flatMap_cons, if_pos sign]
      rfl
    rw [front, decode_percent_of_bare bare, ← ih,
      decode_percent_of_bare (by rw [opensEscape_encode digits, bare])]
  | escape a b cs first second ih =>
    have front : encode keep ('%' :: a :: b :: cs) = '%' :: a :: b :: encode keep cs := by
      rw [encode, List.flatMap_cons, List.flatMap_cons, List.flatMap_cons, if_pos sign,
        if_pos (digits a first), if_pos (digits b second)]
      rfl
    obtain ⟨octet, read⟩ := exists_decode_percent first second
    rw [front, read, read, ih]

end Keep

/-- A text that is read from another one is not longer, and as long only if the other one has no
    escapes and is this text. -/
theorem decodeText?_cases {cs ds : List Char} (read : decodeText? cs = some ds) :
    hasEscape cs = false ∧ cs = ds ∨ Utf8.size ds < Utf8.size cs := by
  have octets := Utf8.decode?_eq_some_iff.mp read
  rcases decode_cases cs with ⟨none, same⟩ | ⟨-, shorter⟩
  · exact .inl ⟨none, Utf8.encode_inj.mp (same.symm.trans octets.symm)⟩
  · rw [Utf8.size, Utf8.size, octets]
    exact .inr shorter

section Bare

variable {cs : List Char}

theorem hasEscape_of_not_mem (plain : '%' ∉ cs) : hasEscape cs = false := by
  induction cs with
  | nil => rfl
  | cons c cs ih =>
    rw [List.mem_cons, not_or] at plain
    rw [hasEscape, ih plain.2, beq_eq_false_iff_ne.mpr fun same => plain.1 same.symm]
    rfl

theorem decode_of_hasEscape (none : hasEscape cs = false) : decode cs = Utf8.encode cs := by
  rcases decode_cases cs with ⟨-, same⟩ | ⟨some, -⟩
  · exact same
  · rw [none] at some
    cases some

theorem decodeText?_of_hasEscape (none : hasEscape cs = false) : decodeText? cs = some cs := by
  rw [decodeText?, decode_of_hasEscape none, Utf8.decode?_encode]

end Bare

end Percent

end Gatehouse
