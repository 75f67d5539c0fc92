import Gatehouse.Proofs.Json.Written

/-!
# Integers in JSON

An integer of at most 64 bits is read back from its decimal digits, whatever follows them that
does not go on with the number.
-/

namespace Gatehouse.Json

open Ascii (isDigit)

/-- An octet that a number may go on with. -/
def isNumberOctet (octet : UInt8) : Bool :=
  (digit? octet).isSome || octet == 0x2B || octet == 0x2D || octet == 0x2E || isExponentMark octet

/-- What follows a number and is no part of it. -/
def Breaks (rest : List UInt8) : Prop :=
  ∀ x ∈ rest.head?, isNumberOctet x = false

/-- An integer that is kept as such: one that 64 bits hold, with a sign if it is negative. -/
def Fits (n : Int) : Prop :=
  -(Nat.pow 2 63 : Nat) ≤ n ∧ n < (Nat.pow 2 64 : Nat)

instance (n : Int) : Decidable (Fits n) :=
  inferInstanceAs (Decidable (_ ∧ _))

theorem Closes.breaks {rest : List UInt8} (closes : Closes rest) : Breaks rest := by
  intro x first
  rcases closes x first with rfl | rfl | rfl <;> rfl

theorem breaks_dropWhile (input : List UInt8) : Breaks (input.dropWhile isNumberOctet) := by
  intro x first
  have other := List.head?_dropWhile_not isNumberOctet input
  rw [first] at other
  exact other

theorem Breaks.startsWithDigit {rest : List UInt8} (breaks : Breaks rest) :
    startsWithDigit rest = false := by
  cases rest with
  | nil => rfl
  | cons x rest =>
    have other := breaks x rfl
    simp only [isNumberOctet, Bool.or_eq_false_iff] at other
    exact other.1.1.1.1

theorem toNat_lt_of_isDigit {c : Char} (digit : isDigit c = true) : c.toNat < 0x80 := by
  simp only [isDigit, Bool.and_eq_true, decide_eq_true_eq, Char.le_def, UInt32.le_iff_toNat_le]
    at digit
  exact Nat.lt_of_le_of_lt digit.2 (by decide)

theorem digit?_octet {c : Char} (digit : isDigit c = true) :
    digit? (.ofNat c.toNat) = some (c.toNat - '0'.toNat) := by
  have small := toNat_lt_of_isDigit digit
  simp only [isDigit, Bool.and_eq_true, decide_eq_true_eq, Char.le_def, UInt32.le_iff_toNat_le]
    at digit
  have octet : (UInt8.ofNat c.toNat).toNat = c.toNat := Utf8.toNat_ofNat_of_lt (by omega)
  rw [digit?, if_pos]
  · rw [octet]
    rfl
  · rw [UInt8.le_iff_toNat_le, UInt8.le_iff_toNat_le, octet]
    exact digit

/-- Digits are read into the number that they stand for. -/
theorem readDigits_octets {cs : List Char} (digits : ∀ c ∈ cs, isDigit c = true)
    (number count : Nat) {rest : List UInt8} (behind : startsWithDigit rest = false)
    (fits : Nat.ofDigitChars 10 cs number < Nat.pow 2 64) :
    readDigits number count (cs.map (fun c => UInt8.ofNat c.toNat) ++ rest) =
      (Nat.ofDigitChars 10 cs number, count + cs.length, rest) := by
  induction cs generalizing number count with
  | nil =>
    cases rest with
    | nil => rfl
    | cons x rest =>
      have other : digit? x = none := by simpa [startsWithDigit] using behind
      rw [List.map_nil, List.nil_append, readDigits, other]
      rfl
  | cons c cs ih =>
    have more : ∀ d ∈ cs, isDigit d = true := fun d member =>
      digits d (List.mem_cons_of_mem _ member)
    have grows (cs : List Char) (number : Nat) : number ≤ Nat.ofDigitChars 10 cs number := by
      induction cs generalizing number with
      | nil => exact Nat.le_refl _
      | cons c cs ih =>
        rw [Nat.ofDigitChars_cons]
        exact Nat.le_trans (by omega) (ih _)
    rw [Nat.ofDigitChars_cons] at fits ⊢
    have small := Nat.lt_of_le_of_lt (grows cs _) fits
    rw [Nat.mul_comm 10] at fits small ⊢
    rw [List.map_cons, List.cons_append, readDigits, digit?_octet (digits c List.mem_cons_self)]
    dsimp only
    rw [if_pos small, ih more _ _ fits, List.length_cons, Nat.add_right_comm]
    rfl

theorem digitChar_ne_zero : ∀ d < 10, 0 < d → d.digitChar.toNat - '0'.toNat ≠ 0 := by decide

/-- A positive number is not written with a leading zero. -/
theorem exists_toDigits_cons {n : Nat} (positive : 0 < n) :
    ∃ c cs, Nat.toDigits 10 n = c :: cs ∧ c.toNat - '0'.toNat ≠ 0 := by
  induction n using Nat.strongRecOn with
  | ind n ih =>
    by_cases small : n < 10
    · exact ⟨n.digitChar, [], Nat.toDigits_of_lt_base small, digitChar_ne_zero n small positive⟩
    · obtain ⟨c, cs, front, first⟩ := ih (n / 10) (by omega) (by omega)
      refine ⟨c, cs ++ [(n % 10).digitChar], ?_, first⟩
      rw [Nat.toDigits_of_base_le (by decide) (by omega), front]
      rfl

theorem octets_toString (n : Nat) :
    Utf8.octets (toString n) = (Nat.toDigits 10 n).map fun c => UInt8.ofNat c.toNat := by
  have written : (toString n).toList = Nat.toDigits 10 n := by
    rw [Nat.toString_eq_repr, Nat.toList_repr]
  rw [Utf8.octets, Utf8.encode_of_ascii, written]
  exact fun c member => toNat_lt_of_isDigit (Ascii.isDigit_of_mem_toString n c member)

/-- The digits of a number are read up to their end. -/
theorem readNumber_toString (negative : Bool) {n : Nat} (fits : n < Nat.pow 2 64)
    {rest : List UInt8} (breaks : Breaks rest) :
    readNumber negative (Utf8.octets (toString n) ++ rest) = readIntegerEnd negative n rest := by
  have behind := breaks.startsWithDigit
  obtain rfl | positive := Nat.eq_zero_or_pos n
  · have zero : Utf8.octets (toString 0) = [0x30] := by decide
    rw [zero, List.singleton_append, readNumber, show digit? 0x30 = some 0 from rfl]
    dsimp only
    rw [if_pos rfl, behind]
    rfl
  -- The first digit is read by itself and must not be zero; the others are counted behind it.
  · obtain ⟨c, cs, digits, first⟩ := exists_toDigits_cons positive
    have each : ∀ d ∈ c :: cs, isDigit d = true := by
      have all := Ascii.isDigit_of_mem_toString n
      rwa [Nat.toString_eq_repr, Nat.toList_repr, digits] at all
    have value : Nat.ofDigitChars 10 cs (c.toNat - '0'.toNat) = n := by
      have whole := Nat.ofDigitChars_toDigits (n := n) (by decide : 1 < 10) (by decide)
      rw [digits, Nat.ofDigitChars_cons] at whole
      simpa using whole
    have read := readDigits_octets (fun d member => each d (List.mem_cons_of_mem _ member))
      (c.toNat - '0'.toNat) 1 behind (by rwa [value])
    rw [octets_toString, digits, List.map_cons, List.cons_append, readNumber,
      digit?_octet (each c List.mem_cons_self)]
    dsimp only
    rw [if_neg first, read, value]
    dsimp only
    rw [behind]
    rfl

theorem readIntegerEnd_breaks (negative : Bool) (n : Nat) {rest : List UInt8}
    (breaks : Breaks rest) (sign : negative = true → n ≠ 0 ∧ n ≤ Nat.pow 2 63) :
    readIntegerEnd negative n rest = .ok (.integer (if negative then -n else n), rest) := by
  have whole : (if !negative then Number.integer n
      else if n = 0 ∨ Nat.pow 2 63 < n then .real (Decimal.Binary64.ofNat n).negate
      else .integer (-n)) = .integer (if negative then -n else n) := by
    cases negative with
    | false => rfl
    | true =>
      obtain ⟨some, low⟩ := sign rfl
      rw [if_neg (by decide), if_neg (by omega)]
      rfl
  unfold readIntegerEnd
  rw [whole]
  cases rest with
  | nil => rfl
  | cons x rest =>
    have other := breaks x rfl
    simp only [isNumberOctet, Bool.or_eq_false_iff, beq_eq_false_iff_ne] at other
    dsimp only
    rw [if_neg other.1.2, other.2]
    rfl

theorem ne_of_digit {x y : UInt8} (digit : (digit? x).isSome = true)
    (other : (digit? y).isSome = false) : x ≠ y := by
  rintro rfl
  rw [digit] at other
  cases other

theorem isSpace_of_digit {x : UInt8} (digit : (digit? x).isSome = true) : isSpace x = false := by
  simp [isSpace, ne_of_digit digit (y := 0x20) rfl, ne_of_digit digit (y := 0x0A) rfl,
    ne_of_digit digit (y := 0x09) rfl, ne_of_digit digit (y := 0x0D) rfl]

theorem exists_octets_toString (n : Nat) :
    ∃ x more, Utf8.octets (toString n) = x :: more ∧ (digit? x).isSome = true := by
  obtain ⟨c, cs, digits⟩ := List.exists_cons_of_ne_nil (Nat.toDigits_ne_nil (n := n) (b := 10))
  have digit : isDigit c = true := by
    refine Ascii.isDigit_of_mem_toString n c ?_
    rw [Nat.toString_eq_repr, Nat.toList_repr, digits]
    exact List.mem_cons_self
  refine ⟨.ofNat c.toNat, cs.map fun c => .ofNat c.toNat, ?_, ?_⟩
  · rw [octets_toString, digits, List.map_cons]
  · rw [digit?_octet digit]
    rfl

section Values

variable (depth : Nat)

theorem readValue_digit {x : UInt8} (digit : (digit? x).isSome = true) (rest : List UInt8) :
    readValue depth (x :: rest) =
      (readNumber false (x :: rest)).map fun (n, rest) => (.number n, rest) := by
  rw [readValue, skipSpace_cons (isSpace_of_digit digit)]
  dsimp only
  rw [if_neg (ne_of_digit digit rfl), if_neg (ne_of_digit digit rfl),
    if_neg (ne_of_digit digit rfl), if_neg (ne_of_digit digit rfl), if_pos digit]

theorem readValue_minus (rest : List UInt8) :
    readValue depth (0x2D :: rest) =
      (readNumber true rest).map fun (n, rest) => (.number n, rest) := by
  rw [readValue]
  rfl

/-- An integer is read back from its digits. -/
theorem readValue_integer {n : Int} (fits : Fits n) {rest : List UInt8} (breaks : Breaks rest) :
    readValue depth (Utf8.octets (toString n) ++ rest) = .ok (.number (.integer n), rest) := by
  obtain ⟨low, high⟩ := fits
  cases n with
  | ofNat n =>
    have small : n < Nat.pow 2 64 := Int.ofNat_lt.mp high
    have read := readNumber_toString false small breaks
    obtain ⟨x, more, written, digit⟩ := exists_octets_toString n
    rw [show toString (Int.ofNat n) = toString n from rfl]
    rw [written, List.cons_append] at read ⊢
    rw [readValue_digit depth digit, read, readIntegerEnd_breaks false n breaks nofun]
    rfl
  | negSucc n =>
    have small : n + 1 ≤ Nat.pow 2 63 := by omega
    have minus : Utf8.octets "-" = [0x2D] := by decide
    rw [show toString (Int.negSucc n) = "-" ++ toString (n + 1) from rfl, Utf8.octets_append, minus,
      List.append_assoc, List.singleton_append, readValue_minus,
      readNumber_toString true (Nat.lt_of_le_of_lt small (by decide)) breaks,
      readIntegerEnd_breaks true _ breaks fun _ => ⟨Nat.succ_ne_zero n, small⟩]
    rfl

end Values

end Gatehouse.Json
