import Gatehouse.Text.Ascii
import Gatehouse.Text.Blank

/-!
# Classes of ASCII characters

The classes by their numbers, and the hexadecimal digits read back.
-/

namespace Gatehouse.Ascii

theorem isAlphanumeric_iff {c : Char} :
    isAlphanumeric c = true ↔
      (97 ≤ c.toNat ∧ c.toNat ≤ 122) ∨ (65 ≤ c.toNat ∧ c.toNat ≤ 90) ∨
        (48 ≤ c.toNat ∧ c.toNat ≤ 57) := by
  simp only [isAlphanumeric, isLetter, isLower, isUpper, isDigit, Bool.or_eq_true,
    Bool.and_eq_true, decide_eq_true_eq, Char.le_def, UInt32.le_iff_toNat_le]
  exact or_assoc

theorem isVisible_iff {c : Char} : isVisible c = true ↔ 0x21 ≤ c.toNat ∧ c.toNat ≤ 0x7E := by
  simp [isVisible]

theorem isControl_eq_false_iff {c : Char} :
    isControl c = false ↔ 0x20 ≤ c.toNat ∧ c.toNat ≠ 0x7F := by
  simp [isControl]

theorem isVisible_of_isAlphanumeric {c : Char} (letter : isAlphanumeric c = true) :
    isVisible c = true := by
  rw [isAlphanumeric_iff] at letter
  rw [isVisible_iff]
  omega

theorem isControl_of_isVisible {c : Char} (visible : isVisible c = true) :
    isControl c = false := by
  rw [isVisible_iff] at visible
  rw [isControl_eq_false_iff]
  omega

theorem isBlank_of_isVisible {c : Char} (visible : isVisible c = true) :
    Text.isBlank c = false := by
  rw [isVisible_iff] at visible
  simp only [Text.isBlank, Bool.or_eq_false_iff, Bool.and_eq_false_iff, beq_eq_false_iff_ne,
    decide_eq_false_iff_not]
  omega

theorem isAlphanumeric_lower {c : Char} (letter : isAlphanumeric c = true) :
    isAlphanumeric (lower c) = true := by
  have images : ∀ n < 91, 65 ≤ n → isAlphanumeric (.ofNat (n + 32)) = true := by decide
  unfold lower
  split
  · rename_i upper
    rw [isUpper, Bool.and_eq_true, decide_eq_true_eq, decide_eq_true_eq, Char.le_def, Char.le_def,
      UInt32.le_iff_toNat_le, UInt32.le_iff_toNat_le] at upper
    exact images c.toNat (Nat.lt_succ_of_le upper.2) upper.1
  · exact letter

/-- A letter or a digit is no punctuation mark. -/
theorem ne_of_isAlphanumeric {c d : Char} (letter : isAlphanumeric c = true)
    (other : isAlphanumeric d = false) : c ≠ d := by
  rintro rfl
  rw [letter] at other
  cases other

theorem hexValue?_upperHexDigit : ∀ n < 16, hexValue? (upperHexDigit n) = some n := by decide

theorem hexValue?_lowerHexDigit : ∀ n < 16, hexValue? (lowerHexDigit n) = some n := by decide

theorem isAlphanumeric_upperHexDigit : ∀ n < 16, isAlphanumeric (upperHexDigit n) = true := by
  decide

theorem toNat_upperHexDigit_lt : ∀ n < 16, (upperHexDigit n).toNat < 0x80 := by decide

theorem toNat_lowerHexDigit_lt : ∀ n < 16, (lowerHexDigit n).toNat < 0x80 := by decide

/-- The digits of a number. -/
theorem isDigit_of_mem_toString (n : Nat) : ∀ c ∈ (toString n).toList, isDigit c = true := by
  intro c member
  rw [Nat.toString_eq_repr, Nat.toList_repr] at member
  have digit := Nat.isDigit_of_mem_toDigits (by decide) (by decide) member
  simpa [Char.isDigit, isDigit, Char.le_def] using digit

/-- A number that was written is read back. -/
theorem natural?_toString (n : Nat) : natural? (toString n).toList = some n := by
  have digits : (toString n).toList.all isDigit = true :=
    List.all_eq_true.mpr (isDigit_of_mem_toString n)
  have written : (toString n).toList = Nat.toDigits 10 n := by
    rw [Nat.toString_eq_repr, Nat.toList_repr]
  have value : (Nat.toDigits 10 n).foldl (fun m c => m * 10 + (c.toNat - '0'.toNat)) 0 = n := by
    simp only [Nat.mul_comm _ 10]
    rw [← Nat.ofDigitChars_eq_foldl, Nat.ofDigitChars_toDigits (by decide) (by decide)]
  rw [natural?, digits, written, value, if_neg]
  simp [Nat.toDigits_ne_nil]

theorem isAlphanumeric_digitChar : ∀ d < 16, isAlphanumeric (Nat.digitChar d) = true := by decide

/-- The hexadecimal digits of a number. -/
theorem isAlphanumeric_of_mem_toDigits (n : Nat) :
    ∀ c ∈ Nat.toDigits 16 n, isAlphanumeric c = true := by
  induction n using Nat.strongRecOn with
  | ind n ih =>
    intro c member
    by_cases small : n < 16
    · rw [Nat.toDigits_of_lt_base small] at member
      rw [List.mem_singleton.mp member]
      exact isAlphanumeric_digitChar n small
    · rw [Nat.toDigits_of_base_le (by decide) (by omega)] at member
      rcases List.mem_append.mp member with front | last
      · exact ih (n / 16) (by omega) c front
      · rw [List.mem_singleton.mp last]
        exact isAlphanumeric_digitChar _ (Nat.mod_lt n (by decide))

theorem isAlphanumeric_of_mem_toString (n : Nat) :
    ∀ c ∈ (toString n).toList, isAlphanumeric c = true := by
  intro c member
  rw [isAlphanumeric, isDigit_of_mem_toString n c member, Bool.or_true]

theorem eq_zero_of_toString {n : Nat} (zero : toString n = "0") : n = 0 := by
  have digits : Nat.toDigits 10 n = ['0'] := by
    rw [← Nat.toList_repr]
    exact congrArg String.toList zero
  have whole := Nat.ofDigitChars_toDigits (n := n) (by decide : 1 < 10) (by decide)
  rw [← whole, digits]
  rfl

end Gatehouse.Ascii
