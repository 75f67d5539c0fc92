import Gatehouse.Proofs.Json.Strings
import Gatehouse.Proofs.Result

/-!
# Strings that are read or skipped

A string that is read ends where it ends when it is skipped.  The converse does not hold: what is
skipped may name half a character or hold octets that are no text.
-/

namespace Gatehouse.Json

/-- A character is named by one number, or by two if it lies above U+FFFF. -/
theorem exists_of_readCodePoint {input : List UInt8} {c : Char} {used : Nat}
    (read : readCodePoint input = .ok (c, used)) :
    (∃ n, readHex input = .ok n) ∧ (used = 4 ∨
      ∃ more m, input.drop 4 = 0x5C :: 0x75 :: more ∧ readHex more = .ok m ∧ used = 10) := by
  obtain ⟨n, first, read⟩ := exists_of_bind_eq_ok read
  refine ⟨⟨n, first⟩, ?_⟩
  dsimp only at read
  split at read
  · cases read
  split at read
  · cases read
    exact .inl rfl
  split at read
  · cases read
  · split at read <;> cases read
  · rename_i x y more behind
    split at read
    · cases read
    rename_i backslash
    split at read
    · cases read
    rename_i letter
    obtain ⟨m, second, read⟩ := exists_of_bind_eq_ok read
    split at read
    · have both := Prod.mk.inj (Except.ok.inj read)
      rw [Decidable.not_not.mp backslash, Decidable.not_not.mp letter] at behind
      exact .inr ⟨more, m, behind, second, both.2.symm⟩
    · cases read

theorem skipText_number {input : List UInt8} {n : Nat} (read : readHex input = .ok n) :
    skipText (0x5C :: 0x75 :: input) = skipText (input.drop 4) := by
  rw [skipText, if_neg (by decide), if_pos rfl, skipEscape, if_pos rfl, read]
  rfl

/-- An escape that is read is skipped, in two steps if it took two numbers. -/
theorem skipText_of_readEscape {input : List UInt8} {c : Char} {used : Nat}
    (read : readEscape input = .ok (c, used)) :
    skipText (0x5C :: input) = skipText (input.drop used) := by
  unfold readEscape at read
  split at read
  · cases read
  rename_i x rest
  split at read
  · rename_i letter
    subst x
    obtain ⟨⟨d, count⟩, point, same⟩ := exists_of_map_eq_ok read
    cases same
    obtain ⟨⟨n, first⟩, rfl | ⟨more, m, behind, second, rfl⟩⟩ := exists_of_readCodePoint point
    · exact skipText_number first
    -- One character above U+FFFF is read, but two escapes are skipped.
    · rw [skipText_number first, behind, skipText_number second, List.drop_succ_cons,
        show (10 : Nat) = 4 + 6 from rfl, ← List.drop_drop, behind]
      rfl
  · rename_i letter
    split at read
    · rename_i known
      cases read
      rw [skipText, if_neg (by decide), if_pos rfl, skipEscape, if_neg letter, known]
      rfl
    · cases read

/-- A string that is read is skipped up to the same place. -/
theorem skipText_of_readTextOctets {input octets rest : List UInt8}
    (read : readTextOctets input = .ok (octets, rest)) : skipText input = .ok rest := by
  fun_induction readTextOctets input generalizing octets with
  | case1 => cases read
  | case2 more =>
    cases read
    rw [skipText, if_pos rfl]
  | case3 => cases read
  | case4 more c used escape _ ih =>
    obtain ⟨⟨behind, after⟩, inner, same⟩ := exists_of_map_eq_ok read
    cases same
    rw [skipText_of_readEscape escape]
    exact ih inner
  | case5 => cases read
  | case6 x more quote backslash high ih =>
    obtain ⟨⟨behind, after⟩, inner, same⟩ := exists_of_map_eq_ok read
    cases same
    rw [skipText, if_neg quote, if_neg backslash, if_neg high]
    exact ih inner

theorem length_lt_of_skipText {input rest : List UInt8} (skipped : skipText input = .ok rest) :
    rest.length < input.length := by
  fun_induction skipText input with
  | case1 => cases skipped
  | case2 more =>
    cases skipped
    exact Nat.lt_succ_self _
  | case3 => cases skipped
  | case4 more _ used _ ih =>
    have behind := ih skipped
    rw [List.length_drop] at behind
    rw [List.length_cons]
    omega
  | case5 => cases skipped
  | case6 x more _ _ _ ih => exact Nat.lt_succ_of_lt (ih skipped)

/-- A value that no bracket opens ends where its own reader says. -/
theorem skipValue_of_quote {input behind rest : List UInt8}
    (quote : skipSpace input = 0x22 :: behind) (skipped : skipText behind = .ok rest) :
    skipValue input = .ok rest := by
  rw [skipValue, skipValues, quote]
  simp only [skipped]
  rfl

theorem wrongType_ne_ok {α : Type} (expected : String) (input : List UInt8) (a : α) :
    wrongType expected input ≠ .ok a := by
  intro read
  unfold wrongType at read
  split at read
  · cases read
  iterate 6
    split at read
    · obtain ⟨_, _, read⟩ := exists_of_bind_eq_ok read
      cases read
  split at read
  · cases read
  split at read
  · cases read
  · cases read

/-- What is read as a string begins with a quote. -/
theorem quote_of_readString {input rest : List UInt8} {s : String}
    (read : readString input = .ok (s, rest)) :
    ∃ behind, skipSpace input = 0x22 :: behind ∧ readText behind = .ok (s, rest) := by
  unfold readString at read
  split at read
  · cases read
  rename_i x behind space
  split at read
  · rename_i quote
    subst x
    exact ⟨behind, space, read⟩
  · exact absurd read (wrongType_ne_ok _ _ _)

theorem skipText_of_readText {input rest : List UInt8} {s : String}
    (read : readText input = .ok (s, rest)) : skipText input = .ok rest := by
  obtain ⟨⟨octets, after⟩, text, read⟩ := exists_of_bind_eq_ok read
  dsimp only at read
  split at read
  · cases read
    exact skipText_of_readTextOctets text
  · cases read

theorem skipValue_of_readString {input rest : List UInt8} {s : String}
    (read : readString input = .ok (s, rest)) :
    skipValue input = .ok rest ∧ rest.length < input.length := by
  obtain ⟨behind, quote, text⟩ := quote_of_readString read
  have skipped := skipText_of_readText text
  have short := length_lt_of_skipText skipped
  have space := length_skipSpace_le input
  rw [quote, List.length_cons] at space
  exact ⟨skipValue_of_quote quote skipped, by omega⟩

end Gatehouse.Json
