import Gatehouse.Http.Target
import Mathlib.Data.List.TakeWhile
import Mathlib.Data.String.Basic
import Mathlib.Tactic.SplitIfs

/-!
# Paths of request targets

Which texts are the path of a request target.  A path of characters that may stand in one
is its own target, and no other text is ever asked for.
-/

namespace Gatehouse.Http.Target

/-- A text that can be asked for: it has only characters of a path, and is not too long. -/
structure IsTargetPath (path : String) : Prop where
  chars : ∀ c ∈ path.toList, isPathChar c = true
  short : path.utf8ByteSize ≤ maxLength

theorem isPathChar_ne {c : Char} (inPath : isPathChar c = true) : c ≠ '?' ∧ c ≠ '#' := by
  constructor <;> rintro rfl <;> revert inPath <;> decide

/-- What is read of a path stands in front of the text and has only characters of a path. -/
theorem prefix_of_readPath {cs path : List Char} {query : Option (List Char)}
    (read : readPath cs = .ok (path, query)) :
    path <+: cs ∧ ∀ c ∈ path, isPathChar c = true := by
  simp only [readPath] at read
  split_ifs at read with plain
  cases read
  rw [Bool.and_eq_true, List.all_eq_true] at plain
  exact ⟨List.takeWhile_prefix _, plain.1⟩

theorem readPath_of_all {cs : List Char} (plain : ∀ c ∈ cs, isPathChar c = true) :
    readPath cs = .ok (cs, none) := by
  have inside : ∀ c ∈ cs, (c != '?' && c != '#') = true := by
    intro c member
    simpa using isPathChar_ne (plain c member)
  have all : cs.all isPathChar = true := List.all_eq_true.mpr plain
  rw [readPath, List.takeWhile_eq_self_iff.mpr inside, List.dropWhile_eq_nil_iff.mpr inside]
  simp [all]

/-- A path of characters that may stand in one is its own target. -/
theorem parse_of_isTargetPath {path : String} (absolute : path.toList.head? = some '/')
    (target : IsTargetPath path) : parse path = .ok ⟨none, none, path, none⟩ := by
  rw [parse, if_neg (Nat.not_lt.mpr target.short)]
  have chars := target.chars
  cases letters : path.toList with
  | nil => simp [letters] at absolute
  | cons c cs =>
    obtain rfl : c = '/' := by simpa [letters] using absolute
    rw [letters] at chars
    simp only [readPath_of_all chars, bind, Except.bind]
    rw [← letters, String.ofList_toList]
    rfl

/-- A piece of a text that is not too long is not too long. -/
theorem short_of_sublist {s : String} {cs : List Char} (inside : cs.Sublist s.toList)
    (short : s.utf8ByteSize ≤ maxLength) : (String.ofList cs).utf8ByteSize ≤ maxLength := by
  rw [String.utf8ByteSize_ofList]
  rw [← String.utf8Len_toList] at short
  exact Nat.le_trans (String.utf8Len_le_of_sublist inside) short

theorem suffix_of_readScheme {cs scheme rest : List Char}
    (read : readScheme cs = .ok (some (scheme, rest))) : rest <:+ cs := by
  unfold readScheme at read
  split at read
  · rename_i behind
    dsimp only at read
    split_ifs at read
    cases read
    -- The rest is what the scheme leaves, without the colon and two slashes.
    refine List.IsSuffix.trans ?_ (List.dropWhile_suffix isSchemeChar)
    exact ⟨[':', '/', '/'], behind.symm⟩
  · cases read

theorem isTargetPath_of_readWhole {s : String} {target : Target}
    (short : s.utf8ByteSize ≤ maxLength) (read : readWhole s.toList = .ok target) :
    IsTargetPath target.path := by
  have empty : IsTargetPath "" := ⟨List.all_eq_true.mp (by decide), by decide⟩
  simp only [readWhole, bind, Except.bind] at read
  split at read
  · cases read
  · rename_i found front
    split at read
    · cases read
    · cases found with
      | none =>
        dsimp only at read
        split_ifs at read
        cases read
        exact empty
      | some found =>
        obtain ⟨scheme, rest⟩ := found
        dsimp only at read
        split_ifs at read
        split at read
        · cases read
        · rename_i parts readBehind
          cases read
          obtain ⟨inside, plain⟩ := prefix_of_readPath readBehind
          dsimp only
          split_ifs
          · exact ⟨List.all_eq_true.mp (by decide), by decide⟩
          · have sublist := inside.sublist.trans
              ((List.dropWhile_suffix _).sublist.trans (suffix_of_readScheme front).sublist)
            exact ⟨by rwa [String.toList_ofList], short_of_sublist sublist short⟩

/-- The path of a target can be asked for. -/
theorem isTargetPath_of_parse {s : String} {target : Target} (read : parse s = .ok target) :
    IsTargetPath target.path := by
  rw [parse] at read
  split at read
  · cases read
  · rename_i fits
    have short := Nat.not_lt.mp fits
    split at read
    · cases read
    · cases read
      exact ⟨List.all_eq_true.mp (by decide), by decide⟩
    · rename_i rest letters
      simp only [bind, Except.bind] at read
      split at read
      · cases read
      · rename_i found readFront
        cases read
        obtain ⟨inside, plain⟩ := prefix_of_readPath readFront
        rw [← letters] at inside
        exact ⟨by rwa [String.toList_ofList], short_of_sublist inside.sublist short⟩
    · split at read
      · cases read
      · rename_i c letters _
        rw [← letters] at read
        exact isTargetPath_of_readWhole short read
    · exact isTargetPath_of_readWhole short read

end Gatehouse.Http.Target
