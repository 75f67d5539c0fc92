import Gatehouse.Proofs.Text.Ascii
import Gatehouse.Url.Domain
import Mathlib.Data.Bool.AllAny

/-!
# The characters of domain names

A domain name in ASCII has no forbidden characters, whether its labels are kept or written
with Punycode.
-/

namespace Gatehouse.Url

namespace Punycode

theorem one_le_threshold (place bias : Nat) : 1 ≤ threshold place bias := by
  unfold threshold
  split
  · omega
  · split <;> omega

theorem threshold_le (place bias : Nat) : threshold place bias ≤ 26 := by
  unfold threshold
  split
  · omega
  · split <;> omega

theorem isAlphanumeric_digit : ∀ n < 36, Ascii.isAlphanumeric (digit n) = true := by decide

theorem mem_digits {bias limit place n : Nat} {c : Char} (member : c ∈ digits bias limit place n) :
    Ascii.isAlphanumeric c = true := by
  induction limit generalizing place n with
  | zero => cases member
  | succ limit ih =>
    have low := one_le_threshold place bias
    have high := threshold_le place bias
    rw [digits] at member
    split at member
    · rw [List.mem_singleton.mp member]
      exact isAlphanumeric_digit n (by omega)
    · rcases List.mem_cons.mp member with rfl | member
      · have rest :=
          Nat.mod_lt (n - threshold place bias) (show 0 < 36 - threshold place bias by omega)
        exact isAlphanumeric_digit _ (by omega)
      · exact ih member

/-- Only letters and digits have been written. -/
def Writing.IsPlain (w : Writing) : Prop :=
  ∀ c ∈ w.output, Ascii.isAlphanumeric c = true

theorem Writing.IsPlain.writeChar {w : Writing} (plain : w.IsPlain) (ascii point : Nat)
    (label : List Char) : (Punycode.writeChar ascii point label w).IsPlain := by
  unfold Punycode.writeChar
  induction label generalizing w with
  | nil => exact plain
  | cons c label ih =>
    refine ih ?_
    dsimp only
    split
    · exact plain
    · split
      · intro d member
        rcases List.mem_append.mp member with before | written
        · exact plain d before
        · exact mem_digits written
      · exact plain

theorem Writing.IsPlain.foldl {step : Nat × Writing → Nat → Nat × Writing}
    (keeps : ∀ state point, state.2.IsPlain → (step state point).2.IsPlain) (points : List Nat)
    (state : Nat × Writing) (before : state.2.IsPlain) :
    (points.foldl step state).2.IsPlain := by
  induction points generalizing state with
  | nil => exact before
  | cons point points ih => exact ih _ (keeps state point before)

/-- What a written label is made of. -/
theorem mem_encode {label : List Char} {c : Char} (member : c ∈ encode label) :
    c ∈ label ∨ c = '-' ∨ Ascii.isAlphanumeric c = true := by
  unfold encode at member
  rcases List.mem_append.mp member with front | back
  · split at front
    · cases front
    · rcases List.mem_append.mp front with basic | mark
      · exact .inl (List.mem_filter.mp basic).1
      · exact .inr (.inl (List.mem_singleton.mp mark))
  · refine .inr (.inr (Writing.IsPlain.foldl ?_ _ (0x80, ⟨[], 0, 72, _⟩) ?_ c back))
    · rintro ⟨next, w⟩ point before
      exact Writing.IsPlain.writeChar
        (w := { w with distance := w.distance + (point - next) * (w.done + 1) }) before _ _ _
    · exact fun _ member => nomatch member

theorem isAlphanumeric_of_value? {c : Char} {n : Nat} (digit : value? c = some n) :
    Ascii.isAlphanumeric c = true := by
  unfold value? at digit
  rw [Ascii.isAlphanumeric, Ascii.isLetter]
  split at digit
  · rename_i lower
    rw [lower]
    rfl
  · split at digit
    · rename_i upper
      rw [upper, Bool.or_true]
      rfl
    · split at digit
      · rename_i decimal
        rw [decimal, Bool.or_true]
      · cases digit

theorem readNumber_some {bias place weight sum n : Nat} {input rest : List Char}
    (read : readNumber bias place weight sum input = some (n, rest)) :
    ∀ c ∈ input, Ascii.isAlphanumeric c = true ∨ c ∈ rest := by
  induction input generalizing place weight sum with
  | nil => exact fun c member => nomatch member
  | cons d input ih =>
    rw [readNumber, Option.bind_eq_bind, Option.bind_eq_some_iff] at read
    obtain ⟨value, digit, read⟩ := read
    intro c member
    rcases List.mem_cons.mp member with rfl | member
    · exact .inl (isAlphanumeric_of_value? digit)
    · dsimp only at read
      split at read
      · cases read
        exact .inr member
      · exact ih read c member

/-- Reading consumes letters and digits only, and keeps what the label had. -/
theorem readPoints_some {limit point place bias : Nat} {label input inner : List Char}
    (read : readPoints limit point place bias label input = some inner) :
    (∀ c ∈ input, Ascii.isAlphanumeric c = true) ∧ ∀ c ∈ label, c ∈ inner := by
  induction limit generalizing point place bias label input with
  | zero =>
    cases input with
    | nil =>
      simp only [readPoints, Option.some.injEq] at read
      exact ⟨fun c member => (nomatch member), fun c member => read ▸ member⟩
    | cons d input => simp [readPoints] at read
  | succ limit ih =>
    cases input with
    | nil =>
      simp only [readPoints, Option.some.injEq] at read
      exact ⟨fun c member => (nomatch member), fun c member => read ▸ member⟩
    | cons d input =>
      simp only [readPoints, Option.bind_eq_bind, Option.bind_eq_some_iff] at read
      obtain ⟨⟨distance, rest⟩, number, read⟩ := read
      dsimp only at read
      split at read
      · cases read
      · have ⟨digits, kept⟩ := ih read
        constructor
        · intro c member
          rcases readNumber_some number c member with digit | behind
          · exact digit
          · exact digits c behind
        · intro c member
          refine kept c ?_
          rw [← List.take_append_drop ((place + distance) % (label.length + 1)) label,
            List.mem_append] at member
          rw [List.mem_append, List.mem_cons]
          exact member.imp_right .inr

theorem mem_dropWhile {p : Char → Bool} {cs : List Char} {c : Char} (member : c ∈ cs.dropWhile p) :
    c ∈ (cs.dropWhile p).drop 1 ∨ p c = false := by
  induction cs with
  | nil => cases member
  | cons d cs ih =>
    rw [List.dropWhile_cons] at member ⊢
    split at member
    · rename_i goes
      rw [if_pos goes]
      exact ih member
    · rename_i stays
      rw [if_neg stays]
      rcases List.mem_cons.mp member with rfl | member
      · exact .inr (Bool.eq_false_iff.mpr stays)
      · exact .inl member

/-- A text that is read as a label is made of letters, digits, hyphens and what the label has. -/
theorem mem_of_decode? {text inner : List Char} (read : decode? text = some inner) {c : Char}
    (member : c ∈ text) : Ascii.isAlphanumeric c = true ∨ c = '-' ∨ c ∈ inner := by
  have ⟨digits, kept⟩ := readPoints_some read
  rw [← List.mem_reverse, ← List.takeWhile_append_dropWhile (p := (· != '-')) (l := text.reverse),
    List.mem_append] at member
  rcases member with place | basic
  · exact .inl (digits c (List.mem_reverse.mpr place))
  · rcases mem_dropWhile basic with behind | mark
    · exact .inr (.inr (kept c (List.mem_reverse.mpr behind)))
    · exact .inr (.inl (by simpa using mark))

end Punycode

namespace Domain

theorem isControl_of_not_isForbidden {c : Char} (allowed : isForbidden c = false) :
    Ascii.isControl c = false := by
  simp only [isForbidden, Bool.or_eq_false_iff, decide_eq_false_iff_not, beq_eq_false_iff_ne]
    at allowed
  rw [Ascii.isControl_eq_false_iff]
  omega

/-- What is forbidden is in ASCII, and neither a letter nor a digit. -/
theorem ascii_of_isForbidden {c : Char} (forbidden : isForbidden c = true) :
    c.toNat < 0x80 ∧ Ascii.isAlphanumeric c = false := by
  have marks : ∀ c ∈ "%#/:<>?@[\\]^|".toList, c.toNat < 0x80 ∧ Ascii.isAlphanumeric c = false :=
    List.all_iff_forall_prop.mp (by decide)
  rw [isForbidden, Bool.or_eq_true, Bool.or_eq_true, decide_eq_true_eq, beq_iff_eq,
    List.contains_iff_mem] at forbidden
  rcases forbidden with number | mark
  · rw [← Bool.not_eq_true, Ascii.isAlphanumeric_iff]
    omega
  · exact marks c mark

theorem isForbidden_of_isAlphanumeric {c : Char} (letter : Ascii.isAlphanumeric c = true) :
    isForbidden c = false := by
  refine Bool.eq_false_iff.mpr fun forbidden => ?_
  rw [(ascii_of_isForbidden forbidden).2] at letter
  cases letter

theorem isForbidden_of_high {c : Char} (high : 0x80 ≤ c.toNat) : isForbidden c = false := by
  refine Bool.eq_false_iff.mpr fun forbidden => ?_
  have low := (ascii_of_isForbidden forbidden).1
  omega

theorem isForbidden_of_isLabel {label : List Char} (valid : isLabel label = true) :
    ∀ c ∈ label, isForbidden c = false := by
  intro c member
  unfold isLabel at valid
  rw [Bool.and_eq_true, Bool.and_eq_true, List.all_eq_true] at valid
  have allowed := valid.1.1 c member
  rw [Bool.and_eq_true, Bool.or_eq_true, decide_eq_true_eq, Bool.not_eq_true'] at allowed
  rcases allowed.2 with high | allowed
  · exact isForbidden_of_high high
  · exact allowed

theorem isForbidden_of_labelToAscii? {label text : List Char}
    (written : labelToAscii? label = some text) : ∀ c ∈ text, isForbidden c = false := by
  intro c member
  have mark : ∀ d ∈ punycodeMark, isForbidden d = false :=
    List.all_iff_forall_prop.mp (by decide)
  unfold labelToAscii? at written
  split at written
  · rename_i marked
    split at written
    · rename_i inner read
      split at written
      · rename_i valid
        cases written
        obtain ⟨rest, rfl⟩ := List.isPrefixOf_iff_prefix.mp marked
        rcases List.mem_append.mp member with front | back
        · exact mark c front
        · rw [List.drop_left] at read
          simp only [Bool.and_eq_true] at valid
          rcases Punycode.mem_of_decode? read back with letter | rfl | kept
          · exact isForbidden_of_isAlphanumeric letter
          · decide
          · exact isForbidden_of_isLabel valid.1.1 c kept
      · cases written
    · cases written
  · split at written
    · split at written
      · cases written
      · rename_i allowed
        cases written
        exact Bool.eq_false_iff.mpr fun forbidden =>
          allowed (List.any_eq_true.mpr ⟨c, member, forbidden⟩)
    · split at written
      · rename_i valid
        cases written
        rcases List.mem_append.mp member with front | back
        · exact mark c front
        · rcases Punycode.mem_encode back with kept | rfl | letter
          · exact isForbidden_of_isLabel valid c kept
          · decide
          · exact isForbidden_of_isAlphanumeric letter
      · cases written

theorem mem_joinLabels {labels : List (List Char)} {c : Char} (member : c ∈ joinLabels labels) :
    c = '.' ∨ ∃ label ∈ labels, c ∈ label := by
  induction labels using joinLabels.induct with
  | case1 => cases member
  | case2 label => exact .inr ⟨label, List.mem_cons_self, member⟩
  | case3 label next rest ih =>
    rw [joinLabels, List.mem_append, List.mem_cons] at member
    rcases member with first | rfl | member
    · exact .inr ⟨label, List.mem_cons_self, first⟩
    · exact .inl rfl
    · rcases ih member with dot | ⟨other, inside, member⟩
      · exact .inl dot
      · exact .inr ⟨other, List.mem_cons_of_mem _ inside, member⟩

theorem exists_of_mem_mapM {α β : Type} {f : α → Option β} {xs : List α} {ys : List β}
    (mapped : xs.mapM f = some ys) : ∀ y ∈ ys, ∃ x ∈ xs, f x = some y := by
  induction xs generalizing ys with
  | nil =>
    cases mapped
    exact fun y member => nomatch member
  | cons x xs ih =>
    rw [List.mapM_cons] at mapped
    simp only [Option.bind_eq_bind, Option.bind_eq_some_iff, Option.pure_def,
      Option.some.injEq] at mapped
    obtain ⟨first, found, rest, mapped, rfl⟩ := mapped
    intro y member
    rcases List.mem_cons.mp member with rfl | member
    · exact ⟨x, List.mem_cons_self, found⟩
    · obtain ⟨other, inside, found⟩ := ih mapped y member
      exact ⟨other, List.mem_cons_of_mem _ inside, found⟩

/-- A domain name in ASCII has no forbidden characters. -/
theorem isForbidden_of_toAscii? {name text : List Char} (written : toAscii? name = some text) :
    ∀ c ∈ text, isForbidden c = false := by
  simp only [toAscii?, Option.bind_eq_bind, Option.bind_eq_some_iff, Option.some.injEq] at written
  obtain ⟨images, -, labels, mapped, rfl⟩ := written
  intro c member
  rcases mem_joinLabels member with rfl | ⟨label, inside, member⟩
  · decide
  · obtain ⟨source, -, written⟩ := exists_of_mem_mapM mapped label inside
    exact isForbidden_of_labelToAscii? written c member

end Domain

end Gatehouse.Url
