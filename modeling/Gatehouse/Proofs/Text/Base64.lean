import Gatehouse.Proofs.Text.Utf8
import Gatehouse.Text.Ascii
import Gatehouse.Text.Base64

/-!
# Base64 round trips

What is written in the alphabet for URLs reads back as the same octets.  Of both alphabets,
the letters that a text is made of and how many of them it has are known.
-/

namespace Gatehouse.Base64

/-- Whether a character is a letter of the alphabet for URLs. -/
def isUrlSafe (c : Char) : Bool :=
  Ascii.isAlphanumeric c || c == '-' || c == '_'

theorem isUrlSafe_letter : ∀ n < 64, isUrlSafe (urlSafe.letter n) = true := by decide

theorem toNat_letter_lt : ∀ n < 64, (urlSafe.letter n).toNat < 0x80 := by decide

/-- The letter of a number in the alphabet for URLs, as an octet. -/
def letterOctet (n : Nat) : UInt8 :=
  .ofNat (urlSafe.letter n).toNat

theorem value?_letterOctet : ∀ n < 64, value? (letterOctet n) = some n := by decide

theorem letterOctet_ne_equals : ∀ n < 64, letterOctet n ≠ 61 := by decide

/-- A property of all letters and of the filling holds of all that is written. -/
theorem forall_mem_encode {alphabet : Alphabet} {P : Char → Prop}
    (letters : ∀ n < 64, P (alphabet.letter n)) (filling : alphabet.filled = true → P '=')
    (octets : List UInt8) : ∀ c ∈ encode alphabet octets, P c := by
  have fill (count : Nat) : ∀ c ∈ alphabet.filling count, P c := by
    intro c member
    unfold Alphabet.filling at member
    split at member
    · rename_i filled
      rw [List.eq_of_mem_replicate member]
      exact filling filled
    · cases member
  induction octets using encode.induct with
  | case1 => intro c member; cases member
  | case2 a =>
    have bound := a.toNat_lt
    intro c member
    simp only [encode, List.mem_append, List.mem_cons, List.not_mem_nil, or_false] at member
    rcases member with (rfl | rfl) | member
    · exact letters _ (by omega)
    · exact letters _ (by omega)
    · exact fill _ _ member
  | case3 a b =>
    have boundA := a.toNat_lt
    have boundB := b.toNat_lt
    intro c member
    simp only [encode, List.mem_append, List.mem_cons, List.not_mem_nil, or_false] at member
    rcases member with (rfl | rfl | rfl) | member
    · exact letters _ (by omega)
    · exact letters _ (by omega)
    · exact letters _ (by omega)
    · exact fill _ _ member
  | case4 a b c rest ih =>
    have boundA := a.toNat_lt
    have boundB := b.toNat_lt
    have boundC := c.toNat_lt
    intro d member
    simp only [encode, List.mem_cons] at member
    rcases member with rfl | rfl | rfl | rfl | member
    · exact letters _ (by omega)
    · exact letters _ (by omega)
    · exact letters _ (by omega)
    · exact letters _ (by omega)
    · exact ih d member

theorem isUrlSafe_of_mem_encode (octets : List UInt8) :
    ∀ c ∈ encode urlSafe octets, isUrlSafe c = true :=
  forall_mem_encode isUrlSafe_letter (fun filled => by cases filled) octets

/-- A filled text has four letters for every three octets that were begun. -/
theorem length_encode (octets : List UInt8) :
    (encode usual octets).length = (octets.length + 2) / 3 * 4 := by
  induction octets using encode.induct with
  | case1 => rfl
  | case2 a => simp [encode, Alphabet.filling, usual]
  | case3 a b => simp [encode, Alphabet.filling, usual]
  | case4 a b c rest ih =>
    simp only [encode, List.length_cons, ih]
    omega

/-- What is written in the alphabet for URLs, as octets. -/
def letterOctets (octets : List UInt8) : List UInt8 :=
  Utf8.encode (encode urlSafe octets)

theorem letterOctets_eq (octets : List UInt8) :
    letterOctets octets = (encode urlSafe octets).map fun c => .ofNat c.toNat :=
  Utf8.encode_of_ascii (forall_mem_encode toNat_letter_lt (fun filled => by cases filled) octets)

theorem letterOctets_one (a : UInt8) :
    letterOctets [a] = [letterOctet (a.toNat / 4), letterOctet (a.toNat % 4 * 16)] := by
  rw [letterOctets_eq]
  rfl

theorem letterOctets_two (a b : UInt8) :
    letterOctets [a, b] =
      [letterOctet (a.toNat / 4), letterOctet (a.toNat % 4 * 16 + b.toNat / 16),
        letterOctet (b.toNat % 16 * 4)] := by
  rw [letterOctets_eq]
  rfl

theorem letterOctets_three (a b c : UInt8) (rest : List UInt8) :
    letterOctets (a :: b :: c :: rest) =
      letterOctet (a.toNat / 4) :: letterOctet (a.toNat % 4 * 16 + b.toNat / 16) ::
        letterOctet (b.toNat % 16 * 4 + c.toNat / 64) :: letterOctet (c.toNat % 64) ::
        letterOctets rest := by
  rw [letterOctets_eq, letterOctets_eq]
  rfl

theorem valueAt_letterOctet {n : Nat} (bound : n < 64) (place : Nat) :
    valueAt (letterOctet n) place = .ok n := by
  rw [valueAt, value?_letterOctet n bound]

/-- A group of letters alone is read letter by letter. -/
theorem lastLetters_map (numbers : List Nat) (bounds : ∀ n ∈ numbers, n < 64)
    (start index : Nat) :
    lastLetters start (numbers.map letterOctet) index none =
      .ok (numbers.map fun n => (letterOctet n, n), none) := by
  induction numbers generalizing index with
  | nil => rfl
  | cons n numbers ih =>
    have bound := bounds n List.mem_cons_self
    rw [List.map_cons, lastLetters, if_neg (letterOctet_ne_equals n bound),
      valueAt_letterOctet bound]
    simp only [bind, Except.bind, ih fun m member => bounds m (List.mem_cons_of_mem _ member),
      List.map_cons]

theorem ofNat_first (a : UInt8) (more : Nat) (bound : more < 16) :
    UInt8.ofNat (a.toNat / 4 * 4 + (a.toNat % 4 * 16 + more) / 16) = a := by
  rw [show a.toNat / 4 * 4 + (a.toNat % 4 * 16 + more) / 16 = a.toNat by omega, UInt8.ofNat_toNat]

theorem ofNat_second (b : UInt8) (before more : Nat) (bound : more < 4) :
    UInt8.ofNat ((before * 16 + b.toNat / 16) % 16 * 16 + (b.toNat % 16 * 4 + more) / 4) = b := by
  have high := b.toNat_lt
  have whole : (before * 16 + b.toNat / 16) % 16 * 16 + (b.toNat % 16 * 4 + more) / 4 =
      b.toNat := by omega
  rw [whole, UInt8.ofNat_toNat]

theorem ofNat_third (c : UInt8) (before : Nat) :
    UInt8.ofNat ((before * 4 + c.toNat / 64) % 4 * 64 + c.toNat % 64) = c := by
  have high := c.toNat_lt
  rw [show (before * 4 + c.toNat / 64) % 4 * 64 + c.toNat % 64 = c.toNat by omega,
    UInt8.ofNat_toNat]

theorem decodeLast_one (start : Nat) (a : UInt8) :
    decodeLast start (letterOctets [a]) = .ok [a] := by
  have bound := a.toNat_lt
  have group := lastLetters_map [a.toNat / 4, a.toNat % 4 * 16]
    (by simp only [List.forall_mem_cons]; exact ⟨by omega, by omega, by simp⟩) start 0
  simp only [List.map_cons, List.map_nil] at group
  rw [letterOctets_one, decodeLast, group]
  simp only [bind, Except.bind]
  have first := ofNat_first a 0 (by omega)
  rw [Nat.add_zero] at first
  rw [if_neg (by simp), if_neg (by simp), if_pos (by omega), first]

theorem decodeLast_two (start : Nat) (a b : UInt8) :
    decodeLast start (letterOctets [a, b]) = .ok [a, b] := by
  have boundA := a.toNat_lt
  have boundB := b.toNat_lt
  have group := lastLetters_map
    [a.toNat / 4, a.toNat % 4 * 16 + b.toNat / 16, b.toNat % 16 * 4]
    (by simp only [List.forall_mem_cons]; exact ⟨by omega, by omega, by omega, by simp⟩) start 0
  simp only [List.map_cons, List.map_nil] at group
  rw [letterOctets_two, decodeLast, group]
  simp only [bind, Except.bind]
  have second := ofNat_second b (a.toNat % 4) 0 (by omega)
  rw [Nat.add_zero] at second
  rw [if_neg (by simp), if_neg (by simp), if_pos (by omega), ofNat_first a _ (by omega), second]

theorem decodeLast_three (start : Nat) (a b c : UInt8) :
    decodeLast start (letterOctets [a, b, c]) = .ok [a, b, c] := by
  have boundA := a.toNat_lt
  have boundB := b.toNat_lt
  have boundC := c.toNat_lt
  have group := lastLetters_map
    [a.toNat / 4, a.toNat % 4 * 16 + b.toNat / 16, b.toNat % 16 * 4 + c.toNat / 64, c.toNat % 64]
    (by simp only [List.forall_mem_cons]; exact ⟨by omega, by omega, by omega, by omega, by simp⟩)
    start 0
  simp only [List.map_cons, List.map_nil] at group
  rw [letterOctets_three, decodeLast]
  rw [show letterOctets [] = [] from rfl, group]
  simp only [bind, Except.bind]
  rw [if_neg (by simp), if_neg (by simp), ofNat_first a _ (by omega), ofNat_second b _ _ (by omega),
    ofNat_third c]

theorem exists_letterOctets_cons (x : UInt8) (rest : List UInt8) :
    ∃ y more, letterOctets (x :: rest) = y :: more := by
  match rest with
  | [] => exact ⟨_, _, letterOctets_one x⟩
  | [a] => exact ⟨_, _, letterOctets_two x a⟩
  | a :: b :: rest => exact ⟨_, _, letterOctets_three x a b rest⟩

theorem decodeFrom_letterOctets (start : Nat) (octets : List UInt8) :
    decodeFrom start (letterOctets octets) = .ok octets := by
  induction octets using encode.induct generalizing start with
  | case1 => rfl
  | case2 a =>
    rw [← decodeLast_one start a, letterOctets_one]
    rfl
  | case3 a b =>
    rw [← decodeLast_two start a b, letterOctets_two]
    rfl
  | case4 a b c rest ih =>
    have boundA := a.toNat_lt
    have boundB := b.toNat_lt
    have boundC := c.toNat_lt
    -- Only a group with more behind it is read at once; the last one may be cut short.
    cases rest with
    | nil =>
      rw [← decodeLast_three start a b c, letterOctets_three]
      rfl
    | cons x rest =>
      obtain ⟨y, more, next⟩ := exists_letterOctets_cons x rest
      have tail := ih (start + 4)
      rw [next] at tail
      rw [letterOctets_three, next, decodeFrom, valueAt_letterOctet (by omega),
        valueAt_letterOctet (by omega), valueAt_letterOctet (by omega),
        valueAt_letterOctet (by omega)]
      simp only [bind, Except.bind, tail]
      rw [ofNat_first a _ (by omega), ofNat_second b _ _ (by omega), ofNat_third c]

/-- Every octet that is written is a letter, so none of them strays at the end. -/
theorem strayEnd?_letterOctets (octets : List UInt8) : strayEnd? (letterOctets octets) = none := by
  have letters : ∀ x ∈ letterOctets octets, value? x ≠ none := by
    rw [letterOctets_eq]
    intro x member
    obtain ⟨c, inside, rfl⟩ := List.mem_map.mp member
    refine forall_mem_encode (P := fun c => value? (.ofNat c.toNat) ≠ none) ?_
      (fun filled => by cases filled) octets c inside
    intro n bound
    rw [← letterOctet, value?_letterOctet n bound]
    exact Option.some_ne_none n
  unfold strayEnd?
  split
  · rename_i x last
    exact if_neg fun stray => letters x (List.mem_of_getLast? last) stray.2.2
  · rfl

/-- Octets that were written in the alphabet for URLs read back. -/
theorem decode_letterOctets (octets : List UInt8) : decode (letterOctets octets) = .ok octets := by
  rw [decode, strayEnd?_letterOctets]
  exact decodeFrom_letterOctets 0 octets

end Gatehouse.Base64
