import Gatehouse.Proofs.Result
import Gatehouse.Proofs.Text.Base64

/-!
# The one form of a Base64 text

Reading in the alphabet for URLs accepts a text only in the form in which it is written: letters
of this alphabet alone, no letter left over in the last group, and no bits in its last letter
that belong to no octet.
-/

namespace Gatehouse.Base64

/-- A letter stands for one number, which has no other letter. -/
theorem value?_eq_some_iff {octet : UInt8} {n : Nat} :
    value? octet = some n ↔ n < 64 ∧ octet = letterOctet n := by
  constructor
  · intro read
    have table : ∀ m < 256, ∀ n ∈ value? (.ofNat m), n < 64 ∧ UInt8.ofNat m = letterOctet n := by
      decide +kernel
    have known := table octet.toNat octet.toNat_lt
    rw [UInt8.ofNat_toNat] at known
    exact known n read
  · rintro ⟨bound, rfl⟩
    exact value?_letterOctet n bound

theorem valueAt_eq_ok {octet : UInt8} {place n : Nat} (read : valueAt octet place = .ok n) :
    n < 64 ∧ octet = letterOctet n := by
  unfold valueAt at read
  split at read
  · rename_i found
    cases read
    exact value?_eq_some_iff.mp found
  · cases read

/-- Octets that are the letters of numbers. -/
def AreLetters (octets : List UInt8) (numbers : List Nat) : Prop :=
  (∀ n ∈ numbers, n < 64) ∧ octets = numbers.map letterOctet

/-- A last group without `=` consists of letters. -/
theorem exists_of_lastLetters {start index : Nat} {group : List UInt8} {equals : Option Nat}
    {letters : List (UInt8 × Nat)}
    (read : lastLetters start group index equals = .ok (letters, none)) :
    equals = none ∧ ∃ numbers, AreLetters group numbers ∧
      letters = numbers.map fun n => (letterOctet n, n) := by
  induction group generalizing index equals letters with
  | nil =>
    cases read
    exact ⟨rfl, [], ⟨by simp, rfl⟩, rfl⟩
  | cons x group ih =>
    unfold lastLetters at read
    split at read
    · split at read
      · cases read
      · -- Once there is a `=` there is one at the end of the group.
        have gone := (ih read).1
        cases equals <;> cases gone
    · split at read
      · cases read
      · simp only [bind, Except.bind] at read
        split at read
        · cases read
        · rename_i n found
          split at read
          · cases read
          · rename_i result more
            obtain ⟨behind, equals⟩ := result
            cases read
            obtain ⟨bound, rfl⟩ := valueAt_eq_ok found
            obtain ⟨-, numbers, ⟨bounds, rfl⟩, rest⟩ := ih more
            refine ⟨rfl, n :: numbers, ⟨?_, rfl⟩, ?_⟩
            · exact List.forall_mem_cons.mpr ⟨bound, bounds⟩
            · rw [rest, List.map_cons]

theorem toNat_ofNat_first {a b : Nat} (boundA : a < 64) (boundB : b < 64) :
    (UInt8.ofNat (a * 4 + b / 16)).toNat = a * 4 + b / 16 :=
  Utf8.toNat_ofNat_of_lt (by omega)

theorem toNat_ofNat_second {b c : Nat} (boundC : c < 64) :
    (UInt8.ofNat (b % 16 * 16 + c / 4)).toNat = b % 16 * 16 + c / 4 :=
  Utf8.toNat_ofNat_of_lt (by omega)

theorem toNat_ofNat_third {c d : Nat} (boundD : d < 64) :
    (UInt8.ofNat (c % 4 * 64 + d)).toNat = c % 4 * 64 + d :=
  Utf8.toNat_ofNat_of_lt (by omega)

/-- Two letters without spare bits are those of the octet that is read of them. -/
theorem letterOctets_of_two {a b : Nat} (boundA : a < 64) (boundB : b < 64) (spare : b % 16 = 0) :
    letterOctets [.ofNat (a * 4 + b / 16)] = [letterOctet a, letterOctet b] := by
  rw [letterOctets_one, toNat_ofNat_first boundA boundB]
  congr 2
  · omega
  · congr 1
    omega

theorem letterOctets_of_three {a b c : Nat} (boundA : a < 64) (boundB : b < 64) (boundC : c < 64)
    (spare : c % 4 = 0) :
    letterOctets [.ofNat (a * 4 + b / 16), .ofNat (b % 16 * 16 + c / 4)] =
      [letterOctet a, letterOctet b, letterOctet c] := by
  rw [letterOctets_two, toNat_ofNat_first boundA boundB, toNat_ofNat_second boundC]
  rw [show (a * 4 + b / 16) / 4 = a by omega,
    show (a * 4 + b / 16) % 4 * 16 + (b % 16 * 16 + c / 4) / 16 = b by omega,
    show (b % 16 * 16 + c / 4) % 16 * 4 = c by omega]

theorem letterOctets_of_four {a b c d : Nat} (boundA : a < 64) (boundB : b < 64) (boundC : c < 64)
    (boundD : d < 64) (rest : List UInt8) :
    letterOctets
        (.ofNat (a * 4 + b / 16) :: .ofNat (b % 16 * 16 + c / 4) :: .ofNat (c % 4 * 64 + d) ::
          rest) =
      letterOctet a :: letterOctet b :: letterOctet c :: letterOctet d :: letterOctets rest := by
  rw [letterOctets_three, toNat_ofNat_first boundA boundB, toNat_ofNat_second boundC,
    toNat_ofNat_third boundD]
  rw [show (a * 4 + b / 16) / 4 = a by omega,
    show (a * 4 + b / 16) % 4 * 16 + (b % 16 * 16 + c / 4) / 16 = b by omega,
    show (b % 16 * 16 + c / 4) % 16 * 4 + (c % 4 * 64 + d) / 64 = c by omega,
    show (c % 4 * 64 + d) % 64 = d by omega]

/-- A last group of at most four octets is read only as what it was written from. -/
theorem eq_letterOctets_of_decodeLast {start : Nat} {group octets : List UInt8}
    (short : group.length ≤ 4) (read : decodeLast start group = .ok octets) :
    group = letterOctets octets := by
  simp only [decodeLast, bind, Except.bind] at read
  split at read
  · cases read
  · rename_i result found
    obtain ⟨letters, equals⟩ := result
    dsimp only at read
    split at read
    · cases read
    · rename_i enough
      cases equals with
      | some first => cases read
      | none =>
        obtain ⟨-, numbers, ⟨bounds, rfl⟩, rfl⟩ := exists_of_lastLetters found
        rcases numbers with _ | ⟨a, _ | ⟨b, _ | ⟨c, _ | ⟨d, _ | ⟨e, rest⟩⟩⟩⟩⟩
        · cases read
          rfl
        · simp at enough
        · simp only [List.forall_mem_cons] at bounds
          simp only [List.map_cons, List.map_nil] at read
          split at read
          · cases read
          · split at read
            · cases read
              rename_i spare
              exact (letterOctets_of_two bounds.1 bounds.2.1 spare).symm
            · cases read
        · simp only [List.forall_mem_cons] at bounds
          simp only [List.map_cons, List.map_nil] at read
          split at read
          · cases read
          · split at read
            · cases read
              rename_i spare
              exact (letterOctets_of_three bounds.1 bounds.2.1 bounds.2.2.1 spare).symm
            · cases read
        · simp only [List.forall_mem_cons] at bounds
          cases read
          exact (letterOctets_of_four bounds.1 bounds.2.1 bounds.2.2.1 bounds.2.2.2.1 []).symm
        · simp only [List.length_map, List.length_cons] at short
          omega

theorem length_le_four {group : List UInt8}
    (short : ∀ a b c d e rest, group = a :: b :: c :: d :: e :: rest → False) :
    group.length ≤ 4 := by
  rcases group with _ | ⟨a, _ | ⟨b, _ | ⟨c, _ | ⟨d, _ | ⟨e, rest⟩⟩⟩⟩⟩
  · simp
  · simp
  · simp
  · simp
  · simp
  · exact absurd rfl (short a b c d e rest)

theorem eq_letterOctets_of_decodeFrom {start : Nat} {input octets : List UInt8}
    (read : decodeFrom start input = .ok octets) : input = letterOctets octets := by
  induction start, input using decodeFrom.induct generalizing octets with
  | case1 start a b c d e rest ih =>
    rw [decodeFrom] at read
    obtain ⟨a, first, read⟩ := exists_of_bind_eq_ok read
    obtain ⟨b, second, read⟩ := exists_of_bind_eq_ok read
    obtain ⟨c, third, read⟩ := exists_of_bind_eq_ok read
    obtain ⟨d, fourth, read⟩ := exists_of_bind_eq_ok read
    obtain ⟨more, behind, read⟩ := exists_of_bind_eq_ok read
    cases read
    obtain ⟨boundA, rfl⟩ := valueAt_eq_ok first
    obtain ⟨boundB, rfl⟩ := valueAt_eq_ok second
    obtain ⟨boundC, rfl⟩ := valueAt_eq_ok third
    obtain ⟨boundD, rfl⟩ := valueAt_eq_ok fourth
    rw [letterOctets_of_four boundA boundB boundC boundD, ← ih behind]
  | case2 start group short =>
    rw [decodeFrom] at read
    · exact eq_letterOctets_of_decodeLast (length_le_four short) read
    · exact short

/-- Octets are read exactly from what is written for them. -/
theorem decode_eq_ok_iff {input octets : List UInt8} :
    decode input = .ok octets ↔ input = letterOctets octets := by
  constructor
  · intro read
    unfold decode at read
    split at read
    · cases read
    · exact eq_letterOctets_of_decodeFrom read
  · rintro rfl
    exact decode_letterOctets octets

/-- The octets of a string are read exactly from the string that is written for them. -/
theorem decode_octets_eq_ok_iff {s : String} {octets : List UInt8} :
    decode (Utf8.octets s) = .ok octets ↔ s = .ofList (encode urlSafe octets) := by
  rw [decode_eq_ok_iff, letterOctets, Utf8.octets, Utf8.encode_inj, ← String.toList_inj,
    String.toList_ofList]

theorem letter_inj {m n : Nat} (boundM : m < 64) (boundN : n < 64)
    (same : urlSafe.letter m = urlSafe.letter n) : m = n := by
  have read : value? (letterOctet m) = some n := by
    rw [letterOctet, same, ← letterOctet, value?_letterOctet n boundN]
  rw [value?_letterOctet m boundM] at read
  exact Option.some.inj read

/-- A text in the form in which octets are written: letters alone, no letter left over in the last
    group, and no bits in the last letter that belong to no octet. -/
structure IsCanonical (cs : List Char) : Prop where
  letters : ∀ c ∈ cs, isUrlSafe c = true
  length : cs.length % 4 ≠ 1
  spare : ∀ front, ∀ n < 64, cs = front ++ [urlSafe.letter n] →
    (front.length % 4 = 1 → n % 16 = 0) ∧ (front.length % 4 = 2 → n % 4 = 0)

theorem length_encode_urlSafe (octets : List UInt8) :
    (encode urlSafe octets).length = (octets.length * 4 + 2) / 3 := by
  induction octets using encode.induct with
  | case1 => rfl
  | case2 a => simp [encode, Alphabet.filling, urlSafe]
  | case3 a b => simp [encode, Alphabet.filling, urlSafe]
  | case4 a b c rest ih =>
    simp only [encode, List.length_cons, ih]
    omega

/-- The bits of the last letter that belong to no octet are zero. -/
theorem spare_encode {octets : List UInt8} {front : List Char} {n : Nat} (bound : n < 64)
    (whole : encode urlSafe octets = front ++ [urlSafe.letter n]) :
    (front.length % 4 = 1 → n % 16 = 0) ∧ (front.length % 4 = 2 → n % 4 = 0) := by
  induction octets using encode.induct generalizing front with
  | case1 => simp [encode] at whole
  | case2 a =>
    have high := a.toNat_lt
    obtain ⟨rfl, last⟩ := List.append_inj' (show [_] ++ [_] = _ from whole) rfl
    rw [← letter_inj (by omega) bound (List.cons.inj last).1]
    exact ⟨fun _ => by omega, by simp⟩
  | case3 a b =>
    have high := b.toNat_lt
    obtain ⟨rfl, last⟩ := List.append_inj' (show [_, _] ++ [_] = _ from whole) rfl
    rw [← letter_inj (by omega) bound (List.cons.inj last).1]
    exact ⟨by simp, fun _ => by omega⟩
  | case4 a b c rest ih =>
    rcases List.eq_nil_or_concat (encode urlSafe rest) with empty | ⟨inner, last, split⟩
    · rw [encode, empty] at whole
      obtain ⟨rfl, -⟩ := List.append_inj' (show [_, _, _] ++ [_] = _ from whole) rfl
      exact ⟨by simp, by simp⟩
    · rw [List.concat_eq_append] at split
      rw [encode, split] at whole
      obtain ⟨rfl, same⟩ :=
        List.append_inj' (show _ :: _ :: _ :: _ :: inner ++ [_] = _ from whole) rfl
      rw [same] at split
      have tail := ih split
      simp only [List.length_cons]
      omega

theorem isCanonical_encode (octets : List UInt8) : IsCanonical (encode urlSafe octets) where
  letters := isUrlSafe_of_mem_encode octets
  length := by
    rw [length_encode_urlSafe]
    omega
  spare front n bound whole := spare_encode bound whole

end Gatehouse.Base64
