import Gatehouse.Cookie.Signed
import Gatehouse.Proofs.Text.Base64

/-!
# Signatures

The texts that verify under a key are exactly the signed ones, and among the pairs of a
request the last one of a name with a signed value counts.
-/

namespace Gatehouse

theorem Sha256.Digest.length_octets (digest : Digest) : digest.octets.length = 32 := rfl

namespace Cookie

namespace SigningKey

theorem length_tag (key : SigningKey) (value : List Char) : (key.tag value).length = tagLength := by
  rw [tag, Base64.length_encode, Sha256.Digest.length_octets]
  rfl

/-- A text verifies when it is the signed value, and for no other value. -/
theorem verify?_eq_some_iff {key : SigningKey} {text value : String} :
    key.verify? text = some value ↔ text = key.sign value := by
  unfold verify? sign
  constructor
  · intro verified
    simp only [Option.ite_none_right_eq_some, Option.some.injEq] at verified
    obtain ⟨tagged, rfl⟩ := verified
    rw [String.toList_ofList, ← tagged, List.take_append_drop, String.ofList_toList]
  · rintro rfl
    have size := key.length_tag value.toList
    rw [String.toList_ofList, List.drop_left' size, List.take_left' size, if_pos rfl,
      String.ofList_toList]

theorem verify?_eq_none_iff {key : SigningKey} {text : String} :
    key.verify? text = none ↔ ∀ value, text ≠ key.sign value := by
  rw [Option.eq_none_iff_forall_ne_some]
  exact forall_congr' fun value => not_congr verify?_eq_some_iff

@[simp] theorem verify?_sign (key : SigningKey) (value : String) :
    key.verify? (key.sign value) = some value :=
  verify?_eq_some_iff.mpr rfl

/-- A value that was signed under another key is one that is signed under this key, if both keys
    give it the same tag, and no other value is. -/
theorem sign_eq_sign_iff {key other : SigningKey} {value signed : String} :
    other.sign signed = key.sign value ↔
      value = signed ∧ other.tag signed.toList = key.tag signed.toList := by
  constructor
  · intro same
    have texts := congrArg String.toList same
    simp only [sign, String.toList_ofList] at texts
    have lengths : (other.tag signed.toList).length = (key.tag value.toList).length := by
      rw [length_tag, length_tag]
    obtain ⟨tags, values⟩ := List.append_inj texts lengths
    have value_eq : value = signed := (String.toList_inj.mp values).symm
    subst value
    exact ⟨rfl, tags⟩
  · rintro ⟨rfl, tags⟩
    rw [sign, sign, tags]

theorem sign_injective {key : SigningKey} {value other : String}
    (same : key.sign value = key.sign other) : value = other :=
  (sign_eq_sign_iff.mp same).1.symm

end SigningKey

/-- No text under a name is a signed value. -/
def NoneSigned (key : SigningKey) (pairs : List Pair) (name : String) : Prop :=
  ∀ pair ∈ pairs, pair.name = name → ∀ value, pair.value ≠ key.sign value

/-- A signed value stands under a name, and no other one behind it. -/
def LastSigned (key : SigningKey) (pairs : List Pair) (name value : String) : Prop :=
  ∃ before after, pairs = before ++ ⟨name, key.sign value⟩ :: after ∧ NoneSigned key after name

theorem verifiedPairs_append (key : SigningKey) (front back : List Pair) :
    verifiedPairs key (front ++ back) = verifiedPairs key front ++ verifiedPairs key back :=
  List.filterMap_append ..

theorem lastValue?_append (front back : List Pair) (name : String) :
    lastValue? (front ++ back) name = (lastValue? back name <|> lastValue? front name) := by
  unfold lastValue?
  simp only [List.findRev?_eq_find?_reverse, List.reverse_append, List.find?_append]
  cases back.reverse.find? (·.name == name) <;> rfl

/-- The value of one pair, if it has the name and verifies. -/
theorem lastValue?_verifiedPairs_single (key : SigningKey) (pair : Pair) (name : String) :
    lastValue? (verifiedPairs key [pair]) name =
      if pair.name = name then key.verify? pair.value else none := by
  unfold lastValue? verifiedPairs
  rw [List.findRev?_eq_find?_reverse]
  cases verified : key.verify? pair.value with
  | none => simp [verified]
  | some value => by_cases same : pair.name = name <;> simp [verified, same]

/-- What stands behind a pair goes before it. -/
theorem lastValue?_verifiedPairs_cons (key : SigningKey) (pair : Pair) (pairs : List Pair)
    (name : String) :
    lastValue? (verifiedPairs key (pair :: pairs)) name =
      (lastValue? (verifiedPairs key pairs) name <|>
        if pair.name = name then key.verify? pair.value else none) := by
  rw [show pair :: pairs = [pair] ++ pairs from rfl, verifiedPairs_append, lastValue?_append,
    lastValue?_verifiedPairs_single]

/-- Only the pairs of the name matter. -/
theorem lastValue?_verifiedPairs_filter (key : SigningKey) (pairs : List Pair) (name : String) :
    lastValue? (verifiedPairs key (pairs.filter (·.name == name))) name =
      lastValue? (verifiedPairs key pairs) name := by
  induction pairs with
  | nil => rfl
  | cons pair pairs ih =>
    rw [lastValue?_verifiedPairs_cons key pair pairs]
    by_cases same : pair.name = name
    · rw [List.filter_cons_of_pos (by simpa using same), lastValue?_verifiedPairs_cons, ih]
    · rw [List.filter_cons_of_neg (by simpa using same), ih, if_neg same]
      cases lastValue? (verifiedPairs key pairs) name <;> rfl

theorem lastValue?_eq_none_iff {key : SigningKey} {pairs : List Pair} {name : String} :
    lastValue? (verifiedPairs key pairs) name = none ↔ NoneSigned key pairs name := by
  induction pairs with
  | nil => simp [verifiedPairs, lastValue?, NoneSigned]
  | cons pair pairs ih =>
    rw [lastValue?_verifiedPairs_cons]
    unfold NoneSigned at ih ⊢
    rw [List.forall_mem_cons, ← ih, ← SigningKey.verify?_eq_none_iff]
    cases lastValue? (verifiedPairs key pairs) name <;> simp

/-- The value that counts is the last one that is signed. -/
theorem lastValue?_eq_some_iff {key : SigningKey} {pairs : List Pair} {name value : String} :
    lastValue? (verifiedPairs key pairs) name = some value ↔ LastSigned key pairs name value := by
  constructor
  · intro last
    induction pairs with
    | nil => cases last
    | cons pair pairs ih =>
      rw [lastValue?_verifiedPairs_cons] at last
      cases behind : lastValue? (verifiedPairs key pairs) name with
      | some other =>
        rw [behind] at last
        change some other = some value at last
        obtain ⟨before, after, rfl, unsigned⟩ := ih (behind.trans last)
        exact ⟨pair :: before, after, rfl, unsigned⟩
      | none =>
        rw [behind] at last
        change (if pair.name = name then _ else none) = some value at last
        split at last
        · rename_i same
          have signed := SigningKey.verify?_eq_some_iff.mp last
          refine ⟨[], pairs, ?_, lastValue?_eq_none_iff.mp behind⟩
          rw [List.nil_append, ← signed, ← same]
        · cases last
  · rintro ⟨before, after, rfl, unsigned⟩
    rw [verifiedPairs_append, lastValue?_append, lastValue?_verifiedPairs_cons,
      lastValue?_eq_none_iff.mpr unsigned, if_pos rfl, SigningKey.verify?_sign]
    rfl

theorem noneSigned_or_lastSigned (key : SigningKey) (pairs : List Pair) (name : String) :
    NoneSigned key pairs name ∨ ∃ value, LastSigned key pairs name value := by
  cases last : lastValue? (verifiedPairs key pairs) name with
  | none => exact .inl (lastValue?_eq_none_iff.mp last)
  | some value => exact .inr ⟨value, lastValue?_eq_some_iff.mp last⟩

theorem lastSigned_of_filter {key : SigningKey} {pairs : List Pair} {name value : String}
    (only : pairs.filter (·.name == name) = [⟨name, key.sign value⟩]) :
    LastSigned key pairs name value := by
  rw [← lastValue?_eq_some_iff, ← lastValue?_verifiedPairs_filter, only,
    lastValue?_verifiedPairs_single, if_pos rfl, SigningKey.verify?_sign]

theorem noneSigned_of_filter (key : SigningKey) {pairs : List Pair} {name : String}
    (absent : pairs.filter (·.name == name) = []) : NoneSigned key pairs name := by
  rw [← lastValue?_eq_none_iff, ← lastValue?_verifiedPairs_filter, absent]
  rfl

end Cookie

end Gatehouse
