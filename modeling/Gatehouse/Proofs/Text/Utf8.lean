import Gatehouse.Text.Utf8

/-!
# UTF-8 round trips

Reading gives back every text that was written, strictly and lossily alike.  ASCII
characters are single octets, and no octet of any other character looks like one.
-/

namespace Gatehouse.Utf8

theorem toNat_ofNat_of_lt {n : Nat} (small : n < 256) : (UInt8.ofNat n).toNat = n := by
  simp [Nat.mod_eq_of_lt small]

/-- A character is no surrogate and at most U+10FFFF. -/
theorem toNat_valid (c : Char) : c.toNat < 0xD800 ∨ (0xDFFF < c.toNat ∧ c.toNat < 0x110000) :=
  c.valid

theorem continues_iff {octet : UInt8} :
    continues octet = true ↔ 0x80 ≤ octet.toNat ∧ octet.toNat ≤ 0xBF := by
  simp [continues, within]

theorem front_two {lead b : UInt8} {rest : List UInt8} (low : 0xC2 ≤ lead.toNat)
    (high : lead.toNat < 0xE0) (next : continues b = true) :
    front lead (b :: rest) = .char (.ofNat (lead.toNat % 0x20 * 0x40 + payload b)) 2 := by
  unfold front
  rw [if_neg (by omega), if_neg (by omega), if_pos high]
  simp [next]

theorem front_three {lead b c : UInt8} {rest : List UInt8} (low : 0xE0 ≤ lead.toNat)
    (high : lead.toNat < 0xF0) (second : within (secondRange lead.toNat) b = true)
    (third : continues c = true) :
    front lead (b :: c :: rest) =
      .char (.ofNat (lead.toNat % 0x10 * 0x1000 + payload b * 0x40 + payload c)) 3 := by
  unfold front
  rw [if_neg (by omega), if_neg (by omega), if_neg (by omega), if_pos high]
  simp [second, third]

theorem front_four {lead b c d : UInt8} {rest : List UInt8} (low : 0xF0 ≤ lead.toNat)
    (high : lead.toNat < 0xF5) (second : within (secondRange lead.toNat) b = true)
    (third : continues c = true) (fourth : continues d = true) :
    front lead (b :: c :: d :: rest) =
      .char (.ofNat (lead.toNat % 8 * 0x40000 + payload b * 0x1000 + payload c * 0x40 + payload d))
        4 := by
  unfold front
  rw [if_neg (by omega), if_neg (by omega), if_neg (by omega), if_neg (by omega), if_pos high]
  simp [second, third, fourth]

/-- The second octet of a longer character keeps to the range that its first one sets. -/
theorem within_secondRange {lead : Nat} {octet : UInt8}
    (low : lead = 0xE0 → 0xA0 ≤ octet.toNat) (low' : lead = 0xF0 → 0x90 ≤ octet.toNat)
    (high : lead = 0xED → octet.toNat ≤ 0x9F) (high' : lead = 0xF4 → octet.toNat ≤ 0x8F)
    (next : continues octet = true) : within (secondRange lead) octet = true := by
  rw [continues_iff] at next
  unfold within secondRange
  grind

/-- The octets behind the first one of a character hold six bits each. -/
theorem toNat_behind (n : Nat) : (UInt8.ofNat (0x80 + n % 0x40)).toNat = 0x80 + n % 0x40 :=
  toNat_ofNat_of_lt (by omega)

theorem continues_behind (n : Nat) : continues (UInt8.ofNat (0x80 + n % 0x40)) = true := by
  rw [continues_iff, toNat_behind]
  omega

theorem payload_behind (n : Nat) : payload (UInt8.ofNat (0x80 + n % 0x40)) = n % 0x40 := by
  rw [payload, toNat_behind]
  omega

theorem front_encodeChar (c : Char) (rest : List UInt8) :
    ∃ lead more, encodeChar c = lead :: more ∧
      front lead (more ++ rest) = .char c (more.length + 1) := by
  have valid := toNat_valid c
  have back : Char.ofNat c.toNat = c := Char.ofNat_toNat c
  unfold encodeChar
  by_cases one : c.toNat < 0x80
  · refine ⟨_, _, if_pos one, ?_⟩
    simp only [front, toNat_ofNat_of_lt (show c.toNat < 256 by omega), if_pos one, back]
    rfl
  by_cases two : c.toNat < 0x800
  · refine ⟨_, _, by simp only [if_neg one, if_pos two]; rfl, ?_⟩
    have lead : (UInt8.ofNat (0xC0 + c.toNat / 0x40)).toNat = 0xC0 + c.toNat / 0x40 :=
      toNat_ofNat_of_lt (by omega)
    have whole : (0xC0 + c.toNat / 0x40) % 0x20 * 0x40 + c.toNat % 0x40 = c.toNat := by omega
    rw [List.cons_append, front_two (by omega) (by omega) (continues_behind _), lead,
      payload_behind, whole, back]
    rfl
  by_cases three : c.toNat < 0x10000
  · refine ⟨_, _, by simp only [if_neg one, if_neg two, if_pos three]; rfl, ?_⟩
    have lead : (UInt8.ofNat (0xE0 + c.toNat / 0x1000)).toNat = 0xE0 + c.toNat / 0x1000 :=
      toNat_ofNat_of_lt (by omega)
    have second := toNat_behind (c.toNat / 0x40)
    have whole : (0xE0 + c.toNat / 0x1000) % 0x10 * 0x1000 + c.toNat / 0x40 % 0x40 * 0x40 +
        c.toNat % 0x40 = c.toNat := by omega
    rw [List.cons_append, List.cons_append, front_three (by omega) (by omega)
      (within_secondRange (by omega) (by omega) (by omega) (by omega) (continues_behind _))
      (continues_behind _), lead, payload_behind, payload_behind, whole, back]
    rfl
  · refine ⟨_, _, by simp only [if_neg one, if_neg two, if_neg three]; rfl, ?_⟩
    have lead : (UInt8.ofNat (0xF0 + c.toNat / 0x40000)).toNat = 0xF0 + c.toNat / 0x40000 :=
      toNat_ofNat_of_lt (by omega)
    have second := toNat_behind (c.toNat / 0x1000)
    have whole : (0xF0 + c.toNat / 0x40000) % 8 * 0x40000 +
        c.toNat / 0x1000 % 0x40 * 0x1000 + c.toNat / 0x40 % 0x40 * 0x40 + c.toNat % 0x40 =
          c.toNat := by omega
    rw [List.cons_append, List.cons_append, List.cons_append, front_four (by omega) (by omega)
      (within_secondRange (by omega) (by omega) (by omega) (by omega) (continues_behind _))
      (continues_behind _) (continues_behind _), lead, payload_behind, payload_behind,
      payload_behind, whole, back]
    rfl

theorem encodeChar_of_ascii {c : Char} (ascii : c.toNat < 0x80) :
    encodeChar c = [.ofNat c.toNat] := by
  rw [encodeChar, if_pos ascii]

/-- An ASCII text has one octet for each character. -/
theorem encode_of_ascii {cs : List Char} (ascii : ∀ c ∈ cs, c.toNat < 0x80) :
    encode cs = cs.map fun c => .ofNat c.toNat := by
  induction cs with
  | nil => rfl
  | cons c cs ih =>
    rw [encode, List.flatMap_cons, encodeChar_of_ascii (ascii c List.mem_cons_self), List.map_cons]
    exact congrArg _ (ih fun d member => ascii d (List.mem_cons_of_mem _ member))

theorem le_of_mem_encodeChar {c : Char} (high : 0x80 ≤ c.toNat) {octet : UInt8}
    (member : octet ∈ encodeChar c) : 0x80 ≤ octet.toNat := by
  have valid := toNat_valid c
  unfold encodeChar at member
  grind [toNat_ofNat_of_lt]

@[simp] theorem encode_nil : encode [] = [] := rfl

@[simp] theorem encode_cons (c : Char) (cs : List Char) :
    encode (c :: cs) = encodeChar c ++ encode cs :=
  List.flatMap_cons ..

@[simp] theorem encode_append (cs ds : List Char) : encode (cs ++ ds) = encode cs ++ encode ds :=
  List.flatMap_append ..

@[simp] theorem octets_append (s t : String) : octets (s ++ t) = octets s ++ octets t := by
  simp [octets]

@[simp] theorem octets_ofList (cs : List Char) : octets (.ofList cs) = encode cs := by
  simp [octets]

theorem decodeFrom_encodeChar (index : Nat) (c : Char) (rest : List UInt8) :
    decodeFrom index (encodeChar c ++ rest) =
      (decodeFrom (index + (encodeChar c).length) rest).map (c :: ·) := by
  obtain ⟨lead, more, written, read⟩ := front_encodeChar c rest
  rw [written, List.cons_append, decodeFrom, read]
  simp

/-- Reading what writing produced gives the text back. -/
theorem decodeFrom_encode (index : Nat) (cs : List Char) :
    decodeFrom index (encode cs) = .ok cs := by
  induction cs generalizing index with
  | nil => rw [encode_nil, decodeFrom]
  | cons c cs ih =>
    rw [encode_cons, decodeFrom_encodeChar, ih]
    rfl

@[simp] theorem decode?_encode (cs : List Char) : decode? (encode cs) = some cs := by
  rw [decode?, read, decodeFrom_encode]
  rfl

theorem toNat_ofNat_of_valid {n : Nat} (valid : n.isValidChar) : (Char.ofNat n).toNat = n := by
  rw [Char.ofNat, dif_pos valid]
  rfl

theorem bounds_of_within {lead : Nat} {octet : UInt8}
    (second : within (secondRange lead) octet = true) :
    0x80 ≤ octet.toNat ∧ octet.toNat ≤ 0xBF ∧ (lead = 0xE0 → 0xA0 ≤ octet.toNat) ∧
      (lead = 0xF0 → 0x90 ≤ octet.toNat) ∧ (lead = 0xED → octet.toNat ≤ 0x9F) ∧
      (lead = 0xF4 → octet.toNat ≤ 0x8F) := by
  unfold within secondRange at second
  grind

section Written

variable {lead b c d : UInt8}

theorem encodeChar_of_two (low : 0xC2 ≤ lead.toNat) (high : lead.toNat < 0xE0)
    (next : continues b = true) :
    encodeChar (.ofNat (lead.toNat % 0x20 * 0x40 + payload b)) = [lead, b] := by
  rw [continues_iff] at next
  have same := toNat_ofNat_of_valid (n := lead.toNat % 0x20 * 0x40 + payload b)
    (.inl (by unfold payload; omega))
  generalize value : lead.toNat % 0x20 * 0x40 + payload b = n at same
  unfold payload at value
  rw [encodeChar, same, if_neg (by omega), if_pos (by omega),
    show 0xC0 + n / 0x40 = lead.toNat by omega, show 0x80 + n % 0x40 = b.toNat by omega,
    UInt8.ofNat_toNat, UInt8.ofNat_toNat]

theorem encodeChar_of_three (low : 0xE0 ≤ lead.toNat) (high : lead.toNat < 0xF0)
    (second : within (secondRange lead.toNat) b = true) (third : continues c = true) :
    encodeChar (.ofNat (lead.toNat % 0x10 * 0x1000 + payload b * 0x40 + payload c)) =
      [lead, b, c] := by
  have second := bounds_of_within second
  rw [continues_iff] at third
  have same := toNat_ofNat_of_valid
    (n := lead.toNat % 0x10 * 0x1000 + payload b * 0x40 + payload c)
    (by unfold payload Nat.isValidChar; omega)
  generalize value : lead.toNat % 0x10 * 0x1000 + payload b * 0x40 + payload c = n at same
  unfold payload at value
  rw [encodeChar, same, if_neg (by omega), if_neg (by omega), if_pos (by omega),
    show 0xE0 + n / 0x1000 = lead.toNat by omega,
    show 0x80 + n / 0x40 % 0x40 = b.toNat by omega, show 0x80 + n % 0x40 = c.toNat by omega,
    UInt8.ofNat_toNat, UInt8.ofNat_toNat, UInt8.ofNat_toNat]

theorem encodeChar_of_four (low : 0xF0 ≤ lead.toNat) (high : lead.toNat < 0xF5)
    (second : within (secondRange lead.toNat) b = true) (third : continues c = true)
    (fourth : continues d = true) :
    encodeChar (.ofNat (lead.toNat % 8 * 0x40000 + payload b * 0x1000 + payload c * 0x40 +
      payload d)) = [lead, b, c, d] := by
  have second := bounds_of_within second
  rw [continues_iff] at third fourth
  have same := toNat_ofNat_of_valid
    (n := lead.toNat % 8 * 0x40000 + payload b * 0x1000 + payload c * 0x40 + payload d)
    (by unfold payload Nat.isValidChar; omega)
  generalize value : lead.toNat % 8 * 0x40000 + payload b * 0x1000 + payload c * 0x40 +
    payload d = n at same
  unfold payload at value
  rw [encodeChar, same, if_neg (by omega), if_neg (by omega), if_neg (by omega),
    show 0xF0 + n / 0x40000 = lead.toNat by omega,
    show 0x80 + n / 0x1000 % 0x40 = b.toNat by omega,
    show 0x80 + n / 0x40 % 0x40 = c.toNat by omega, show 0x80 + n % 0x40 = d.toNat by omega,
    UInt8.ofNat_toNat, UInt8.ofNat_toNat, UInt8.ofNat_toNat, UInt8.ofNat_toNat]

end Written

/-- A character is read from its own octets only. -/
theorem encodeChar_of_front {lead : UInt8} {rest : List UInt8} {c : Char} {size : Nat}
    (read : front lead rest = .char c size) :
    encodeChar c ++ rest.drop (size - 1) = lead :: rest := by
  revert read
  -- Of the ways in which octets can begin only four are those of a character.
  fun_cases front lead rest <;> intro read <;> cases read
  · rename_i n one
    have same : (Char.ofNat n).toNat = n := toNat_ofNat_of_valid (.inl (by omega))
    rw [encodeChar, same, if_pos one, UInt8.ofNat_toNat]
    rfl
  · rename_i low high b rest next
    rw [encodeChar_of_two (by omega) high next]
    rfl
  · rename_i low high b c rest second third
    rw [encodeChar_of_three (by omega) high (by simpa using second) (by simpa using third)]
    rfl
  · rename_i low high b c d rest second third fourth
    rw [encodeChar_of_four (by omega) high (by simpa using second) (by simpa using third)
      (by simpa using fourth)]
    rfl

theorem encode_of_decodeFrom {index : Nat} {octets : List UInt8} {cs : List Char}
    (read : decodeFrom index octets = .ok cs) : encode cs = octets := by
  fun_induction decodeFrom index octets generalizing cs with
  | case1 index =>
    cases read
    rfl
  | case2 index lead rest c size front ih =>
    cases later : decodeFrom (index + size) (rest.drop (size - 1)) with
    | error fault =>
      rw [later] at read
      cases read
    | ok more =>
      rw [later] at read
      cases read
      rw [encode_cons, ih later, encodeChar_of_front front]
  | case3 => cases read
  | case4 => cases read

/-- Octets are read as a text only if they are the octets of this text. -/
theorem decode?_eq_some_iff {octets : List UInt8} {cs : List Char} :
    decode? octets = some cs ↔ encode cs = octets := by
  constructor
  · intro found
    rw [decode?, read] at found
    cases result : decodeFrom 0 octets with
    | error fault =>
      rw [result] at found
      cases found
    | ok other =>
      rw [result] at found
      cases found
      exact encode_of_decodeFrom result
  · rintro rfl
    exact decode?_encode cs

/-- Two texts of the same octets are the same. -/
theorem encode_inj {cs ds : List Char} : encode cs = encode ds ↔ cs = ds := by
  refine ⟨fun same => ?_, fun same => same ▸ rfl⟩
  have read := congrArg decode? same
  rw [decode?_encode, decode?_encode] at read
  exact Option.some.inj read

@[simp] theorem decodeLossy_encode (cs : List Char) : decodeLossy (encode cs) = cs := by
  induction cs with
  | nil => rw [encode_nil, decodeLossy]
  | cons c cs ih =>
    obtain ⟨lead, more, written, read⟩ := front_encodeChar c (encode cs)
    rw [encode_cons, written, List.cons_append, decodeLossy, read]
    simpa using ih

/-- The number of octets of a text. -/
def size (cs : List Char) : Nat := (encode cs).length

theorem size_append (cs ds : List Char) : size (cs ++ ds) = size cs + size ds := by
  rw [size, encode_append, List.length_append]
  rfl

theorem size_cons (c : Char) (cs : List Char) :
    size (c :: cs) = (encodeChar c).length + size cs := by
  rw [size, encode_cons, List.length_append]
  rfl

theorem length_encodeChar_pos (c : Char) : 0 < (encodeChar c).length := by
  obtain ⟨lead, more, octets, -⟩ := front_encodeChar c []
  rw [octets]
  exact Nat.succ_pos _

theorem size_eq_zero_iff {cs : List Char} : size cs = 0 ↔ cs = [] := by
  cases cs with
  | nil => simp [size]
  | cons c cs =>
    have pos := length_encodeChar_pos c
    simp only [size_cons, List.cons_ne_nil, iff_false]
    omega

/-- What is dropped from a text makes it shorter. -/
theorem size_filter_cases (p : Char → Bool) (cs : List Char) :
    cs.filter p = cs ∨ size (cs.filter p) < size cs := by
  induction cs with
  | nil => exact .inl rfl
  | cons c cs ih =>
    have pos := length_encodeChar_pos c
    cases kept : p c with
    | true =>
      rw [List.filter_cons_of_pos kept, List.cons.injEq, size_cons, size_cons]
      exact ih.imp (fun same => ⟨rfl, same⟩) (Nat.add_lt_add_left · _)
    | false =>
      rw [List.filter_cons_of_neg (by simp [kept]), size_cons]
      have most : size (cs.filter p) ≤ size cs := by
        rcases ih with same | shorter
        · exact Nat.le_of_eq (congrArg size same)
        · exact Nat.le_of_lt shorter
      exact .inr (by omega)

end Gatehouse.Utf8
