import Gatehouse.Proofs.Json.Fields
import Gatehouse.Proofs.Json.Values

/-!
# The numerals of a value

The numbers of a value as they stand in its text.  A value of which every numeral is that of an
integer is kept with integers only.
-/

namespace Gatehouse.Json

/-- The numeral of an integer that 64 bits hold: decimal digits without a leading zero, with a
    minus sign if the integer is negative. -/
def IsWhole (numeral : List UInt8) : Prop :=
  ∃ n : Int, Fits n ∧ numeral = Utf8.octets (toString n)

/-- The numerals of a value in the order of its text, also of members that give way to later ones
    of the same name. -/
def readNumerals : (depth : Nat) → Reader (List (List UInt8))
  | depth, input =>
    match skipSpace input with
    | [] => stopAhead .endInValue []
    | x :: rest =>
      if x = 0x5B then
        match depth with
        | 0 => stopAhead .tooDeep (x :: rest)
        | depth + 1 =>
          (readItems (readNumerals depth) (rest.length + 1) true rest).map fun (items, rest) =>
            (items.flatten, rest)
      else if x = 0x7B then
        match depth with
        | 0 => stopAhead .tooDeep (x :: rest)
        | depth + 1 =>
          (readMembers (readNumerals depth) (rest.length + 1) true rest).map fun (members, rest) =>
            (members.flatMap (·.2), rest)
      else if x = 0x2D ∨ (digit? x).isSome = true then
        (readValue depth (x :: rest)).map fun (_, after) =>
          ([x :: rest.takeWhile isNumberOctet], after)
      else
        (readValue depth (x :: rest)).map fun (_, after) => ([], after)

theorem forall_exists_cons {α β : Type} {R : α → β → Prop} {a : α} {b : β} {as : List α}
    {bs : List β} (related : R a b) (each : ∀ a ∈ as, ∃ b ∈ bs, R a b) :
    ∀ c ∈ a :: as, ∃ d ∈ b :: bs, R c d := by
  intro c inside
  rcases List.mem_cons.mp inside with rfl | inside
  · exact ⟨b, List.mem_cons_self, related⟩
  · obtain ⟨d, member, other⟩ := each c inside
    exact ⟨d, List.mem_cons_of_mem _ member, other⟩

section Simulations

variable {α β : Type} {item : Reader α} {other : Reader β} {R : α → β → Prop}
  (same : ∀ input a rest, item input = .ok (a, rest) →
    ∃ b, other input = .ok (b, rest) ∧ R a b)

include same

/-- What holds between the results of two readers holds between their lists. -/
theorem exists_readItems {limit : Nat} {first : Bool} {input rest : List UInt8} {as : List α}
    (read : readItems item limit first input = .ok (as, rest)) :
    ∃ bs, readItems other limit first input = .ok (bs, rest) ∧ ∀ a ∈ as, ∃ b ∈ bs, R a b := by
  induction limit generalizing first input as with
  | zero => cases read
  | succ limit ih =>
    rw [readItems_succ] at read
    obtain ⟨next, found, read⟩ := exists_of_bind_eq_ok read
    rw [readItems_succ, found]
    cases next with
    | none behind =>
      cases read
      exact ⟨[], rfl, List.forall_mem_nil _⟩
    | item start =>
      obtain ⟨⟨a, after⟩, one, read⟩ := exists_of_bind_eq_ok read
      obtain ⟨⟨more, behind⟩, all, read⟩ := exists_of_bind_eq_ok read
      cases read
      obtain ⟨b, another, related⟩ := same _ _ _ one
      obtain ⟨bs, others, each⟩ := ih all
      refine ⟨b :: bs, ?_, forall_exists_cons related each⟩
      simp only [bind, Except.bind, another, others]

/-- What holds between the results of two readers holds between their members. -/
theorem exists_readMembers {limit : Nat} {first : Bool} {input rest : List UInt8}
    {as : List (String × α)} (read : readMembers item limit first input = .ok (as, rest)) :
    ∃ bs, readMembers other limit first input = .ok (bs, rest) ∧
      ∀ a ∈ as, ∃ b ∈ bs, R a.2 b.2 := by
  induction limit generalizing first input as with
  | zero => cases read
  | succ limit ih =>
    obtain ⟨next, found, read⟩ := exists_of_bind_eq_ok read
    rw [readMembers, found]
    cases next with
    | none behind =>
      cases read
      exact ⟨[], rfl, List.forall_mem_nil _⟩
    | name name behind =>
      obtain ⟨value, colon, read⟩ := exists_of_bind_eq_ok read
      obtain ⟨⟨a, after⟩, one, read⟩ := exists_of_bind_eq_ok read
      obtain ⟨⟨more, behind⟩, all, read⟩ := exists_of_bind_eq_ok read
      cases read
      obtain ⟨b, another, related⟩ := same _ _ _ one
      obtain ⟨bs, others, each⟩ := ih all
      refine ⟨(name, b) :: bs, ?_, forall_exists_cons related each⟩
      simp only [bind, Except.bind, colon, another, others]

end Simulations

/-- What holds between the items of two lists holds between the lists. -/
theorem exists_readList {α β : Type} {item : Nat → Reader α} {other : Nat → Reader β}
    {R : α → β → Prop} {depth : Nat} {input rest : List UInt8} {as : List α}
    (same : ∀ input a rest, item depth input = .ok (a, rest) →
      ∃ b, other depth input = .ok (b, rest) ∧ R a b)
    (read : readList item (depth + 1) input = .ok (as, rest)) :
    ∃ bs, readList other (depth + 1) input = .ok (bs, rest) ∧ ∀ a ∈ as, ∃ b ∈ bs, R a b := by
  unfold readList at read ⊢
  split at read
  · cases read
  dsimp only
  split at read
  · rename_i list
    rw [if_pos list]
    exact exists_readItems same read
  · exact absurd read (wrongType_ne_ok _ _ _)

variable {depth : Nat} {v : Value} {rest : List UInt8}

theorem isSpace_of_skipSpace {input : List UInt8} {x : UInt8}
    (space : skipSpace input = x :: rest) : isSpace x = false := by
  have token := List.head?_dropWhile_not isSpace input
  rw [show input.dropWhile isSpace = x :: rest from space] at token
  exact token

/-- Words and strings are kept whatever they are. -/
theorem kept_of_scalar {x : UInt8} {behind : List UInt8} (token : isSpace x = false)
    (list : x ≠ 0x5B) (object : x ≠ 0x7B) (number : ¬(x = 0x2D ∨ (digit? x).isSome = true))
    (read : readValue depth (x :: behind) = .ok (v, rest)) : v.Kept depth := by
  obtain ⟨minus, digit⟩ := not_or.mp number
  rw [readValue, skipSpace_cons token] at read
  dsimp only at read
  rw [if_neg minus, if_neg digit, if_neg list, if_neg object] at read
  split at read
  · obtain ⟨after, -, same⟩ := exists_of_map_eq_ok read
    cases same
    exact .null depth
  split at read
  · obtain ⟨after, -, same⟩ := exists_of_map_eq_ok read
    cases same
    exact .bool depth true
  split at read
  · obtain ⟨after, -, same⟩ := exists_of_map_eq_ok read
    cases same
    exact .bool depth false
  split at read
  · obtain ⟨⟨s, after⟩, -, same⟩ := exists_of_map_eq_ok read
    cases same
    exact .text depth s
  · cases read

theorem kept_of_isWhole {x : UInt8} {behind : List UInt8}
    (whole : IsWhole (x :: behind.takeWhile isNumberOctet))
    (read : readValue depth (x :: behind) = .ok (v, rest)) : v.Kept depth := by
  -- What stands behind the numeral cannot go on with it, so its integer is all that is read.
  obtain ⟨n, fits, numeral⟩ := whole
  have integer := readValue_integer depth fits (breaks_dropWhile behind)
  rw [← numeral, List.cons_append, List.takeWhile_append_dropWhile, read] at integer
  cases integer
  exact .integer depth fits

theorem readValue_of_skipSpace {input behind : List UInt8} {x : UInt8}
    (space : skipSpace input = x :: behind) :
    readValue depth input = readValue depth (x :: behind) := by
  rw [readValue, readValue, space, skipSpace_cons (isSpace_of_skipSpace space)]

/-- What the numerals of a text say of the value that is read from it. -/
def NumeralsTell (depth : Nat) (input : List UInt8) (v : Value) (rest : List UInt8) : Prop :=
  ∃ numerals, readNumerals depth input = .ok (numerals, rest) ∧
    ((∀ numeral ∈ numerals, IsWhole numeral) → v.Kept depth)

theorem numeralsTell_plain {input behind : List UInt8} {x : UInt8}
    (space : skipSpace input = x :: behind) (list : x ≠ 0x5B) (object : x ≠ 0x7B)
    (read : readValue depth (x :: behind) = .ok (v, rest)) : NumeralsTell depth input v rest := by
  rw [NumeralsTell, readNumerals, space]
  dsimp only
  rw [if_neg list, if_neg object, read]
  by_cases number : x = 0x2D ∨ (digit? x).isSome = true
  · rw [if_pos number]
    exact ⟨_, rfl, fun whole => kept_of_isWhole (whole _ List.mem_cons_self) read⟩
  · rw [if_neg number]
    exact ⟨[], rfl, fun _ => kept_of_scalar (isSpace_of_skipSpace space) list object number read⟩

section Inside

variable (inner : ∀ input v rest, readValue depth input = .ok (v, rest) →
  NumeralsTell depth input v rest)

include inner

theorem numeralsTell_list {input behind : List UInt8} (space : skipSpace input = 0x5B :: behind)
    (read : readValue (depth + 1) (0x5B :: behind) = .ok (v, rest)) :
    NumeralsTell (depth + 1) input v rest := by
  rw [readValue_bracket] at read
  obtain ⟨⟨items, after⟩, all, same⟩ := exists_of_map_eq_ok read
  cases same
  obtain ⟨found, others, each⟩ := exists_readItems inner all
  refine ⟨found.flatten, ?_, fun whole => .list fun v inside => ?_⟩
  · rw [readNumerals, space]
    simp only [if_true, others]
    rfl
  · obtain ⟨numerals, member, kept⟩ := each v inside
    exact kept fun numeral of => whole numeral (List.mem_flatten_of_mem member of)

theorem numeralsTell_object {input behind : List UInt8} (space : skipSpace input = 0x7B :: behind)
    (read : readValue (depth + 1) (0x7B :: behind) = .ok (v, rest)) :
    NumeralsTell (depth + 1) input v rest := by
  rw [readValue_brace] at read
  obtain ⟨⟨members, after⟩, all, same⟩ := exists_of_map_eq_ok read
  cases same
  obtain ⟨found, others, each⟩ := exists_readMembers inner all
  -- The members that are kept are among those that were read, and all of these have numerals.
  obtain ⟨sorted, some⟩ := foldl_insertMember members List.Pairwise.nil
  refine ⟨found.flatMap (·.2), ?_, fun whole => .object sorted fun member inside => ?_⟩
  · rw [readNumerals, space]
    simp only [others]
    rfl
  · obtain ⟨numerals, of, kept⟩ := each member ((some member inside).resolve_left List.not_mem_nil)
    exact kept fun numeral one => whole numeral (List.mem_flatMap_of_mem of one)

end Inside

/-- A value that is read has numerals, and it is kept with integers only if they are whole. -/
theorem numeralsTell {input : List UInt8} (read : readValue depth input = .ok (v, rest)) :
    NumeralsTell depth input v rest := by
  induction depth generalizing input v rest with
  | zero =>
    cases space : skipSpace input with
    | nil =>
      rw [readValue, space] at read
      cases read
    | cons x behind =>
      rw [readValue_of_skipSpace space] at read
      refine numeralsTell_plain space ?_ ?_ read
      · rintro rfl
        rw [readValue] at read
        cases read
      · rintro rfl
        rw [readValue] at read
        cases read
  | succ depth ih =>
    cases space : skipSpace input with
    | nil =>
      rw [readValue, space] at read
      cases read
    | cons x behind =>
      rw [readValue_of_skipSpace space] at read
      by_cases list : x = 0x5B
      · subst list
        exact numeralsTell_list (fun _ _ _ => ih) space read
      by_cases object : x = 0x7B
      · subst object
        exact numeralsTell_object (fun _ _ _ => ih) space read
      exact numeralsTell_plain space list object read

end Gatehouse.Json
