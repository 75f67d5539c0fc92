import Gatehouse.Proofs.Json.Items
import Gatehouse.Proofs.Json.Skipping
import Mathlib.Data.List.Count
import Mathlib.Data.List.Nodup

/-!
# The fields of a text

What stands in a JSON text under which name, whatever a record makes of it: unknown names and
repeated ones are kept, and values are only passed over.  A record that is read from a text has
taken every field whose name it knows, one for each name, and none of its required members is
without a field.
-/

namespace Gatehouse.Json

/-- A value that is passed over, given by the text from the value on. -/
def place : Reader (List UInt8) := fun input =>
  (skipValue input).map fun rest => (input, rest)

/-- The fields of a text: the members of an object with their names, or the items of a list with
    the names that they go by in their order.  Any other text has no fields. -/
def fields (names : List String) (input : List UInt8) : List (String × List UInt8) :=
  match skipSpace input with
  | [] => []
  | x :: rest =>
    if x = 0x5B then
      match readItems place (rest.length + 1) true rest with
      | .ok (places, _) => names.zip places
      | .error _ => []
    else if x = 0x7B then
      match readMembers place (rest.length + 1) true rest with
      | .ok (members, _) => members
      | .error _ => []
    else []

namespace Shape

variable {σ : Type} (shape : Shape σ) (depth : Nat)

/-- A record takes fields one after the other, those whose names it knows. -/
inductive Takes : σ → List (String × List UInt8) → σ → Prop
  | done (record : σ) : Takes record [] record
  | known {m : Member σ} {record filled last : σ} {name : String} {place rest : List UInt8}
    {fields : List (String × List UInt8)}
    (known : shape.members.find? (·.name == name) = some m) (absent : m.filled record = false)
    (fill : m.fill depth record place = .ok (filled, rest)) (more : Takes filled fields last) :
    Takes record ((name, place) :: fields) last
  | unknown {record last : σ} {name : String} {place : List UInt8}
    {fields : List (String × List UInt8)}
    (unknown : shape.members.find? (·.name == name) = none) (more : Takes record fields last) :
    Takes record ((name, place) :: fields) last

/-- The members have names of their own, and each of them takes one value and with it fills its
    own place and no other. -/
structure Lawful : Prop where
  names : (shape.members.map (·.name)).Nodup
  ends : ∀ m ∈ shape.members, ∀ record input filled rest,
    m.fill depth record input = .ok (filled, rest) →
      skipValue input = .ok rest ∧ rest.length < input.length
  fills : ∀ m ∈ shape.members, ∀ record input filled rest,
    m.fill depth record input = .ok (filled, rest) →
      ∀ other ∈ shape.members, other.filled filled = (other.name == m.name || other.filled record)

variable {shape depth}

theorem missing?_eq_none_iff {record : σ} :
    shape.missing? record = none ↔
      ∀ m ∈ shape.members, m.required = true → m.filled record = true := by
  simp only [missing?, Option.map_eq_none_iff, List.find?_eq_none, Bool.and_eq_true,
    Bool.not_eq_true', not_and, Bool.not_eq_false]
  constructor
  · intro none m member
    obtain ⟨i, bound, rfl⟩ := List.mem_iff_getElem.mp member
    exact none (shape.members[i], i) (List.mem_zipIdx_iff_getElem?.mpr (by simp [bound]))
  · intro all entry member
    exact all entry.1 (List.fst_mem_of_mem_zipIdx member)

theorem mem_of_find? {name : String} {m : Member σ}
    (known : shape.members.find? (·.name == name) = some m) :
    m ∈ shape.members ∧ m.name = name :=
  ⟨List.mem_of_find?_eq_some known, by simpa using List.find?_some known⟩

theorem eq_of_settle_eq_ok {result : Except Cause σ × List UInt8} {record : σ}
    {rest : List UInt8} (settled : settle result = .ok (record, rest)) :
    result = (.ok record, rest) := by
  obtain ⟨_ | _, _⟩ := result <;> cases settled
  rfl

namespace Lawful

variable {m k : Member σ}

theorem eq_of_name_eq (lawful : shape.Lawful depth) (member : m ∈ shape.members)
    (other : k ∈ shape.members) (same : m.name = k.name) : m = k :=
  List.inj_on_of_nodup_map lawful.names member other same

theorem find?_name (lawful : shape.Lawful depth) (member : m ∈ shape.members) :
    shape.members.find? (·.name == m.name) = some m := by
  cases found : shape.members.find? (·.name == m.name) with
  | none => exact absurd (List.find?_eq_none.mp found m member) (by simp)
  | some k =>
    obtain ⟨other, same⟩ := mem_of_find? found
    rw [lawful.eq_of_name_eq other member same]

/-- A record is read from an object as it takes the fields of the object. -/
theorem takes_of_readMembers (lawful : shape.Lawful depth) {limit : Nat} {first : Bool}
    {record last : σ} {input rest : List UInt8}
    (read : shape.readMembers depth limit first record input = .ok (.ok last, rest)) :
    ∃ fields, Json.readMembers place limit first input = .ok (fields, rest) ∧
      shape.Takes depth record fields last ∧ shape.missing? last = none := by
  -- Both readers take the same names; `ends` makes them take the same values.
  induction limit generalizing first record input with
  | zero => cases read
  | succ limit ih =>
    obtain ⟨next, found, read⟩ := exists_of_bind_eq_ok read
    rw [Json.readMembers, found]
    cases next with
    | none behind =>
      dsimp only at read
      split at read
      · cases read
      · rename_i complete
        cases read
        exact ⟨[], rfl, .done _, complete⟩
    | name name behind =>
      dsimp only at read
      split at read
      · rename_i m known
        split at read
        · split at read <;> cases read
        rename_i absent
        obtain ⟨value, colon, read⟩ := exists_of_bind_eq_ok read
        obtain ⟨⟨filled, after⟩, fill, read⟩ := exists_of_bind_eq_ok read
        obtain ⟨fields, members, takes, complete⟩ := ih read
        have skipped := (lawful.ends m (mem_of_find? known).1 _ _ _ _ fill).1
        refine ⟨(name, value) :: fields, ?_, .known known (by simpa using absent) fill takes,
          complete⟩
        simp only [bind, Except.bind, colon, place, skipped, Except.map, members]
      · rename_i unknown
        obtain ⟨value, colon, read⟩ := exists_of_bind_eq_ok read
        obtain ⟨after, skipped, read⟩ := exists_of_bind_eq_ok read
        obtain ⟨fields, members, takes, complete⟩ := ih read
        refine ⟨(name, value) :: fields, ?_, .unknown unknown takes, complete⟩
        simp only [bind, Except.bind, colon, place, skipped, Except.map, members]

/-- What a record looks like when the members that are left are all that it lacks. -/
def Lacks (shape : Shape σ) (left : List (Member σ)) (record : σ) : Prop :=
  left.Sublist shape.members ∧ ∀ m ∈ shape.members, m.filled record = true ↔ m ∉ left

theorem lacks_of_fill (lawful : shape.Lawful depth) {left : List (Member σ)} {record filled : σ}
    {input rest : List UInt8} (lacks : Lacks shape (m :: left) record)
    (fill : m.fill depth record input = .ok (filled, rest)) : Lacks shape left filled := by
  obtain ⟨sub, lacking⟩ := lacks
  have member : m ∈ shape.members := sub.subset List.mem_cons_self
  have alone : m ∉ left := (List.nodup_cons.mp (lawful.names.of_map.sublist sub)).1
  refine ⟨(List.sublist_cons_self m left).trans sub, fun k other => ?_⟩
  rw [lawful.fills m member _ _ _ _ fill k other]
  by_cases same : k = m
  · subst k
    simpa using alone
  · have unlike : (k.name == m.name) = false := by
      simpa using mt (lawful.eq_of_name_eq other member) same
    rw [unlike, Bool.false_or, lacking k other, List.mem_cons, not_or]
    exact and_iff_right same

theorem missing?_of_lacks_nil {record : σ} (lacks : Lacks shape [] record) :
    shape.missing? record = none :=
  missing?_eq_none_iff.mpr fun m member _ => (lacks.2 m member).mpr List.not_mem_nil

theorem space_of_readListEnd {input rest : List UInt8} (read : readListEnd input = .ok rest) :
    skipSpace input = 0x5D :: rest := by
  unfold readListEnd at read
  split at read
  · cases read
  rename_i x more space
  split at read
  · rename_i close
    cases read
    rw [space, close]
  split at read
  · split at read
    · cases read
    · split at read <;> cases read
  · cases read

/-- A record is read from a list as it takes the items of the list in the order of its members. -/
theorem takes_of_readItems (lawful : shape.Lawful depth) {left : List (Member σ)} {first : Bool}
    {record last : σ} {input rest : List UInt8} (lacks : Lacks shape left record)
    (read : shape.readItems depth left first record input = .ok (.ok last, rest)) :
    ∃ places, places.length < input.length ∧
      (∀ limit, Json.readItems place (limit + places.length + 1) first input =
        .ok (places, rest)) ∧
      shape.Takes depth record ((left.map (·.name)).zip places) last ∧
      shape.missing? last = none := by
  induction left generalizing first record input with
  | nil =>
    obtain ⟨behind, end_, same⟩ := exists_of_map_eq_ok read
    cases same
    have close := nextItem_close first (space_of_readListEnd end_)
    refine ⟨[], length_pos_of_nextItem close, fun limit => ?_, .done _,
      missing?_of_lacks_nil lacks⟩
    rw [readItems_succ, close]
    rfl
  | cons m left ih =>
    rw [readItems_cons] at read
    obtain ⟨next, found, read⟩ := exists_of_bind_eq_ok read
    cases next with
    | none behind =>
      dsimp only at read
      split at read
      · cases read
      rename_i complete
      cases read
      refine ⟨[], length_pos_of_nextItem found, fun limit => ?_, .done _, complete⟩
      rw [readItems_succ, found]
      rfl
    | item start =>
      obtain ⟨⟨filled, after⟩, fill, read⟩ := exists_of_bind_eq_ok read
      have within := length_le_of_nextItem found
      have member : m ∈ shape.members := lacks.1.subset List.mem_cons_self
      have absent : m.filled record = false := by
        rw [← Bool.not_eq_true, lacks.2 m member]
        simp
      obtain ⟨skipped, short⟩ := lawful.ends m member _ _ _ _ fill
      obtain ⟨places, fewer, items, takes, complete⟩ := ih (lawful.lacks_of_fill lacks fill) read
      refine ⟨start :: places, ?_, fun limit => ?_,
        .known (lawful.find?_name member) absent fill takes, complete⟩
      · rw [List.length_cons]
        omega
      · rw [List.length_cons, readItems_succ, found]
        simp only [bind, Except.bind, place, skipped, Except.map, ← Nat.add_assoc, items]

/-- How often a name stands in the text is what its member becomes by it. -/
theorem count_of_takes (lawful : shape.Lawful depth) (member : m ∈ shape.members)
    {record last : σ} {fields : List (String × List UInt8)}
    (takes : shape.Takes depth record fields last) :
    (fields.map Prod.fst).count m.name + (m.filled record).toNat = (m.filled last).toNat := by
  induction takes with
  | done record => simp
  | known known absent fill more ih =>
    rename_i k record filled last name place rest fields
    -- Only the field of its own name fills a member, and it is taken when the member is not filled.
    obtain ⟨other, named⟩ := mem_of_find? known
    have own := lawful.fills k other _ _ _ _ fill m member
    rw [List.map_cons, ← ih, own]
    by_cases same : m.name = k.name
    · rw [lawful.eq_of_name_eq member other same, absent, named]
      simp
    · have differ : name ≠ m.name := fun equal => same (equal.symm.trans named.symm)
      have unlike : (m.name == k.name) = false := by simpa using same
      simp [unlike, differ]
  | unknown unknown more ih =>
    have differ := List.find?_eq_none.mp unknown m member
    rw [beq_iff_eq] at differ
    rw [List.map_cons, List.count_cons_of_ne (Ne.symm differ), ih]

/-- A field under a known name was taken by its member. -/
theorem fill_of_takes (lawful : shape.Lawful depth) (member : m ∈ shape.members)
    {record last : σ} {fields : List (String × List UInt8)}
    (takes : shape.Takes depth record fields last) {place : List UInt8}
    (field : (m.name, place) ∈ fields) :
    ∃ record filled rest, m.fill depth record place = .ok (filled, rest) := by
  induction takes with
  | done record => cases field
  | known known absent fill more ih =>
    cases field with
    | head =>
      obtain rfl := Option.some.inj ((lawful.find?_name member).symm.trans known)
      exact ⟨_, _, _, fill⟩
    | tail _ field => exact ih field
  | unknown unknown more ih =>
    cases field with
    | head => exact absurd (lawful.find?_name member) (by rw [unknown]; exact nofun)
    | tail _ field => exact ih field

/-- A record that is read from a text has taken the fields of the text. -/
theorem takes_of_read (lawful : shape.Lawful depth) {blank record : σ} {input rest : List UInt8}
    (empty : ∀ m ∈ shape.members, m.filled blank = false)
    (read : shape.read blank (depth + 1) input = .ok (record, rest)) :
    shape.Takes depth blank (fields (shape.members.map (·.name)) input) record ∧
      shape.missing? record = none := by
  cases space : skipSpace input with
  | nil =>
    rw [Shape.read, space] at read
    cases read
  | cons x behind =>
    rw [Shape.read, space] at read
    rw [fields, space]
    dsimp only at read ⊢
    by_cases list : x = 0x5B
    · rw [if_pos list] at read ⊢
      obtain ⟨result, items, read⟩ := exists_of_bind_eq_ok read
      rw [eq_of_settle_eq_ok read] at items
      have lacks : Lacks shape shape.members blank :=
        ⟨.refl _, fun m member => by simp [empty m member, member]⟩
      obtain ⟨places, fewer, all, takes, complete⟩ := lawful.takes_of_readItems lacks items
      obtain ⟨limit, enough⟩ := Nat.exists_eq_add_of_lt fewer
      rw [show behind.length + 1 = limit + 1 + places.length + 1 by omega, all]
      exact ⟨takes, complete⟩
    rw [if_neg list] at read ⊢
    by_cases object : x = 0x7B
    · rw [if_pos object] at read ⊢
      obtain ⟨result, members, read⟩ := exists_of_bind_eq_ok read
      rw [eq_of_settle_eq_ok read] at members
      obtain ⟨fields, same, takes, complete⟩ := lawful.takes_of_readMembers members
      rw [same]
      exact ⟨takes, complete⟩
    · rw [if_neg object] at read
      exact absurd read (wrongType_ne_ok _ _ _)

end Lawful

end Shape

end Gatehouse.Json
