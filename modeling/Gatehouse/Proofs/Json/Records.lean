import Gatehouse.Proofs.Json.Fields
import Gatehouse.Proofs.Json.Objects
import Gatehouse.Proofs.Json.Values

/-!
# Records and their members' texts

A record is read back from a written object whose members each take their own text, whatever kind
of value it is.  And while a record is read from any text, what stands in front of its members can
be noted: the record stays the same, and it can be told from the notes what has been read.
-/

namespace Gatehouse.Json

variable {σ β : Type}

/-- The member with notes that are taken in front of its value: `note` makes them from the levels
    that are left and the text. -/
def Member.noting (m : Member σ) (note : Nat → List UInt8 → List β) : Member (σ × List β) where
  name := m.name
  required := m.required
  filled := fun (record, _) => m.filled record
  fill depth := fun (record, notes) input =>
    (m.fill depth record input).map fun (record, rest) =>
      ((record, notes ++ note depth input), rest)

/-- A member that holds a string takes its text. -/
theorem Member.text_reads (name : String) (required : Bool) (get : σ → Option String)
    (set : σ → String → σ) (depth : Nat) (record : σ) (s : String) (rest : List UInt8)
    (_ : Closes rest) :
    (Member.text name required get set).fill depth record (Utf8.octets (writeText s) ++ rest) =
      .ok (set record s, rest) := by
  have fill := Member.text_fill name required get set depth record s [] rest nofun
  rwa [List.nil_append] at fill

namespace Shape

variable {shape : Shape σ} {depth : Nat}

/-- Texts, taken by their names, make one record into another. -/
inductive Collects (shape : Shape σ) (depth : Nat) : σ → List (String × String) → σ → Prop
  | done (record : σ) : Collects shape depth record [] record
  | known {m : Member σ} {record filled last : σ} {name text : String}
    {texts : List (String × String)} (known : shape.members.find? (·.name == name) = some m)
    (absent : m.filled record = false)
    (fill : ∀ rest, Closes rest →
      m.fill depth record (Utf8.octets text ++ rest) = .ok (filled, rest))
    (more : Collects shape depth filled texts last) :
    Collects shape depth record ((name, text) :: texts) last

theorem readMembers_of_collects {record last : σ} {texts : List (String × String)}
    (collects : shape.Collects depth record texts last) (complete : shape.missing? last = none)
    (limit : Nat) (first : Bool) (rest : List UInt8) :
    shape.readMembers depth (limit + texts.length + 1) first record
        (membersOctets first texts ++ rest) =
      .ok (.ok last, rest) := by
  induction collects generalizing first with
  | done record =>
    rw [membersOctets, List.singleton_append, readMembers, readName_brace]
    simp only [bind, Except.bind, complete]
  | @known m record filled last name text texts known absent fill more ih =>
    rw [List.length_cons, ← Nat.add_assoc, readMembers, membersOctets, List.append_assoc,
      readName_nameOctets]
    simp only [bind, Except.bind, known, absent, Bool.false_eq_true, if_false, List.cons_append,
      List.append_assoc, readColon_cons, fill _ (closes_membersOctets texts rest)]
    exact ih complete false

/-- A record is read back from the object of the texts that make it. -/
theorem spells_of_collects {blank last : σ} {texts : List (String × String)}
    (collects : shape.Collects depth blank texts last) (complete : shape.missing? last = none) :
    Spells (shape.read blank (depth + 1)) (writeObject texts) last where
  starts := ⟨0x7B, _, octets_writeObject_members texts, rfl, by decide⟩
  reads rest _ := by
    obtain ⟨extra, enough⟩ := Nat.exists_eq_add_of_lt (length_lt_membersOctets true texts)
    have members :=
      readMembers_of_collects collects complete (extra + 1 + rest.length) true rest
    have limit : (membersOctets true texts ++ rest).length + 1 =
        extra + 1 + rest.length + texts.length + 1 := by
      rw [List.length_append]
      omega
    rw [octets_writeObject_members, List.cons_append, read, skipSpace_cons (by decide)]
    dsimp only
    rw [if_neg (by decide), if_pos rfl, limit, members]
    rfl

/-- The shape with notes that are taken in front of the values of its members. -/
def noting (shape : Shape σ) (note : String → Nat → List UInt8 → List β) :
    Shape (σ × List β) where
  title := shape.title
  members := shape.members.map fun m => m.noting (note m.name)

section Noting

variable {note : String → Nat → List UInt8 → List β}

theorem members_noting :
    (shape.noting note).members = shape.members.map fun m => m.noting (note m.name) := rfl

theorem find?_noting (name : String) :
    (shape.noting note).members.find? (·.name == name) =
      (shape.members.find? (·.name == name)).map fun m => m.noting (note m.name) := by
  rw [members_noting, List.find?_map]
  rfl

theorem missing?_noting (record : σ) (notes : List β) :
    (shape.noting note).missing? (record, notes) = shape.missing? record := by
  rw [missing?, missing?, members_noting, List.zipIdx_map, List.find?_map, Option.map_map]
  rfl

variable {P : σ → List β → Prop}
  (keeps : ∀ m ∈ shape.members, ∀ record notes input filled rest, P record notes →
    m.fill depth record input = .ok (filled, rest) → P filled (notes ++ note m.name depth input))

include keeps

theorem exists_notes_of_readMembers {limit : Nat} {first : Bool} {record last : σ}
    {notes : List β} {input rest : List UInt8} (holds : P record notes)
    (read : shape.readMembers depth limit first record input = .ok (.ok last, rest)) :
    ∃ all, (shape.noting note).readMembers depth limit first (record, notes) input =
      .ok (.ok (last, all), rest) ∧ P last all := by
  induction limit generalizing first record notes input with
  | zero => cases read
  | succ limit ih =>
    obtain ⟨next, found, read⟩ := exists_of_bind_eq_ok read
    rw [readMembers, found]
    cases next with
    | none behind =>
      dsimp only at read
      split at read
      · cases read
      · rename_i complete
        cases read
        refine ⟨notes, ?_, holds⟩
        simp only [bind, Except.bind, missing?_noting, complete]
    | name name behind =>
      dsimp only at read
      split at read
      · rename_i m known
        split at read
        · split at read <;> cases read
        rename_i absent
        obtain ⟨value, colon, read⟩ := exists_of_bind_eq_ok read
        obtain ⟨⟨filled, after⟩, fill, read⟩ := exists_of_bind_eq_ok read
        have kept := keeps m (mem_of_find? known).1 _ _ _ _ _ holds fill
        obtain ⟨all, noted, last⟩ := ih kept read
        refine ⟨all, ?_, last⟩
        simp only [bind, Except.bind, find?_noting, known, Option.map_some, Member.noting, absent,
          Bool.false_eq_true, if_false, colon, fill, Except.map, noted]
      · rename_i unknown
        obtain ⟨value, colon, read⟩ := exists_of_bind_eq_ok read
        obtain ⟨after, skipped, read⟩ := exists_of_bind_eq_ok read
        obtain ⟨all, noted, last⟩ := ih holds read
        refine ⟨all, ?_, last⟩
        simp only [bind, Except.bind, find?_noting, unknown, Option.map_none, colon, skipped, noted]

theorem exists_notes_of_readItems {left : List (Member σ)} (sub : left ⊆ shape.members)
    {first : Bool} {record last : σ} {notes : List β} {input rest : List UInt8}
    (holds : P record notes)
    (read : shape.readItems depth left first record input = .ok (.ok last, rest)) :
    ∃ all, (shape.noting note).readItems depth
        (left.map fun m : Member σ => m.noting (note m.name)) first (record, notes) input =
      .ok (.ok (last, all), rest) ∧ P last all := by
  induction left generalizing first record notes input with
  | nil =>
    obtain ⟨behind, close, same⟩ := exists_of_map_eq_ok read
    cases same
    refine ⟨notes, ?_, holds⟩
    rw [List.map_nil, readItems, close]
    rfl
  | cons m left ih =>
    rw [readItems_cons] at read
    obtain ⟨next, found, read⟩ := exists_of_bind_eq_ok read
    cases next with
    | none behind =>
      dsimp only at read
      split at read
      · cases read
      rename_i complete
      cases read
      refine ⟨notes, ?_, holds⟩
      rw [List.map_cons, readItems_cons, found]
      simp only [bind, Except.bind, missing?_noting, complete]
    | item start =>
      obtain ⟨⟨filled, after⟩, fill, read⟩ := exists_of_bind_eq_ok read
      have kept := keeps m (sub List.mem_cons_self) _ _ _ _ _ holds fill
      obtain ⟨all, noted, last⟩ := ih (fun k other => sub (List.mem_cons_of_mem _ other)) kept read
      refine ⟨all, ?_, last⟩
      rw [List.map_cons, readItems_cons, found]
      simp only [bind, Except.bind, Member.noting, fill, Except.map]
      exact noted

/-- A record is read with notes as it is read without. -/
theorem exists_notes_of_read {blank record : σ} {input rest : List UInt8} (holds : P blank [])
    (read : shape.read blank (depth + 1) input = .ok (record, rest)) :
    ∃ notes, (shape.noting note).read (blank, []) (depth + 1) input =
      .ok ((record, notes), rest) ∧ P record notes := by
  unfold Shape.read at read ⊢
  split at read
  · cases read
  split at read
  · rename_i list
    obtain ⟨result, items, read⟩ := exists_of_bind_eq_ok read
    rw [eq_of_settle_eq_ok read] at items
    obtain ⟨notes, noted, last⟩ :=
      exists_notes_of_readItems keeps (List.Subset.refl _) holds items
    refine ⟨notes, ?_, last⟩
    dsimp only
    rw [if_pos list, members_noting, noted]
    rfl
  rename_i other
  split at read
  · rename_i object
    obtain ⟨result, members, read⟩ := exists_of_bind_eq_ok read
    rw [eq_of_settle_eq_ok read] at members
    obtain ⟨notes, noted, last⟩ := exists_notes_of_readMembers keeps holds members
    refine ⟨notes, ?_, last⟩
    dsimp only
    rw [if_neg other, if_pos object, noted]
    rfl
  · exact absurd read (wrongType_ne_ok _ _ _)

end Noting

end Shape

end Gatehouse.Json
