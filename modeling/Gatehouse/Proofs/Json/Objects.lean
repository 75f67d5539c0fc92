import Gatehouse.Json.Record
import Gatehouse.Proofs.Json.Written
import Mathlib.Data.List.TakeWhile

/-!
# Records in written objects

How a record is read from an object whose members are all strings, one member after the other
and whatever white space stands between the tokens: a known member is taken in, an unknown one
is passed over, and at the closing brace a required member that did not come is missed.
-/

namespace Gatehouse.Json

/-- The white space of a written object: in front of each member, behind each colon, and in front
    of the closing brace. -/
structure Layout where
  member : List UInt8
  value : List UInt8
  last : List UInt8
  blank : ∀ x ∈ member ++ value ++ last, isSpace x = true

namespace Layout

/-- No white space. -/
def compact : Layout := ⟨[], [], [], by simp⟩

/-- Each member on a line of its own. -/
def lines : Layout := ⟨[0x0A, 0x20, 0x20], [0x20], [0x0A], List.all_eq_true.mp (by decide)⟩

variable (layout : Layout)

theorem blank_member : ∀ x ∈ layout.member, isSpace x = true := fun x inside =>
  layout.blank x (List.mem_append_left _ (List.mem_append_left _ inside))

theorem blank_value : ∀ x ∈ layout.value, isSpace x = true := fun x inside =>
  layout.blank x (List.mem_append_left _ (List.mem_append_right _ inside))

theorem blank_last : ∀ x ∈ layout.last, isSpace x = true := fun x inside =>
  layout.blank x (List.mem_append_right _ inside)

/-- A member of a written object with the comma in front of it, if it is not the first one. -/
def memberOctets (first : Bool) (name s : String) : List UInt8 :=
  (if first then [] else [0x2C]) ++
    (layout.member ++
      (Utf8.octets (writeText name) ++ 0x3A :: (layout.value ++ Utf8.octets (writeText s))))

/-- The octets of a written object of strings behind its opening brace. -/
def objectOctets : (first : Bool) → List (String × String) → List UInt8
  | _, [] => layout.last ++ [0x7D]
  | first, (name, s) :: texts => layout.memberOctets first name s ++ objectOctets false texts

end Layout

theorem membersOctets_strings (first : Bool) (texts : List (String × String)) :
    membersOctets first (texts.map fun (name, s) => (name, writeText s)) =
      Layout.compact.objectOctets first texts := by
  induction texts generalizing first with
  | nil => rfl
  | cons head texts ih =>
    rw [List.map_cons, membersOctets, Layout.objectOctets, ih false]
    simp [Layout.memberOctets, Layout.compact, nameOctets]

theorem octets_writeObject (texts : List (String × String)) :
    Utf8.octets (writeObject (texts.map fun (name, s) => (name, writeText s))) =
      0x7B :: Layout.compact.objectOctets true texts := by
  rw [octets_writeObject_members, membersOctets_strings]

/-- A member on its line. -/
theorem octets_memberLine (name s : String) :
    Utf8.octets ("  " ++ writeText name ++ ": " ++ writeText s) =
      [0x20, 0x20] ++
        (Utf8.octets (writeText name) ++ 0x3A :: ([0x20] ++ Utf8.octets (writeText s))) := by
  have indent : Utf8.octets "  " = [0x20, 0x20] := by decide
  have colon : Utf8.octets ": " = [0x3A, 0x20] := by decide
  simp [indent, colon]

theorem octets_joinWith_lines (head : String × String) (texts : List (String × String)) :
    Utf8.octets (Text.joinWith ",\n" (((head :: texts).map fun (name, s) =>
        (name, writeText s)).map fun (name, s) => "  " ++ writeText name ++ ": " ++ s)) ++
        [0x0A, 0x7D] =
      [0x20, 0x20] ++ (Utf8.octets (writeText head.1) ++
        0x3A :: ([0x20] ++ Utf8.octets (writeText head.2))) ++
        Layout.lines.objectOctets false texts := by
  induction texts generalizing head with
  | nil =>
    rw [List.map_cons, List.map_nil, List.map_cons, List.map_nil, Text.joinWith,
      octets_memberLine]
    rfl
  | cons next texts ih =>
    have comma : Utf8.octets ",\n" = [0x2C, 0x0A] := by decide
    have tail := ih next
    rw [List.map_cons, List.map_cons] at tail
    rw [List.map_cons, List.map_cons, List.map_cons, List.map_cons, Text.joinWith,
      Utf8.octets_append, Utf8.octets_append, octets_memberLine, comma, List.append_assoc, tail]
    simp [Layout.objectOctets, Layout.memberOctets, Layout.lines]

theorem octets_writeObjectLines (head : String × String) (texts : List (String × String)) :
    Utf8.octets (writeObjectLines ((head :: texts).map fun (name, s) => (name, writeText s))) =
      0x7B :: Layout.lines.objectOctets true (head :: texts) := by
  have opening : Utf8.octets "\x7b\n" = [0x7B, 0x0A] := by decide
  have closing : Utf8.octets "\n\x7d" = [0x0A, 0x7D] := by decide
  rw [writeObjectLines, Utf8.octets_append, Utf8.octets_append, opening, closing,
    List.append_assoc, octets_joinWith_lines]
  simp [Layout.objectOctets, Layout.memberOctets, Layout.lines]

theorem readName_memberOctets (layout : Layout) (first : Bool) (name s : String)
    (rest : List UInt8) :
    readName first (layout.memberOctets first name s ++ rest) =
      .ok (.name name (0x3A :: (layout.value ++ Utf8.octets (writeText s)) ++ rest)) := by
  have written := readName_written layout.blank_member first name
    (0x3A :: (layout.value ++ Utf8.octets (writeText s)) ++ rest)
  simpa only [Layout.memberOctets, List.append_assoc, List.cons_append] using written

theorem readName_last (layout : Layout) (first : Bool) :
    readName first (layout.last ++ [0x7D]) = .ok (.none []) := by
  rw [readName, skipSpace_append layout.blank_last]
  rfl

namespace Shape

variable {σ : Type} (shape : Shape σ) (layout : Layout) (depth limit : Nat) (first : Bool)

theorem readMembers_known {m : Member σ} {record filled : σ} {name s : String}
    {rest : List UInt8} (known : shape.members.find? (·.name == name) = some m)
    (absent : m.filled record = false)
    (fill : m.fill depth record (layout.value ++ (Utf8.octets (writeText s) ++ rest)) =
      .ok (filled, rest)) :
    shape.readMembers depth (limit + 1) first record (layout.memberOctets first name s ++ rest) =
      shape.readMembers depth limit false filled rest := by
  rw [readMembers, readName_memberOctets]
  simp only [bind, Except.bind, known, absent, Bool.false_eq_true, if_false, List.cons_append,
    List.append_assoc, readColon_cons, fill]

theorem readMembers_unknown {record : σ} {name : String} (s : String) (rest : List UInt8)
    (unknown : shape.members.find? (·.name == name) = none) :
    shape.readMembers depth (limit + 1) first record (layout.memberOctets first name s ++ rest) =
      shape.readMembers depth limit false record rest := by
  rw [readMembers, readName_memberOctets]
  simp only [bind, Except.bind, unknown, List.cons_append, List.append_assoc, readColon_cons,
    skipValue_writeText layout.blank_value]

/-- Strings, taken by their names, make one record into another. -/
inductive Fills (shape : Shape σ) (depth : Nat) : σ → List (String × String) → σ → Prop
  | done (record : σ) : Fills shape depth record [] record
  | known {m : Member σ} {record filled last : σ} {name s : String}
    {texts : List (String × String)} (known : shape.members.find? (·.name == name) = some m)
    (absent : m.filled record = false)
    (fill : ∀ gap rest, (∀ x ∈ gap, isSpace x = true) →
      m.fill depth record (gap ++ (Utf8.octets (writeText s) ++ rest)) = .ok (filled, rest))
    (more : Fills shape depth filled texts last) :
    Fills shape depth record ((name, s) :: texts) last
  | unknown {record last : σ} {name s : String} {texts : List (String × String)}
    (unknown : shape.members.find? (·.name == name) = none)
    (more : Fills shape depth record texts last) :
    Fills shape depth record ((name, s) :: texts) last

/-- What reading comes to at the closing brace. -/
def finished (shape : Shape σ) (record : σ) : Except Cause σ :=
  match shape.missing? record with
  | some (_, name) => .error (.missingMember name)
  | none => .ok record

theorem readMembers_of_fills {record last : σ} {texts : List (String × String)}
    (fills : shape.Fills depth record texts last) :
    shape.readMembers depth (limit + texts.length + 1) first record
        (layout.objectOctets first texts) =
      .ok (shape.finished last, []) := by
  induction fills generalizing first with
  | done record =>
    rw [Layout.objectOctets, readMembers, readName_last]
    simp only [bind, Except.bind, finished]
    cases shape.missing? record <;> rfl
  | known known absent fill more ih =>
    rw [Layout.objectOctets, List.length_cons, ← Nat.add_assoc,
      shape.readMembers_known layout depth _ first known absent (fill _ _ layout.blank_value)]
    exact ih false
  | unknown unknown more ih =>
    rw [Layout.objectOctets, List.length_cons, ← Nat.add_assoc,
      shape.readMembers_unknown layout depth _ first _ _ unknown]
    exact ih false

theorem length_lt_objectOctets (first : Bool) (texts : List (String × String)) :
    texts.length < (layout.objectOctets first texts).length := by
  induction texts generalizing first with
  | nil => simp [Layout.objectOctets]
  | cons head texts ih =>
    have tail := ih false
    simp only [Layout.objectOctets, Layout.memberOctets, List.length_append, List.length_cons]
    omega

/-- A record is read from an object of strings as the strings fill it, in whatever layout. -/
theorem read_objectOctets {blank last : σ} {texts : List (String × String)}
    (fills : shape.Fills depth blank texts last) :
    shape.read blank (depth + 1) (0x7B :: layout.objectOctets true texts) =
      settle (shape.finished last, []) := by
  obtain ⟨extra, enough⟩ := Nat.exists_eq_add_of_le (length_lt_objectOctets layout true texts)
  have members := shape.readMembers_of_fills layout depth (extra + 1) true fills
  rw [show extra + 1 + texts.length + 1 = (layout.objectOctets true texts).length + 1 by omega]
    at members
  rw [read, show skipSpace (0x7B :: layout.objectOctets true texts) =
    0x7B :: layout.objectOctets true texts from rfl]
  simp only [if_pos, bind, Except.bind, members]
  rfl

theorem read_writeObject {blank last : σ} {texts : List (String × String)}
    (fills : shape.Fills depth blank texts last) :
    shape.read blank (depth + 1)
        (Utf8.octets (writeObject (texts.map fun (name, s) => (name, writeText s)))) =
      settle (shape.finished last, []) := by
  rw [octets_writeObject, shape.read_objectOctets .compact depth fills]

theorem read_writeObjectLines {blank last : σ} {head : String × String}
    {texts : List (String × String)} (fills : shape.Fills depth blank (head :: texts) last) :
    shape.read blank (depth + 1)
        (Utf8.octets
          (writeObjectLines ((head :: texts).map fun (name, s) => (name, writeText s)))) =
      settle (shape.finished last, []) := by
  rw [octets_writeObjectLines, shape.read_objectOctets .lines depth fills]

end Shape

/-- A member that holds a string takes a written one. -/
theorem Member.text_fill {σ : Type} (name : String) (required : Bool) (get : σ → Option String)
    (set : σ → String → σ) (depth : Nat) (record : σ) (s : String) (gap rest : List UInt8)
    (blank : ∀ x ∈ gap, isSpace x = true) :
    (Member.text name required get set).fill depth record
        (gap ++ (Utf8.octets (writeText s) ++ rest)) =
      .ok (set record s, rest) := by
  simp only [Member.text, readString_writeText blank]
  rfl

theorem read_of_ok {α : Type} {reader : Reader α} {input : List UInt8} {a : α}
    (whole : reader input = .ok (a, [])) : read reader input = .ok a := by
  rw [read, whole]
  rfl

theorem read_of_error {α : Type} {reader : Reader α} {input : List UInt8}
    {stop : Stop} (stopped : reader input = .error stop) :
    read reader input = .error (stop.inText input) := by
  rw [read, stopped]
  rfl

/-- A text is read as a whole: behind what the reader takes there is only white space. -/
theorem read_eq_ok_iff {α : Type} {reader : Reader α} {input : List UInt8} {a : α} :
    read reader input = .ok a ↔
      ∃ rest, reader input = .ok (a, rest) ∧ ∀ x ∈ rest, isSpace x = true := by
  simp only [read, bind, Except.bind]
  cases reader input with
  | error stop => simp
  | ok found =>
    obtain ⟨b, rest⟩ := found
    dsimp only
    cases left : skipSpace rest with
    | nil =>
      have blank := List.dropWhile_eq_nil_iff.mp left
      constructor
      · rintro ⟨⟩
        exact ⟨rest, rfl, blank⟩
      · rintro ⟨_, ⟨⟩, -⟩
        rfl
    | cons x more =>
      refine ⟨nofun, ?_⟩
      rintro ⟨_, ⟨⟩, blank⟩
      exact absurd (left.symm.trans (List.dropWhile_eq_nil_iff.mpr blank)) (List.cons_ne_nil x more)

section Values

variable (layout : Layout) (depth : Nat)

/-- A string that was written is read as the value that is this string. -/
theorem readValue_writeText {gap : List UInt8} (blank : ∀ x ∈ gap, isSpace x = true)
    (s : String) (rest : List UInt8) :
    readValue depth (gap ++ (Utf8.octets (writeText s) ++ rest)) = .ok (.text s, rest) := by
  rw [octets_writeText, List.cons_append, List.append_assoc, readValue, skipSpace_append blank,
    skipSpace_quote]
  simp only [List.singleton_append, readText_written]
  rfl

theorem readMembers_objectOctets (limit : Nat) (first : Bool) (texts : List (String × String)) :
    readMembers (readValue depth) (limit + texts.length + 1) first
        (layout.objectOctets first texts) =
      .ok (texts.map fun (name, s) => (name, .text s), []) := by
  induction texts generalizing first with
  | nil =>
    rw [Layout.objectOctets, readMembers, readName_last]
    rfl
  | cons head texts ih =>
    obtain ⟨name, s⟩ := head
    rw [Layout.objectOctets, List.length_cons, ← Nat.add_assoc, readMembers,
      readName_memberOctets]
    simp only [bind, Except.bind, List.cons_append, List.append_assoc, readColon_cons,
      readValue_writeText depth layout.blank_value, ih false, List.map_cons]

/-- A written object of strings is read as the object that has these strings. -/
theorem read_readValue_writeObject (texts : List (String × String)) :
    read (readValue (depth + 1))
        (Utf8.octets (writeObject (texts.map fun (name, s) => (name, writeText s)))) =
      .ok (.ofMembers (texts.map fun (name, s) => (name, .text s))) := by
  have short := Shape.length_lt_objectOctets .compact true texts
  obtain ⟨extra, enough⟩ := Nat.exists_eq_add_of_le short
  have members := readMembers_objectOctets .compact depth (extra + 1) true texts
  rw [show extra + 1 + texts.length + 1 = (Layout.compact.objectOctets true texts).length + 1 by
    omega] at members
  refine read_of_ok ?_
  rw [octets_writeObject, readValue]
  rw [show skipSpace (0x7B :: Layout.compact.objectOctets true texts) =
    0x7B :: Layout.compact.objectOctets true texts from rfl]
  simp only [members]
  rfl

end Values

end Gatehouse.Json
