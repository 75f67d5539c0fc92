import Gatehouse.Proofs.Json.Integers
import Gatehouse.Proofs.Json.Items
import Gatehouse.Proofs.Json.Members
import Mathlib.Data.List.Forall2

/-!
# Values in JSON

How written lists and objects are read, whatever their items are, and with it a value of any
shape: one that is kept as reading leaves it, with whole numbers and no deeper than reading allows,
is read back from its text.
-/

namespace Gatehouse.Json

/-- A value as reading leaves it where `depth` more levels are allowed, with integers only. -/
inductive Value.Kept : Nat → Value → Prop
  | null (depth : Nat) : Kept depth .null
  | bool (depth : Nat) (b : Bool) : Kept depth (.bool b)
  | integer (depth : Nat) {n : Int} (fits : Fits n) : Kept depth (.number (.integer n))
  | text (depth : Nat) (s : String) : Kept depth (.text s)
  | list {depth : Nat} {items : List Value} (values : ∀ v ∈ items, Kept depth v) :
    Kept (depth + 1) (.list items)
  | object {depth : Nat} {members : List (String × Value)}
    (sorted : members.Pairwise (·.1 < ·.1)) (values : ∀ member ∈ members, Kept depth member.2) :
    Kept (depth + 1) (.object members)

/-- A text that a reader takes for what was written, wherever the text stands. -/
structure Spells {α : Type} (reader : Reader α) (text : String) (a : α) : Prop where
  starts : ∃ x more, Utf8.octets text = x :: more ∧ isSpace x = false ∧ x ≠ 0x5D
  reads : ∀ rest, Closes rest → reader (Utf8.octets text ++ rest) = .ok (a, rest)

section Lists

variable {α : Type} {item : Reader α}

theorem length_lt_listOctets {texts : List String} {as : List α} (first : Bool)
    (spelled : List.Forall₂ (Spells item) texts as) :
    texts.length < (listOctets first texts).length := by
  induction spelled generalizing first with
  | nil => exact Nat.one_pos
  | cons head tail ih =>
    have behind := ih false
    obtain ⟨x, more, written, -⟩ := head.starts
    simp only [listOctets, written, List.length_append, List.length_cons]
    omega

theorem readItems_listOctets {texts : List String} {as : List α}
    (spelled : List.Forall₂ (Spells item) texts as) (limit : Nat) (first : Bool)
    (rest : List UInt8) :
    readItems item (limit + texts.length + 1) first (listOctets first texts ++ rest) =
      .ok (as, rest) := by
  induction spelled generalizing first with
  | nil =>
    rw [listOctets, List.singleton_append, readItems_succ, nextItem_close first rfl]
    rfl
  | @cons text a texts as head tail ih =>
    -- The start of the item is neither white space nor the bracket that would close the list.
    obtain ⟨x, more, written, token, other⟩ := head.starts
    rw [List.length_cons, ← Nat.add_assoc, readItems_succ, listOctets, List.append_assoc,
      List.append_assoc, nextItem_written first written token other]
    simp only [bind, Except.bind, head.reads _ (closes_listOctets texts rest), ih false]

end Lists

section Objects

variable {α : Type} {item : Reader α}

theorem readMembers_membersOctets {texts : List (String × String)}
    {members : List (String × α)}
    (spelled : List.Forall₂ (fun text member => text.1 = member.1 ∧ Spells item text.2 member.2)
      texts members) (limit : Nat) (first : Bool) (rest : List UInt8) :
    readMembers item (limit + texts.length + 1) first (membersOctets first texts ++ rest) =
      .ok (members, rest) := by
  induction spelled generalizing first with
  | nil =>
    rw [membersOctets, List.singleton_append, readMembers, readName_brace]
    rfl
  | @cons text member texts members head tail ih =>
    obtain ⟨name, text⟩ := text
    obtain ⟨other, a⟩ := member
    obtain ⟨same, head⟩ := head
    cases same
    have here := head.reads _ (closes_membersOctets texts rest)
    rw [List.length_cons, ← Nat.add_assoc, readMembers, membersOctets, List.append_assoc,
      readName_nameOctets]
    simp only [bind, Except.bind, List.cons_append, List.append_assoc, readColon_cons, here,
      ih false]

end Objects

theorem writeValues_eq (items : List Value) : writeValues items = items.map Value.write := by
  induction items with
  | nil => rfl
  | cons v items ih => rw [writeValues, ih, List.map_cons]

theorem writeMembers_eq (members : List (String × Value)) :
    writeMembers members = members.map fun (name, v) => (name, v.write) := by
  induction members with
  | nil => rfl
  | cons member members ih => rw [writeMembers, ih, List.map_cons]

theorem readWord_append (word rest : List UInt8) : readWord word (word ++ rest) = .ok rest := by
  induction word with
  | nil => rfl
  | cons x word ih => rw [List.cons_append, readWord, if_pos rfl, ih]

theorem readValue_bracket (depth : Nat) (rest : List UInt8) :
    readValue (depth + 1) (0x5B :: rest) =
      (readItems (readValue depth) (rest.length + 1) true rest).map fun (items, rest) =>
        (.list items, rest) := by
  rw [readValue]
  rfl

theorem readValue_brace (depth : Nat) (rest : List UInt8) :
    readValue (depth + 1) (0x7B :: rest) =
      (readMembers (readValue depth) (rest.length + 1) true rest).map fun (members, rest) =>
        (.ofMembers members, rest) := by
  rw [readValue]
  rfl

namespace Spells

variable {α : Type} {depth : Nat}

theorem map {β : Type} {reader : Reader α} {text : String} {a : α} (f : α → β)
    (spelled : Spells reader text a) :
    Spells (fun input => (reader input).map fun (a, rest) => (f a, rest)) text (f a) where
  starts := spelled.starts
  reads rest closes := by
    rw [spelled.reads rest closes]
    rfl

/-- A written list is read as the list of what its items are read as. -/
theorem list {item : Nat → Reader α} {texts : List String} {as : List α}
    (spelled : List.Forall₂ (Spells (item depth)) texts as) :
    Spells (readList item (depth + 1)) (writeList texts) as where
  starts := ⟨0x5B, _, octets_writeList texts, rfl, by decide⟩
  reads rest _ := by
    have short := length_lt_listOctets true spelled
    obtain ⟨extra, enough⟩ := Nat.exists_eq_add_of_lt short
    have items := readItems_listOctets spelled (extra + 1 + rest.length) true rest
    rw [octets_writeList, List.cons_append, readList, skipSpace_cons (by decide)]
    dsimp only
    rw [if_pos rfl, ← items, List.length_append]
    congr 1
    omega

theorem text (s : String) : Spells (readValue depth) (writeText s) (.text s) where
  starts := ⟨0x22, _, octets_writeText s, rfl, by decide⟩
  reads rest _ := by
    rw [octets_writeText, List.cons_append, List.append_assoc, readValue, skipSpace_quote]
    simp only [List.singleton_append, readText_written]
    rfl

theorem integer {n : Int} (fits : Fits n) :
    Spells (readValue depth) (toString n) (.number (.integer n)) where
  starts := by
    cases n with
    | ofNat n =>
      obtain ⟨x, more, written, digit⟩ := exists_octets_toString n
      exact ⟨x, more, written, isSpace_of_digit digit, ne_of_digit digit rfl⟩
    | negSucc n =>
      have minus : Utf8.octets "-" = [0x2D] := by decide
      refine ⟨0x2D, Utf8.octets (toString (n + 1)), ?_, rfl, by decide⟩
      rw [show toString (Int.negSucc n) = "-" ++ toString (n + 1) from rfl, Utf8.octets_append,
        minus]
      rfl
  reads rest closes := readValue_integer depth fits closes.breaks

/-- A word is read as what it stands for. -/
theorem word {text : String} {v : Value} (x : UInt8) (more : List UInt8)
    (written : Utf8.octets text = x :: more) (token : isSpace x = false) (other : x ≠ 0x5D)
    (reads : ∀ rest, readValue depth (x :: rest) =
      (readWord more rest).map fun rest => (v, rest)) :
    Spells (readValue depth) text v where
  starts := ⟨x, more, written, token, other⟩
  reads rest _ := by
    rw [written, List.cons_append, reads, readWord_append]
    rfl

theorem listValue {items : List Value}
    (spelled : ∀ v ∈ items, Spells (readValue depth) v.write v) :
    Spells (readValue (depth + 1)) (Value.list items).write (.list items) where
  starts := ⟨0x5B, _, octets_writeList _, rfl, by decide⟩
  reads rest closes := by
    have each : List.Forall₂ (Spells (readValue depth)) (writeValues items) items := by
      rw [writeValues_eq, List.forall₂_map_left_iff, List.forall₂_same]
      exact spelled
    have whole := (list each).reads rest closes
    rw [Value.write]
    rw [octets_writeList, List.cons_append] at whole ⊢
    rw [readList, skipSpace_cons (by decide)] at whole
    dsimp only at whole
    rw [if_pos rfl] at whole
    rw [readValue_bracket, whole]
    rfl

theorem object {members : List (String × Value)} (sorted : members.Pairwise (·.1 < ·.1))
    (spelled : ∀ member ∈ members, Spells (readValue depth) member.2.write member.2) :
    Spells (readValue (depth + 1)) (Value.object members).write (.object members) where
  starts := ⟨0x7B, _, octets_writeObject_members _, rfl, by decide⟩
  reads rest _ := by
    have each : List.Forall₂
        (fun text member => text.1 = member.1 ∧ Spells (readValue depth) text.2 member.2)
        (writeMembers members) members := by
      rw [writeMembers_eq, List.forall₂_map_left_iff, List.forall₂_same]
      exact fun member inside => ⟨rfl, spelled member inside⟩
    have short := length_lt_membersOctets true (writeMembers members)
    obtain ⟨extra, enough⟩ := Nat.exists_eq_add_of_lt short
    have read := readMembers_membersOctets each (extra + 1 + rest.length) true rest
    have kept : Value.ofMembers members = .object members :=
      congrArg Value.object (foldl_insertMember_of_sorted [] sorted)
    have limit : (membersOctets true (writeMembers members) ++ rest).length + 1 =
        extra + 1 + rest.length + (writeMembers members).length + 1 := by
      rw [List.length_append]
      omega
    rw [Value.write, octets_writeObject_members, List.cons_append, readValue_brace, limit, read,
      ← kept]
    rfl

end Spells

/-- A value that is kept is read back from its text. -/
theorem Value.Kept.spells {depth : Nat} {v : Value} (kept : v.Kept depth) :
    Spells (readValue depth) v.write v := by
  induction kept with
  | null depth =>
    refine .word 0x6E (ascii "ull") (by decide) rfl (by decide) fun rest => ?_
    rw [readValue]
    rfl
  | bool depth b =>
    cases b with
    | true =>
      refine .word 0x74 (ascii "rue") (by decide) rfl (by decide) fun rest => ?_
      rw [readValue]
      rfl
    | false =>
      refine .word 0x66 (ascii "alse") (by decide) rfl (by decide) fun rest => ?_
      rw [readValue]
      rfl
  | integer depth fits => exact .integer fits
  | text depth s => exact .text s
  | list values ih => exact .listValue ih
  | object sorted values ih => exact .object sorted ih

end Gatehouse.Json
