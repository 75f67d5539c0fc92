import Gatehouse.Json.Reader
import Gatehouse.Proofs.Json.Strings

/-!
# Written lists and objects

The octets of lists and objects whose items are written as any texts, and how their brackets, commas
and names are read.
-/

namespace Gatehouse.Json

/-- What may follow an item or a member: a comma, a closing bracket, or nothing. -/
def Closes (rest : List UInt8) : Prop :=
  ∀ x ∈ rest.head?, x = 0x2C ∨ x = 0x5D ∨ x = 0x7D

/-- The octets of a written list behind its opening bracket. -/
def listOctets : (first : Bool) → List String → List UInt8
  | _, [] => [0x5D]
  | first, text :: texts =>
    (if first then [] else [0x2C]) ++ (Utf8.octets text ++ listOctets false texts)

theorem octets_foldl_items (texts : List String) (start : String) :
    Utf8.octets (texts.foldl (fun text t => text ++ "," ++ t) start) ++ [0x5D] =
      Utf8.octets start ++ listOctets false texts := by
  induction texts generalizing start with
  | nil => rfl
  | cons text texts ih =>
    have comma : Utf8.octets "," = [0x2C] := by decide
    rw [List.foldl_cons, ih]
    simp [listOctets, comma]

theorem octets_writeList (texts : List String) :
    Utf8.octets (writeList texts) = 0x5B :: listOctets true texts := by
  cases texts with
  | nil => decide
  | cons text texts =>
    have opening : Utf8.octets "[" = [0x5B] := by decide
    have closing : Utf8.octets "]" = [0x5D] := by decide
    have empty : Utf8.octets "" = [] := by decide
    have items := octets_foldl_items texts ""
    rw [empty, List.nil_append] at items
    rw [writeList]
    simp only [Utf8.octets_append, opening, closing, List.append_assoc, items]
    rfl

theorem closes_listOctets (texts : List String) (rest : List UInt8) :
    Closes (listOctets false texts ++ rest) := by
  cases texts with
  | nil =>
    rintro x ⟨⟩
    exact .inr (.inl rfl)
  | cons text texts =>
    rintro x ⟨⟩
    exact .inl rfl

/-- The octets of a written name with the comma in front of it, if it is not the first one. -/
def nameOctets (first : Bool) (name : String) : List UInt8 :=
  (if first then [] else [0x2C]) ++ Utf8.octets (writeText name)

/-- The octets of a written object behind its opening brace. -/
def membersOctets : (first : Bool) → List (String × String) → List UInt8
  | _, [] => [0x7D]
  | first, (name, text) :: texts =>
    nameOctets first name ++ 0x3A :: (Utf8.octets text ++ membersOctets false texts)

theorem octets_foldl_texts (texts : List (String × String)) (start : String) :
    Utf8.octets (texts.foldl
        (fun text (name, t) => text ++ "," ++ writeText name ++ ":" ++ t) start) ++ [0x7D] =
      Utf8.octets start ++ membersOctets false texts := by
  induction texts generalizing start with
  | nil => rfl
  | cons head texts ih =>
    have comma : Utf8.octets "," = [0x2C] := by decide
    have colon : Utf8.octets ":" = [0x3A] := by decide
    rw [List.foldl_cons, ih]
    simp [membersOctets, nameOctets, comma, colon]

theorem octets_writeObject_members (texts : List (String × String)) :
    Utf8.octets (writeObject texts) = 0x7B :: membersOctets true texts := by
  cases texts with
  | nil => decide
  | cons head texts =>
    obtain ⟨name, text⟩ := head
    have opening : Utf8.octets "\x7b" = [0x7B] := by decide
    have closing : Utf8.octets "\x7d" = [0x7D] := by decide
    have colon : Utf8.octets ":" = [0x3A] := by decide
    have empty : Utf8.octets "" = [] := by decide
    have members := octets_foldl_texts texts ""
    rw [empty, List.nil_append] at members
    rw [writeObject]
    simp only [Utf8.octets_append, opening, closing, colon, List.append_assoc, members]
    simp [membersOctets, nameOctets]

theorem closes_membersOctets (texts : List (String × String)) (rest : List UInt8) :
    Closes (membersOctets false texts ++ rest) := by
  cases texts with
  | nil =>
    rintro x ⟨⟩
    exact .inr (.inr rfl)
  | cons head texts =>
    rintro x ⟨⟩
    exact .inl rfl

theorem length_lt_membersOctets (first : Bool) (texts : List (String × String)) :
    texts.length < (membersOctets first texts).length := by
  induction texts generalizing first with
  | nil => exact Nat.one_pos
  | cons head texts ih =>
    have behind := ih false
    simp only [membersOctets, List.length_append, List.length_cons]
    omega

/-- A written name is read with what white space stands in front of it. -/
theorem readName_written {gap : List UInt8} (blank : ∀ x ∈ gap, isSpace x = true) (first : Bool)
    (name : String) (rest : List UInt8) :
    readName first
        ((if first then [] else [0x2C]) ++ (gap ++ (Utf8.octets (writeText name) ++ rest))) =
      .ok (.name name rest) := by
  have comma : isSpace 0x2C = false := rfl
  rw [octets_writeText, List.cons_append, List.append_assoc]
  cases first with
  | true =>
    rw [if_pos rfl, List.nil_append, readName, skipSpace_append blank, skipSpace_quote]
    simp only [List.singleton_append, readText_written]
    rfl
  | false =>
    rw [if_neg (by decide), List.singleton_append, readName, skipSpace_cons comma]
    simp only [skipSpace_append blank, skipSpace_quote, List.singleton_append, readText_written]
    rfl

theorem readName_nameOctets (first : Bool) (name : String) (rest : List UInt8) :
    readName first (nameOctets first name ++ rest) = .ok (.name name rest) := by
  have name_ := readName_written (List.forall_mem_nil (isSpace · = true)) first name rest
  rwa [List.nil_append, ← List.append_assoc] at name_

theorem readName_brace (first : Bool) (rest : List UInt8) :
    readName first (0x7D :: rest) = .ok (.none rest) := rfl

theorem readColon_cons (rest : List UInt8) : readColon (0x3A :: rest) = .ok rest := rfl

end Gatehouse.Json
