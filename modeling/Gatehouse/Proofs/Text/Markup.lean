import Gatehouse.Proofs.Text.Cutting
import Gatehouse.Text.Ascii

/-!
# Tags of a page

A page as a browser cuts it: tags with their attributes, of which a value is between double
quotes, and the text behind each tag.  What is written tag by tag is cut into the same tags,
as long as no value has a quote and no text begins another tag.
-/

namespace Gatehouse.Html

/-- An attribute of a tag; its value may be left out. -/
structure Attribute where
  name : String
  value : Option String
deriving DecidableEq, Repr

/-- A tag, its attributes, and the text behind it up to the next tag.  The name of a closing tag
    has a slash in front. -/
structure Tag where
  name : String
  attributes : List Attribute
  text : String
deriving DecidableEq, Repr

/-- Whether a character may stand in the name of a tag or of an attribute. -/
def isNameChar (c : Char) : Bool :=
  Ascii.isAlphanumeric c || c == '/' || c == '!'

/-- The value of an attribute behind its name, and what follows. -/
def readValue : List Char → Option (Option String × List Char)
  | '=' :: '"' :: rest =>
    (Text.cutAt? (· == '"') rest).map fun (value, rest) => (some (.ofList value), rest)
  | rest => some (none, rest)

/-- The attributes of a tag behind its name, up to and with the end of the tag, and what follows.
    `limit` bounds their number. -/
def readAttributes : (limit : Nat) → List Char → Option (List Attribute × List Char)
  | _, '>' :: rest => some ([], rest)
  | limit + 1, ' ' :: rest =>
    let name := rest.takeWhile isNameChar
    if name.isEmpty then none
    else do
      let (value, rest) ← readValue (rest.dropWhile isNameChar)
      let (more, rest) ← readAttributes limit rest
      some (⟨.ofList name, value⟩ :: more, rest)
  | _, _ => none

/-- The tags of a text that begins with one.  `limit` bounds their number. -/
def readTags : (limit : Nat) → List Char → Option (List Tag)
  | _, [] => some []
  | limit + 1, '<' :: rest =>
    let name := rest.takeWhile isNameChar
    if name.isEmpty then none
    else do
      let (attributes, rest) ← readAttributes rest.length (rest.dropWhile isNameChar)
      let more ← readTags limit (rest.dropWhile (· != '<'))
      some (⟨.ofList name, attributes, .ofList (rest.takeWhile (· != '<'))⟩ :: more)
  | _, _ => none

/-- The tags of a page, unless it has something else than tags and texts in it. -/
def tags? (page : String) : Option (List Tag) :=
  readTags page.toList.length page.toList

/-- The value of an attribute as it is written behind the name. -/
def valueChars : Option String → List Char
  | some value => '=' :: '"' :: (value.toList ++ ['"'])
  | none => []

/-- An attribute as it is written. -/
def Attribute.chars (given : Attribute) : List Char :=
  ' ' :: (given.name.toList ++ valueChars given.value)

/-- A tag as it is written, with the text behind it. -/
def Tag.chars (tag : Tag) : List Char :=
  '<' :: (tag.name.toList ++ (tag.attributes.flatMap Attribute.chars ++ '>' :: tag.text.toList))

/-- A name that can be read. -/
structure IsName (name : String) : Prop where
  filled : name.toList ≠ []
  letters : ∀ c ∈ name.toList, isNameChar c = true

/-- An attribute that ends where it is meant to end. -/
structure Attribute.IsClosed (given : Attribute) : Prop where
  name : IsName given.name
  value : ∀ value ∈ given.value, '"' ∉ value.toList

/-- A tag that ends where it is meant to end, and so does the text behind it. -/
structure Tag.IsClosed (tag : Tag) : Prop where
  name : IsName tag.name
  attributes : ∀ given ∈ tag.attributes, given.IsClosed
  text : '<' ∉ tag.text.toList

instance (name : String) : Decidable (IsName name) :=
  decidable_of_iff (name.toList ≠ [] ∧ name.toList.all isNameChar = true)
    ⟨fun ⟨filled, letters⟩ => ⟨filled, List.all_eq_true.mp letters⟩,
      fun ⟨filled, letters⟩ => ⟨filled, List.all_eq_true.mpr letters⟩⟩

instance (given : Attribute) : Decidable given.IsClosed :=
  decidable_of_iff (IsName given.name ∧ ∀ value ∈ given.value, '"' ∉ value.toList)
    ⟨fun ⟨name, value⟩ => ⟨name, value⟩, fun ⟨name, value⟩ => ⟨name, value⟩⟩

instance (tag : Tag) : Decidable tag.IsClosed :=
  decidable_of_iff
    (IsName tag.name ∧ (∀ given ∈ tag.attributes, given.IsClosed) ∧ '<' ∉ tag.text.toList)
    ⟨fun ⟨name, attributes, text⟩ => ⟨name, attributes, text⟩,
      fun ⟨name, attributes, text⟩ => ⟨name, attributes, text⟩⟩

/-- What can follow a name in a tag. -/
def EndsName (rest : List Char) : Prop :=
  ∃ d more, rest = d :: more ∧ isNameChar d = false ∧ d ≠ '='

theorem endsName_attributes (attributes : List Attribute) (rest : List Char) :
    EndsName (attributes.flatMap Attribute.chars ++ '>' :: rest) := by
  cases attributes with
  | nil => exact ⟨_, _, rfl, by decide, by decide⟩
  | cons given attributes => exact ⟨_, _, rfl, by decide, by decide⟩

/-- A name ends in front of what cannot stand in it, be it a value or something else. -/
theorem IsName.cut {name : String} (named : IsName name) {value : Option String}
    {rest : List Char} (ends : EndsName rest) :
    (name.toList ++ (valueChars value ++ rest)).takeWhile isNameChar = name.toList ∧
      (name.toList ++ (valueChars value ++ rest)).dropWhile isNameChar =
        valueChars value ++ rest := by
  have behind : ∃ d more, valueChars value ++ rest = d :: more ∧ ¬isNameChar d = true := by
    obtain ⟨d, more, rfl, stops, -⟩ := ends
    cases value with
    | none => exact ⟨d, more, rfl, by simp [stops]⟩
    | some value => exact ⟨_, _, rfl, by decide⟩
  obtain ⟨d, more, same, stops⟩ := behind
  rw [same, List.takeWhile_append_of_pos named.letters,
    List.dropWhile_append_of_pos named.letters, List.takeWhile_cons_of_neg stops,
    List.dropWhile_cons_of_neg stops, List.append_nil]
  exact ⟨rfl, rfl⟩

theorem readValue_written {value : Option String} (closed : ∀ s ∈ value, '"' ∉ s.toList)
    {rest : List Char} (ends : EndsName rest) :
    readValue (valueChars value ++ rest) = some (value, rest) := by
  cases value with
  | none =>
    obtain ⟨d, more, rfl, -, other⟩ := ends
    rw [valueChars, List.nil_append, readValue]
    intro _ same
    exact absurd (List.cons.inj same).1 other
  | some s =>
    have plain : ∀ c ∈ s.toList, (c == '"') = false := by
      intro c member
      rw [beq_eq_false_iff_ne]
      rintro rfl
      exact closed s rfl member
    rw [valueChars, List.cons_append, List.cons_append, List.append_assoc, readValue,
      List.singleton_append, Text.cutAt?_append_cons rest plain rfl]
    simp

theorem readAttributes_written {attributes : List Attribute}
    (closed : ∀ given ∈ attributes, given.IsClosed) (extra : Nat) (rest : List Char) :
    readAttributes (extra + attributes.length)
        (attributes.flatMap Attribute.chars ++ '>' :: rest) = some (attributes, rest) := by
  induction attributes with
  | nil => cases extra <;> rfl
  | cons given attributes ih =>
    obtain ⟨named, value⟩ := closed given List.mem_cons_self
    have tail := ih fun other member => closed other (List.mem_cons_of_mem _ member)
    have ends := endsName_attributes attributes rest
    have filled : given.name.toList.isEmpty = false := by simpa using named.filled
    rw [List.flatMap_cons, Attribute.chars, List.length_cons, ← Nat.add_assoc, List.cons_append,
      List.cons_append, List.append_assoc, List.append_assoc, readAttributes]
    simp only [(named.cut ends).1, (named.cut ends).2, filled, readValue_written value ends, tail,
      Bool.false_eq_true, if_false, Option.bind_eq_bind, Option.bind_some, String.ofList_toList]

theorem length_le_attributes (attributes : List Attribute) :
    attributes.length ≤ (attributes.flatMap Attribute.chars).length := by
  induction attributes with
  | nil => exact Nat.le_refl 0
  | cons given attributes ih =>
    rw [List.flatMap_cons, List.length_append, List.length_cons, Attribute.chars, List.length_cons]
    omega

/-- What is written behind tags begins with a tag or is empty. -/
theorem cut_text {tag : Tag} (closed : tag.IsClosed) (tags : List Tag) :
    (tag.text.toList ++ tags.flatMap Tag.chars).takeWhile (· != '<') = tag.text.toList ∧
      (tag.text.toList ++ tags.flatMap Tag.chars).dropWhile (· != '<') =
        tags.flatMap Tag.chars := by
  have plain : ∀ c ∈ tag.text.toList, (c != '<') = true := by
    intro c member
    rw [bne_iff_ne]
    rintro rfl
    exact closed.text member
  rw [List.takeWhile_append_of_pos plain, List.dropWhile_append_of_pos plain]
  cases tags with
  | nil => exact ⟨List.append_nil _, rfl⟩
  | cons next tags => exact ⟨List.append_nil _, rfl⟩

theorem readTags_written {tags : List Tag} (closed : ∀ tag ∈ tags, tag.IsClosed) (extra : Nat) :
    readTags (extra + tags.length) (tags.flatMap Tag.chars) = some tags := by
  induction tags with
  | nil => cases extra <;> rfl
  | cons tag tags ih =>
    have shut := closed tag List.mem_cons_self
    have tail := ih fun other member => closed other (List.mem_cons_of_mem _ member)
    have filled : tag.name.toList.isEmpty = false := by simpa using shut.name.filled
    have ends := endsName_attributes tag.attributes (tag.text.toList ++ tags.flatMap Tag.chars)
    have name := @IsName.cut _ shut.name none _ ends
    rw [valueChars, List.nil_append] at name
    rw [List.flatMap_cons, Tag.chars, List.length_cons, ← Nat.add_assoc, List.cons_append,
      List.append_assoc, List.append_assoc, List.cons_append, readTags]
    generalize whole : (tag.name.toList ++ (tag.attributes.flatMap Attribute.chars ++
      '>' :: (tag.text.toList ++ tags.flatMap Tag.chars))).length = length
    have enough : ∃ more, length = more + tag.attributes.length := by
      refine Nat.exists_eq_add_of_le' ?_
      have count := length_le_attributes tag.attributes
      rw [← whole, List.length_append, List.length_append]
      omega
    obtain ⟨more, rfl⟩ := enough
    simp only [name.1, name.2, filled, readAttributes_written shut.attributes,
      (cut_text shut tags).1, (cut_text shut tags).2, tail, Bool.false_eq_true, if_false,
      Option.bind_eq_bind, Option.bind_some, String.ofList_toList]

theorem length_le_tags (tags : List Tag) : tags.length ≤ (tags.flatMap Tag.chars).length := by
  induction tags with
  | nil => exact Nat.le_refl 0
  | cons tag tags ih =>
    rw [List.flatMap_cons, List.length_append, List.length_cons, Tag.chars, List.length_cons]
    omega

/-- A page that is written tag by tag is cut into these tags. -/
theorem tags?_written {tags : List Tag} (closed : ∀ tag ∈ tags, tag.IsClosed) :
    tags? (.ofList (tags.flatMap Tag.chars)) = some tags := by
  obtain ⟨extra, enough⟩ := Nat.exists_eq_add_of_le' (length_le_tags tags)
  rw [tags?, String.toList_ofList, enough, readTags_written closed]

/-- A quote ends a value, wherever it comes from. -/
example : tags? "<a href=\"b\" c=\"d\">e</a>" =
    some [⟨"a", [⟨"href", some "b"⟩, ⟨"c", some "d"⟩], "e"⟩, ⟨"/a", [], ""⟩] := by
  decide +kernel

end Gatehouse.Html
