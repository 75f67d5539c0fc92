import Gatehouse.Proofs.Cookie.SetCookie

/-!
# Attributes as a user agent reads them

The attributes of a header come from its pieces.  Only the path can bring semicolons into a
header, and each of them makes one attribute more.
-/

namespace Gatehouse.Cookie

/-- An attribute as a user agent reads it: a name, and what stands behind an equals sign, both
    without white space around them. -/
structure Attribute where
  name : String
  value : Option String
deriving DecidableEq, Repr

/-- Reads an attribute. -/
def Attribute.ofText (text : String) : Attribute :=
  match Text.cutAt? (· == '=') text.toList with
  | some (name, value) =>
    ⟨.ofList (Text.trimBy Text.isBlank name), some (.ofList (Text.trimBy Text.isBlank value))⟩
  | none => ⟨Text.trim text, none⟩

/-- A path is read without the white space around it. -/
theorem Attribute.ofText_trim_path (path : String) :
    ofText (Text.trim ("Path=" ++ path)) =
      ⟨"Path", some (.ofList (Text.trimBy Text.isBlank
        (Text.dropWhileEnd Text.isBlank path.toList)))⟩ := by
  have label : "Path=".toList = ['P', 'a', 't', 'h', '='] := by decide
  have trimmed : Text.trimBy Text.isBlank ("Path=" ++ path).toList =
      ['P', 'a', 't', 'h'] ++ '=' :: Text.dropWhileEnd Text.isBlank path.toList := by
    rw [String.toList_append, label, List.cons_append, Text.trimBy_cons _ (by decide)]
    simp only [List.cons_append, List.nil_append]
    rw [Text.dropWhileEnd_cons _ (by decide), Text.dropWhileEnd_cons _ (by decide),
      Text.dropWhileEnd_cons _ (by decide), Text.dropWhileEnd_cons _ (by decide)]
  rw [Text.trim, trimmed, ofText, String.toList_ofList,
    Text.cutAt?_append_cons _ (List.all_iff_forall_prop.mp (by decide)) (by decide)]
  rfl

theorem Lifetime.countP_attributes (lifetime : Lifetime) :
    (lifetime.attributes.flatMap String.toList).countP (· == ';') = 0 := by
  rw [List.countP_eq_zero]
  intro c inside
  obtain ⟨s, member, inside⟩ := List.mem_flatMap.mp inside
  rcases mem_attributes member with ⟨count, rfl⟩ | rfl
  · simpa using (mem_maxAge inside).2
  · have plain : ∀ d ∈ "Expires=Thu, 01 Jan 1970 00:00:00 GMT".toList, d ≠ ';' :=
      List.all_iff_forall_prop.mp (by decide)
    simpa using plain c inside

/-- Apart from those between the pieces, the semicolons of a header are those of the path. -/
theorem SetCookie.countP_header (cookie : SetCookie) :
    cookie.header.toList.countP (· == ';') =
      cookie.attributes.length + cookie.path.toList.countP (· == ';') := by
  have pair : cookie.pairText.toList.countP (· == ';') = 0 := by
    rw [List.countP_eq_zero]
    intro c inside
    simpa using ne_of_mem_pairText inside
  have separator : (String.ofList (';' :: [' '])).toList.countP (· == ';') = 1 := by decide
  have labels : "HttpOnly".toList.countP (· == ';') = 0 ∧
      "SameSite=Lax".toList.countP (· == ';') = 0 ∧ "Secure".toList.countP (· == ';') = 0 ∧
      "Path=".toList.countP (· == ';') = 0 := by
    decide
  have inside : (cookie.attributes.flatMap String.toList).countP (· == ';') =
      cookie.path.toList.countP (· == ';') := by
    rw [attributes]
    simp only [List.flatMap_append, List.countP_append, Lifetime.countP_attributes,
      List.flatMap_singleton, String.toList_append, labels]
    split <;> split <;> simp
  rw [header_eq, Text.countP_joinWith, pair, separator, inside, Nat.zero_add, Nat.mul_one]

/-- A user agent reads one more attribute for each semicolon in the path. -/
theorem Reading.length_attributes {cookie : SetCookie} {reading : Reading}
    (read : ofHeader? cookie.header = some reading) :
    reading.attributes.length =
      cookie.attributes.length + cookie.path.toList.countP (· == ';') := by
  rw [← cookie.countP_header]
  have pieces := Text.length_splitBy (· == ';') cookie.header.toList
  rw [ofHeader?] at read
  split at read
  · cases read
  · rename_i first more split
    rw [split, List.length_cons] at pieces
    obtain ⟨⟨name, value⟩, -, same⟩ := Option.bind_eq_some_iff.mp read
    cases same
    rw [List.length_map]
    omega

end Gatehouse.Cookie
