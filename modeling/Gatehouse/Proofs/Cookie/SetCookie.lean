import Gatehouse.Cookie.SetCookie
import Gatehouse.Proofs.Http.Response
import Gatehouse.Proofs.Text.Cutting
import Gatehouse.Proofs.Text.Percent
import Mathlib.Data.Bool.AllAny

/-!
# Cookies as a browser reads them

Whatever the name and the value of a cookie are, its header may be sent, and the browser
reads the written name, the written value and the attributes back from it.
-/

namespace Gatehouse.Cookie

theorem encode_keepsPlain {cs : List Char} {c : Char}
    (member : c ∈ Percent.encode keepsPlain cs) :
    Ascii.isVisible c = true ∧ c ≠ ';' ∧ c ≠ '=' := by
  rcases Percent.mem_encode member with ⟨-, kept⟩ | rfl | letter
  · rw [keepsPlain, Bool.and_eq_true, Bool.not_eq_true'] at kept
    refine ⟨kept.1, ?_, ?_⟩
    · rintro rfl
      exact absurd kept.2 (by decide)
    · rintro rfl
      exact absurd kept.2 (by decide)
  · decide
  · exact ⟨Ascii.isVisible_of_isAlphanumeric letter, Ascii.ne_of_isAlphanumeric letter (by decide),
      Ascii.ne_of_isAlphanumeric letter (by decide)⟩

/-- A written name or value shows, and does not end the pair. -/
theorem mem_encodePart {s : String} {c : Char} (member : c ∈ (encodePart s).toList) :
    Ascii.isVisible c = true ∧ c ≠ ';' ∧ c ≠ '=' := by
  rw [encodePart, String.toList_ofList] at member
  exact encode_keepsPlain member

theorem decodeText?_encodePart (s : String) :
    Percent.decodeText? (encodePart s).toList = some s.toList := by
  rw [encodePart, String.toList_ofList, Percent.decodeText?_encode (by decide)]

/-- Whether the browser is to drop the cookie. -/
def Lifetime.isOver : Lifetime → Bool
  | .seconds count => count == 0
  | .over => true

/-- The text of a number of seconds: a minus sign at most, and digits. -/
theorem mem_toString {count : Int} {c : Char} (member : c ∈ (toString count).toList) :
    c = '-' ∨ Ascii.isAlphanumeric c = true := by
  cases count with
  | ofNat n => exact .inr (Ascii.isAlphanumeric_of_mem_toString n c member)
  | negSucc n =>
    rw [show toString (Int.negSucc n) = "-" ++ toString (n + 1) from rfl, String.toList_append,
      List.mem_append] at member
    rcases member with sign | digit
    · exact .inl (List.mem_singleton.mp sign)
    · exact .inr (Ascii.isAlphanumeric_of_mem_toString _ c digit)

theorem toString_eq_zero_iff {count : Int} : toString count = "0" ↔ count = 0 := by
  constructor
  · intro zero
    cases count with
    | ofNat n => exact congrArg Int.ofNat (Ascii.eq_zero_of_toString zero)
    | negSucc n =>
      rw [show toString (Int.negSucc n) = "-" ++ toString (n + 1) from rfl] at zero
      have first := congrArg (·.toList.head?) zero
      simp at first
  · rintro rfl
    rfl

/-- The attribute of a number of seconds has nothing to trim and nothing to cut. -/
theorem mem_maxAge {count : Int} {c : Char}
    (member : c ∈ ("Max-Age=" ++ toString count).toList) :
    Ascii.isVisible c = true ∧ c ≠ ';' := by
  rw [String.toList_append, List.mem_append] at member
  rcases member with label | digit
  · have plain : ∀ d ∈ "Max-Age=".toList, Ascii.isVisible d = true ∧ d ≠ ';' :=
      List.all_iff_forall_prop.mp (by decide)
    exact plain c label
  · rcases mem_toString digit with rfl | letter
    · decide
    · exact ⟨Ascii.isVisible_of_isAlphanumeric letter,
        Ascii.ne_of_isAlphanumeric letter (by decide)⟩

theorem SetCookie.mem_attributes {cookie : SetCookie} {s : String}
    (member : s ∈ cookie.attributes) :
    s = "HttpOnly" ∨ s = "SameSite=Lax" ∨ s = "Secure" ∨ s = "Path=" ++ cookie.path ∨
      s ∈ cookie.lifetime.attributes := by
  unfold attributes at member
  simp only [List.mem_append, List.mem_ite_nil_right, List.mem_singleton] at member
  grind

theorem Lifetime.mem_attributes {lifetime : Lifetime} {s : String}
    (member : s ∈ lifetime.attributes) :
    (∃ count, s = "Max-Age=" ++ toString (count : Int)) ∨
      s = "Expires=Thu, 01 Jan 1970 00:00:00 GMT" := by
  match lifetime with
  | .seconds count => exact .inl ⟨count, List.mem_singleton.mp member⟩
  | .over =>
    rcases List.mem_cons.mp member with rfl | member
    · exact .inl ⟨0, rfl⟩
    · exact .inr (List.mem_singleton.mp member)

/-- A semicolon in an attribute can only come from the path. -/
theorem SetCookie.ne_of_mem_attributes {cookie : SetCookie}
    (path : ∀ c ∈ cookie.path.toList, c ≠ ';') {s : String} (member : s ∈ cookie.attributes) :
    ∀ c ∈ s.toList, c ≠ ';' := by
  rcases mem_attributes member with rfl | rfl | rfl | rfl | member
  · exact List.all_iff_forall_prop.mp (by decide)
  · exact List.all_iff_forall_prop.mp (by decide)
  · exact List.all_iff_forall_prop.mp (by decide)
  · have plain : ∀ d ∈ "Path=".toList, d ≠ ';' := List.all_iff_forall_prop.mp (by decide)
    intro c inside
    rw [String.toList_append, List.mem_append] at inside
    exact inside.elim (plain c) (path c)
  · rcases Lifetime.mem_attributes member with ⟨count, rfl⟩ | rfl
    · exact fun c inside => (mem_maxAge inside).2
    · exact List.all_iff_forall_prop.mp (by decide)

/-- The pair at the front of a header. -/
def SetCookie.pairText (cookie : SetCookie) : String :=
  encodePart cookie.name ++ "=" ++ encodePart cookie.value

theorem SetCookie.ne_of_mem_pairText {cookie : SetCookie} {c : Char}
    (member : c ∈ cookie.pairText.toList) : c ≠ ';' := by
  simp only [pairText, String.toList_append, List.mem_append] at member
  rcases member with (name | equals) | value
  · exact (mem_encodePart name).2.1
  · have plain : ∀ d ∈ "=".toList, d ≠ ';' := List.all_iff_forall_prop.mp (by decide)
    exact plain c equals
  · exact (mem_encodePart value).2.1

theorem SetCookie.header_eq (cookie : SetCookie) :
    cookie.header = Text.joinWith (.ofList (';' :: [' '])) (cookie.pairText :: cookie.attributes) :=
  rfl

theorem Reading.ofHeader?_of_pieces {cookie : SetCookie} {more : List (List Char)}
    (pieces : Text.splitBy (· == ';') cookie.header.toList = cookie.pairText.toList :: more) :
    ofHeader? cookie.header =
      some ⟨encodePart cookie.name, encodePart cookie.value,
        more.map fun piece => .ofList (Text.trimBy Text.isBlank piece)⟩ := by
  have cut : Text.cutAt? (· == '=') cookie.pairText.toList =
      some ((encodePart cookie.name).toList, (encodePart cookie.value).toList) := by
    rw [SetCookie.pairText, String.toList_append, String.toList_append, List.append_assoc]
    exact Text.cutAt?_append_cons _ (fun c member => by simpa using (mem_encodePart member).2.2) rfl
  rw [ofHeader?]
  simp only [pieces, cut, Option.bind_eq_bind, Option.bind_some, String.ofList_toList]

/-- A browser cuts the header into what it was put together from. -/
theorem Reading.ofHeader?_header (cookie : SetCookie)
    (path : ∀ c ∈ cookie.path.toList, c ≠ ';') :
    ofHeader? cookie.header =
      some ⟨encodePart cookie.name, encodePart cookie.value, cookie.attributes.map Text.trim⟩ := by
  have plain : ∀ s ∈ cookie.pairText :: cookie.attributes, ∀ c ∈ s.toList, (c == ';') = false := by
    intro s member c inside
    rw [beq_eq_false_iff_ne]
    rcases List.mem_cons.mp member with rfl | member
    · exact SetCookie.ne_of_mem_pairText inside
    · exact SetCookie.ne_of_mem_attributes path member c inside
  have pieces := Text.splitBy_joinWith (p := (· == ';')) (d := ';') [' '] rfl
    (List.forall_mem_singleton.mpr rfl) _ _ plain
  have trimmed (s : String) :
      String.ofList (Text.trimBy Text.isBlank ([' '] ++ s.toList)) = Text.trim s := by
    rw [List.singleton_append, Text.trimBy_cons_of_pos _ (by decide), Text.trim]
  rw [← SetCookie.header_eq] at pieces
  rw [ofHeader?_of_pieces pieces, List.map_map]
  simp only [Function.comp_def, trimmed]

/-- The name and the value are read as they are written, whatever the path is. -/
theorem Reading.exists_ofHeader?_header (cookie : SetCookie) :
    ∃ attributes, ofHeader? cookie.header =
      some ⟨encodePart cookie.name, encodePart cookie.value, attributes⟩ := by
  have first : ∃ more, Text.splitBy (· == ';') cookie.header.toList =
      cookie.pairText.toList :: more := by
    have plain : ∀ c ∈ cookie.pairText.toList, (c == ';') = false :=
      fun c member => beq_eq_false_iff_ne.mpr (SetCookie.ne_of_mem_pairText member)
    rw [SetCookie.header_eq]
    cases cookie.attributes with
    | nil => exact ⟨[], Text.splitBy_of_all plain⟩
    | cons s rest =>
      rw [Text.joinWith, String.toList_append, String.toList_append, String.toList_ofList,
        List.append_assoc, List.cons_append]
      exact ⟨_, Text.splitBy_append_cons _ plain rfl⟩
  obtain ⟨more, pieces⟩ := first
  exact ⟨_, ofHeader?_of_pieces pieces⟩

theorem trim_eq_self {s : String} (visible : ∀ c ∈ s.toList, Ascii.isVisible c = true) :
    Text.trim s = s := by
  rw [Text.trim, Text.trimBy_of_all fun c member => Ascii.isBlank_of_isVisible (visible c member),
    String.ofList_toList]

/-- A path is never taken for a lifetime. -/
theorem trim_path_ne (path : String) : Text.trim ("Path=" ++ path) ≠ "Max-Age=0" := by
  intro same
  have first := congrArg (·.toList.head?) same
  rw [Text.trim, String.toList_append, String.toList_ofList] at first
  rw [show "Path=".toList = 'P' :: "ath=".toList from rfl, List.cons_append,
    Text.trimBy_cons _ (by decide)] at first
  cases first

theorem Lifetime.contains_attributes (lifetime : Lifetime) :
    (lifetime.attributes.map Text.trim).contains "Max-Age=0" = lifetime.isOver := by
  match lifetime with
  | .seconds count =>
    have whole : Text.trim ("Max-Age=" ++ toString count) = "Max-Age=" ++ toString count :=
      trim_eq_self fun c member => (mem_maxAge member).1
    have zero : ("Max-Age=0" = "Max-Age=" ++ toString count) ↔ count = 0 := by
      rw [show "Max-Age=0" = "Max-Age=" ++ "0" from rfl, String.append_right_inj, eq_comm,
        toString_eq_zero_iff]
    rw [attributes, List.map_singleton, whole, isOver, Bool.eq_iff_iff]
    simpa using zero
  | .over => rfl

theorem SetCookie.contains_attributes (cookie : SetCookie) :
    (cookie.attributes.map Text.trim).contains "Max-Age=0" = cookie.lifetime.isOver := by
  rw [← Lifetime.contains_attributes, Bool.eq_iff_iff, List.contains_iff_mem,
    List.contains_iff_mem]
  constructor
  · intro member
    obtain ⟨s, inside, same⟩ := List.mem_map.mp member
    rcases mem_attributes inside with rfl | rfl | rfl | rfl | lifetime
    · exact absurd same (by decide)
    · exact absurd same (by decide)
    · exact absurd same (by decide)
    · exact absurd same (trim_path_ne cookie.path)
    · exact List.mem_map.mpr ⟨s, lifetime, same⟩
  · intro member
    obtain ⟨s, inside, same⟩ := List.mem_map.mp member
    exact List.mem_map.mpr ⟨s, List.mem_append_right _ inside, same⟩

/-- The header of a cookie may be sent when its path may. -/
theorem SetCookie.isFieldValue_header {cookie : SetCookie}
    (path : Http.isFieldValue cookie.path = true) : Http.isFieldValue cookie.header = true := by
  have part (s : String) : Http.isFieldValue (encodePart s) = true :=
    Http.isFieldValue_of_visible fun c member => (mem_encodePart member).1
  refine Http.isFieldValue_joinWith (by decide) fun s member => ?_
  rcases List.mem_cons.mp member with rfl | member
  · rw [Http.isFieldValue_append, Http.isFieldValue_append, part, part]
    rfl
  · rcases mem_attributes member with rfl | rfl | rfl | rfl | member
    · decide
    · decide
    · decide
    · rw [Http.isFieldValue_append, path]
      rfl
    · rcases Lifetime.mem_attributes member with ⟨count, rfl⟩ | rfl
      · exact Http.isFieldValue_of_visible fun c inside => (mem_maxAge inside).1
      · decide

/-- Every cookie whose path may be sent has a header. -/
theorem headers_eq_map {cookies : List SetCookie}
    (fields : ∀ cookie ∈ cookies, Http.isFieldValue cookie.path = true) :
    headers cookies = cookies.map (·.header) := by
  apply List.filter_eq_self.mpr
  intro header member
  obtain ⟨cookie, inside, rfl⟩ := List.mem_map.mp member
  exact SetCookie.isFieldValue_header (fields cookie inside)

end Gatehouse.Cookie
