import Gatehouse.Cookie.Browser
import Gatehouse.Cookie.Pair
import Gatehouse.Proofs.Cookie.SetCookie
import Gatehouse.Proofs.Json.Members
import Mathlib.Data.List.Basic

/-!
# What a browser holds and sends back

Holding a value under one name leaves the other names alone.  Pairs without special
characters are sent back as they are, each as one pair of the request.
-/

namespace Gatehouse.Cookie

namespace Browser

theorem find?_cons_name (entry : String × String) (rest : List (String × String))
    (name : String) :
    (entry :: rest).find? (·.1 == name) =
      if entry.1 = name then some entry else rest.find? (·.1 == name) := by
  rw [List.find?_cons]
  by_cases hit : entry.1 = name
  · rw [if_pos hit, beq_iff_eq.mpr hit]
  · rw [if_neg hit, beq_eq_false_iff_ne.mpr hit]

theorem find?_insert (name value other : String) (held : List (String × String)) :
    (insert name value held).find? (·.1 == other) =
      if name = other then some (name, value) else held.find? (·.1 == other) := by
  induction held with
  | nil => rw [insert, find?_cons_name]
  | cons entry rest ih =>
    rw [insert]
    split
    · rename_i replaced
      rw [find?_cons_name, find?_cons_name, ← replaced]
      split <;> rfl
    · rename_i different
      split
      · rw [find?_cons_name]
      · rw [find?_cons_name, find?_cons_name, ih]
        by_cases same : name = other
        · rw [if_pos same, if_pos same, if_neg fun hit => different (same.trans hit.symm)]
        · rw [if_neg same, if_neg same]

theorem get?_eq_none_iff {browser : Browser} {name : String} :
    browser.get? name = none ↔ ∀ entry ∈ browser.held, entry.1 ≠ name := by
  rw [get?, Option.map_eq_none_iff, List.find?_eq_none]
  simp only [beq_iff_eq, ne_eq]

/-- Holding a value changes one name. -/
theorem get?_set (browser : Browser) (name value other : String) :
    (browser.set name value).get? other =
      if name = other then some value else browser.get? other := by
  rw [get?, set, find?_insert]
  split <;> rfl

/-- Letting go of a name changes only this one. -/
theorem get?_drop (browser : Browser) (name other : String) :
    (browser.drop name).get? other = if name = other then none else browser.get? other := by
  unfold get? drop
  rw [List.find?_filter]
  by_cases same : name = other
  · rw [if_pos same, Option.map_eq_none_iff, List.find?_eq_none]
    intro entry _
    simp [same]
  · rw [if_neg same]
    congr 2
    funext entry
    by_cases hit : entry.1 = other
    · simp [hit, Ne.symm same]
    · simp [hit]

/-- A browser holds its cookies as an object holds its members. -/
theorem insert_eq_insertMember (name value : String) (held : List (String × String)) :
    insert name value held = Json.insertMember name value held := by
  induction held with
  | nil => rfl
  | cons first rest ih =>
    rw [insert, Json.insertMember, ih]

theorem mem_insert {name value : String} {held : List (String × String)}
    {entry : String × String} (member : entry ∈ insert name value held) :
    entry = (name, value) ∨ entry ∈ held := by
  rw [insert_eq_insertMember] at member
  exact Json.mem_insertMember member

/-- The names are sorted, and each stands once. -/
def Ordered (browser : Browser) : Prop :=
  browser.held.Pairwise (·.1 < ·.1)

theorem Ordered.empty : Browser.empty.Ordered := List.Pairwise.nil

theorem pairwise_insert (name value : String) {held : List (String × String)}
    (ordered : held.Pairwise (·.1 < ·.1)) :
    (insert name value held).Pairwise (·.1 < ·.1) := by
  rw [insert_eq_insertMember]
  exact Json.pairwise_insertMember name value ordered

theorem Ordered.set {browser : Browser} (ordered : browser.Ordered) (name value : String) :
    (browser.set name value).Ordered :=
  pairwise_insert name value ordered

theorem Ordered.drop {browser : Browser} (ordered : browser.Ordered) (name : String) :
    (browser.drop name).Ordered :=
  List.Pairwise.filter _ ordered

theorem mem_set {browser : Browser} {name value : String} {entry : String × String}
    (member : entry ∈ (browser.set name value).held) :
    entry = (name, value) ∨ entry ∈ browser.held :=
  mem_insert member

theorem mem_drop {browser : Browser} {name : String} {entry : String × String}
    (member : entry ∈ (browser.drop name).held) : entry ∈ browser.held :=
  (List.mem_filter.mp member).1

/-- A browser takes in a cookie as it is written, or lets go of it. -/
theorem absorb_header (browser : Browser) (cookie : SetCookie)
    (path : ∀ c ∈ cookie.path.toList, c ≠ ';') :
    browser.absorb cookie.header =
      if cookie.lifetime.isOver then browser.drop (encodePart cookie.name)
      else browser.set (encodePart cookie.name) (encodePart cookie.value) := by
  rw [absorb, Reading.ofHeader?_header cookie path]
  simp only [SetCookie.contains_attributes]

/-- The headers of cookies whose path may be sent are taken in one by one. -/
theorem absorbAll_headers (browser : Browser) (cookies : List SetCookie)
    (fields : ∀ cookie ∈ cookies, Http.isFieldValue cookie.path = true) :
    browser.absorbAll (headers cookies) =
      cookies.foldl (fun held cookie => held.absorb cookie.header) browser := by
  rw [headers_eq_map fields, absorbAll, List.foldl_map]

end Browser

/-- A pair that is sent back as one pair: the name is not empty, both parts show, and neither
    the pair nor its name ends early. -/
structure IsPlain (entry : String × String) : Prop where
  named : entry.1 ≠ ""
  name : ∀ c ∈ entry.1.toList, Ascii.isVisible c = true ∧ c ≠ ';' ∧ c ≠ '='
  value : ∀ c ∈ entry.2.toList, Ascii.isVisible c = true ∧ c ≠ ';'

theorem IsPlain.encodePart (name value : String) (named : Cookie.encodePart name ≠ "") :
    IsPlain (Cookie.encodePart name, Cookie.encodePart value) where
  named := named
  name := fun _ member => mem_encodePart member
  value := fun _ member => ⟨(mem_encodePart member).1, (mem_encodePart member).2.1⟩

/-- The pair of a request that a plain pair is read as, if its escapes are UTF-8. -/
def readBack? (entry : String × String) : Option Pair := do
  let name ← Percent.decodeText? entry.1.toList
  let value ← Percent.decodeText? entry.2.toList
  some ⟨.ofList name, .ofList value⟩

theorem readBack?_encodePart (name value : String) :
    readBack? (encodePart name, encodePart value) = some ⟨name, value⟩ := by
  rw [readBack?, decodeText?_encodePart, decodeText?_encodePart]
  simp

/-- The text of a held pair. -/
def entryText (entry : String × String) : String :=
  entry.1 ++ "=" ++ entry.2

theorem Browser.cookieHeaders_cons (first : String × String) (rest : List (String × String)) :
    (⟨first :: rest⟩ : Browser).cookieHeaders =
      [Text.joinWith "; " (entryText first :: rest.map entryText)] := rfl

/-- A pair that is sent as one piece: neither the pair nor its name ends early. -/
structure IsSingle (entry : String × String) : Prop where
  name : ∀ c ∈ entry.1.toList, c ≠ ';' ∧ c ≠ '='
  value : ∀ c ∈ entry.2.toList, c ≠ ';'

theorem isSingle_iff {entry : String × String} :
    IsSingle entry ↔
      (entry.1.toList.all (fun c => c != ';' && c != '=') &&
        entry.2.toList.all (· != ';')) = true := by
  simp only [Bool.and_eq_true, List.all_eq_true, bne_iff_ne]
  constructor
  · rintro ⟨name, value⟩
    exact ⟨name, value⟩
  · rintro ⟨name, value⟩
    exact ⟨name, value⟩

instance : DecidablePred IsSingle := fun _ => decidable_of_iff _ isSingle_iff.symm

theorem IsPlain.isSingle {entry : String × String} (plain : IsPlain entry) : IsSingle entry where
  name := fun c member => (plain.name c member).2
  value := fun c member => (plain.value c member).2

theorem mem_entryText {entry : String × String} {c : Char}
    (member : c ∈ (entryText entry).toList) :
    c ∈ entry.1.toList ∨ c = '=' ∨ c ∈ entry.2.toList := by
  have equals : "=".toList = ['='] := rfl
  simpa [entryText, equals, or_assoc] using member

theorem IsSingle.ne_of_mem_entryText {entry : String × String} (single : IsSingle entry) {c : Char}
    (member : c ∈ (entryText entry).toList) : c ≠ ';' := by
  rcases mem_entryText member with name | rfl | value
  · exact (single.name c name).1
  · decide
  · exact single.value c value

theorem IsSingle.cutAt?_entryText {entry : String × String} (single : IsSingle entry) :
    Text.cutAt? (· == '=') (entryText entry).toList =
      some (entry.1.toList, entry.2.toList) := by
  rw [entryText, String.toList_append, String.toList_append, List.append_assoc]
  exact Text.cutAt?_append_cons _ (fun c member => by simpa using (single.name c member).2) rfl

theorem IsPlain.isVisible_of_mem_entryText {entry : String × String} (plain : IsPlain entry)
    {c : Char} (member : c ∈ (entryText entry).toList) : Ascii.isVisible c = true := by
  rcases mem_entryText member with name | rfl | value
  · exact (plain.name c name).1
  · decide
  · exact (plain.value c value).1

theorem IsPlain.ofPiece?_entryText {entry : String × String} (plain : IsPlain entry) :
    Pair.ofPiece? (entryText entry).toList = readBack? entry := by
  have name : Text.trimBy Text.isBlank entry.1.toList = entry.1.toList :=
    Text.trimBy_of_all fun c member => Ascii.isBlank_of_isVisible (plain.name c member).1
  have value : Text.trimBy Text.isBlank entry.2.toList = entry.2.toList :=
    Text.trimBy_of_all fun c member => Ascii.isBlank_of_isVisible (plain.value c member).1
  have named : entry.1.toList.isEmpty = false := by
    rw [List.isEmpty_eq_false_iff]
    exact fun empty => plain.named (String.toList_eq_nil_iff.mp empty)
  rw [Pair.ofPiece?, plain.isSingle.cutAt?_entryText]
  simp only [Option.bind_eq_bind, Option.bind_some, name, value, named]
  rfl

/-- White space in front of a piece does not count. -/
theorem Pair.ofPiece?_space (piece : List Char) : ofPiece? (' ' :: piece) = ofPiece? piece := by
  rw [ofPiece?, ofPiece?, Text.cutAt?, if_neg (by decide)]
  cases Text.cutAt? (· == '=') piece with
  | none => rfl
  | some parts =>
    obtain ⟨name, value⟩ := parts
    simp only [Option.map_some, Option.bind_eq_bind, Option.bind_some]
    rw [Text.trimBy_cons_of_pos name (by decide)]

theorem filterMap_pieces (entries : List (String × String)) :
    (entries.map ((fun s => [' '] ++ s.toList) ∘ entryText)).filterMap Pair.ofPiece? =
      entries.filterMap fun entry => Pair.ofPiece? (entryText entry).toList := by
  rw [List.filterMap_map]
  congr 1
  funext entry
  exact Pair.ofPiece?_space _

/-- A browser with single pairs sends every pair as a piece of its own, in the order in which it
    holds them, and the pieces are read if all of them are plain ASCII. -/
theorem pairs_cookieHeaders_of_text {browser : Browser}
    (single : ∀ entry ∈ browser.held, IsSingle entry)
    (text : ∀ header ∈ browser.cookieHeaders, header.toList.all isHeaderText = true) :
    pairs browser.cookieHeaders =
      browser.held.filterMap fun entry => Pair.ofPiece? (entryText entry).toList := by
  obtain ⟨held⟩ := browser
  cases held with
  | nil => rfl
  | cons first rest =>
    have whole : ∀ s ∈ entryText first :: rest.map entryText, ∀ c ∈ s.toList,
        (c == ';') = false := by
      intro s member c inside
      rw [← List.map_cons, List.mem_map] at member
      obtain ⟨entry, member, rfl⟩ := member
      exact beq_eq_false_iff_ne.mpr ((single entry member).ne_of_mem_entryText inside)
    have pieces := Text.splitBy_joinWith (p := (· == ';')) (d := ';') [' '] rfl
      (List.forall_mem_singleton.mpr rfl) (entryText first) (rest.map entryText) whole
    rw [Browser.cookieHeaders_cons] at text ⊢
    rw [pairs, List.flatMap_singleton, pairsOfHeader, if_pos (text _ List.mem_cons_self),
      show "; " = String.ofList (';' :: [' ']) from rfl, pieces, List.filterMap_cons,
      List.filterMap_cons, List.map_map, filterMap_pieces]

/-- A browser with plain pairs sends every pair back, in the order in which it holds them. -/
theorem pairs_cookieHeaders {browser : Browser} (plain : ∀ entry ∈ browser.held, IsPlain entry) :
    pairs browser.cookieHeaders = browser.held.filterMap readBack? := by
  have text : ∀ header ∈ browser.cookieHeaders, header.toList.all isHeaderText = true := by
    obtain ⟨held⟩ := browser
    cases held with
    | nil => exact fun header member => nomatch member
    | cons first rest =>
      rw [Browser.cookieHeaders_cons, List.forall_mem_singleton, List.all_eq_true]
      intro c member
      rcases Text.mem_joinWith member with between | ⟨s, member, inside⟩
      · have fine : ∀ d ∈ "; ".toList, isHeaderText d = true :=
          List.all_iff_forall_prop.mp (by decide)
        exact fine c between
      · rw [← List.map_cons] at member
        obtain ⟨entry, held, rfl⟩ := List.mem_map.mp member
        rw [isHeaderText, (plain entry held).isVisible_of_mem_entryText inside, Bool.or_true]
  rw [pairs_cookieHeaders_of_text (fun entry member => (plain entry member).isSingle) text]
  exact List.filterMap_congr fun entry member => (plain entry member).ofPiece?_entryText

theorem readBack?_name {entry : String × String} {pair : Pair}
    (read : readBack? entry = some pair) :
    Percent.decodeText? entry.1.toList = some pair.name.toList := by
  simp only [readBack?, Option.bind_eq_bind, Option.bind_eq_some_iff, Option.some.injEq] at read
  obtain ⟨name, decoded, value, -, rfl⟩ := read
  rw [decoded, String.toList_ofList]

/-- Of pairs with different names, only the pair that is held under a name is read under it. -/
theorem filter_readBack {name : String} {entries : List (String × String)}
    (distinct : entries.Pairwise (·.1 ≠ ·.1))
    (alone : ∀ entry ∈ entries,
      Percent.decodeText? entry.1.toList = some name.toList → entry.1 = name)
    (same : Percent.decodeText? name.toList = some name.toList) :
    (entries.filterMap readBack?).filter (·.name == name) =
      ((entries.find? (·.1 == name)).bind readBack?).toList := by
  induction entries with
  | nil => rfl
  | cons entry entries ih =>
    have ⟨apart, distinct⟩ := List.pairwise_cons.mp distinct
    have ih := ih distinct fun other member => alone other (List.mem_cons_of_mem _ member)
    rw [Browser.find?_cons_name, List.filterMap_cons]
    by_cases hit : entry.1 = name
    · have absent : entries.find? (·.1 == name) = none := by
        rw [List.find?_eq_none]
        intro other member found
        exact apart other member (hit.trans (beq_iff_eq.mp found).symm)
      rw [absent, Option.bind_none, Option.toList_none] at ih
      rw [if_pos hit, Option.bind_some]
      cases read : readBack? entry with
      | none => simpa using ih
      | some pair =>
        have named : pair.name = name := by
          have decoded := readBack?_name read
          rw [hit, same, Option.some.injEq] at decoded
          exact (String.toList_inj.mp decoded).symm
        simp [named, ih]
    · rw [if_neg hit]
      cases read : readBack? entry with
      | none => exact ih
      | some pair =>
        have other : pair.name ≠ name := by
          rintro rfl
          exact hit (alone entry List.mem_cons_self (readBack?_name read))
        simpa [other] using ih

/-- The request has what is held under a name as its only cookie of that name. -/
theorem Browser.filter_pairs {browser : Browser} {name : String} (ordered : browser.Ordered)
    (plain : ∀ entry ∈ browser.held, IsPlain entry)
    (alone : ∀ entry ∈ browser.held,
      Percent.decodeText? entry.1.toList = some name.toList → entry.1 = name)
    (same : Percent.decodeText? name.toList = some name.toList) :
    (pairs browser.cookieHeaders).filter (·.name == name) =
      ((browser.get? name).bind fun value => readBack? (name, value)).toList := by
  have distinct : browser.held.Pairwise (·.1 ≠ ·.1) :=
    List.Pairwise.imp (fun less => String.ne_of_lt less) ordered
  rw [pairs_cookieHeaders plain, filter_readBack distinct alone same, Browser.get?]
  cases found : browser.held.find? (·.1 == name) with
  | none => rfl
  | some entry =>
    have named : entry.1 = name := by simpa using List.find?_some found
    rw [Option.map_some, Option.bind_some, Option.bind_some, ← named]

end Gatehouse.Cookie
