import Gatehouse.Proofs.Url.Below

/-!
# A store in a path

The identifier of a store is written between two names of a path as it is.  A plain one is one
segment there, from which it can be read again.  From any other path that it makes it cannot be
read: a text that is read from a piece of it is shorter than the identifier.
-/

namespace Gatehouse.Authz

open Percent (decodeText? hasEscape)
open Url
open Utf8 (size size_append size_cons size_eq_zero_iff size_filter_cases)

/-- A store identifier that means itself in a path: it has none of the marks that end a segment or
    are dropped, no escapes, and is not of dots. -/
structure IsPlainStore (storeId : String) : Prop where
  marks : ∀ c ∈ storeId.toList, c ∉ ['/', '\\', '?', '#', '\t', '\n', '\r']
  escapes : hasEscape storeId.toList = false
  one : storeId ≠ "."
  two : storeId ≠ ".."

theorem isPlainStore_iff {storeId : String} : IsPlainStore storeId ↔
    storeId.toList.all (fun c => decide (c ∉ ['/', '\\', '?', '#', '\t', '\n', '\r'])) = true ∧
      hasEscape storeId.toList = false ∧ storeId ≠ "." ∧ storeId ≠ ".." := by
  simp only [List.all_eq_true, decide_eq_true_eq]
  exact ⟨fun ⟨marks, escapes, one, two⟩ => ⟨marks, escapes, one, two⟩,
    fun ⟨marks, escapes, one, two⟩ => ⟨marks, escapes, one, two⟩⟩

instance (storeId : String) : Decidable (IsPlainStore storeId) :=
  decidable_of_iff _ isPlainStore_iff.symm

/-- What is asked for behind the address and a slash. -/
def storeTail (storeId : String) : String :=
  "stores/" ++ storeId ++ "/authorization-models"

/-- The name of the models with the slash in front of it. -/
def modelsTail : List Char := "/authorization-models".toList

/-- The identifier without the characters that are dropped when a URL is read. -/
def keptStore (storeId : String) : List Char :=
  storeId.toList.filter fun c => c != '\t' && c != '\n' && c != '\r'

/-- The part of the path behind the name of the stores. -/
def storePath (storeId : String) : List Char :=
  (splitTail (keptStore storeId ++ modelsTail)).1

theorem cleanedBack_storeTail (storeId : String) :
    cleanedBack (storeTail storeId).toList =
      "stores".toList ++ '/' :: (keptStore storeId ++ modelsTail) := by
  have letters : (storeTail storeId).toList =
      ("stores/".toList ++ storeId.toList ++ "/authorization-model".toList) ++ ['s'] := by
    simp [storeTail, String.toList_append]
  have stores : "stores/".toList.filter (fun c => c != '\t' && c != '\n' && c != '\r') =
      "stores".toList ++ ['/'] := by decide
  have models : "/authorization-model".toList.filter
      (fun c => c != '\t' && c != '\n' && c != '\r') ++ ['s'] = modelsTail := by decide
  rw [cleanedBack, letters, Text.dropWhileEnd_concat, if_neg (by decide), List.filter_append,
    List.filter_append, List.filter_append, stores, List.append_assoc _ _ (['s'].filter _),
    show ['s'].filter (fun c => c != '\t' && c != '\n' && c != '\r') = ['s'] from rfl, models]
  simp [keptStore]

theorem segmentsOf_storeTail (storeId : String) :
    segmentsOf true (splitTail (cleanedBack (storeTail storeId).toList)).1 =
      "stores" :: segmentsOf true (storePath storeId) := by
  have bare : (splitTail "stores".toList).2 = [] := by decide
  have stores : (readSegments true "stores".toList).map (encodePart pathSet) = ["stores"] := by
    decide
  rw [cleanedBack_storeTail, splitTail_append_of_nil bare, splitTail_slash, segmentsOf,
    readSegments_append, List.map_append, stores]
  rfl

section Plain

variable {storeId : String} (plain : IsPlainStore storeId)

include plain

theorem IsPlainStore.keptStore_eq : keptStore storeId = storeId.toList := by
  rw [keptStore, List.filter_eq_self]
  intro c member
  have other := plain.marks c member
  simp only [List.mem_cons, not_or] at other
  simp [other]

theorem IsPlainStore.splitTail_eq :
    splitTail (keptStore storeId ++ modelsTail) = (storeId.toList ++ modelsTail, []) := by
  have models : splitTail modelsTail = (modelsTail, []) := by decide
  have bare : (splitTail storeId.toList).2 = [] := by
    rw [splitTail, List.dropWhile_eq_nil_iff]
    intro c member
    have other := plain.marks c member
    simp only [List.mem_cons, not_or] at other
    simp [other]
  rw [plain.keptStore_eq, splitTail_append_of_nil bare, models]

theorem IsPlainStore.segmentsOf_storePath :
    segmentsOf true (storePath storeId) =
      [encodePart pathSet storeId.toList, "authorization-models"] := by
  have models : modelsTail = '/' :: "authorization-models".toList := by decide
  have free : ∀ c ∈ storeId.toList, (c == '/' || (true && c == '\\')) = false := by
    intro c member
    have other := plain.marks c member
    simp only [List.mem_cons, not_or] at other
    simp [other]
  have last : (readSegments true "authorization-models".toList).map (encodePart pathSet) =
      ["authorization-models"] := by decide
  rw [storePath, plain.splitTail_eq, models, segmentsOf, readSegments_append, List.map_append,
    last, readSegments, Text.splitBy_of_all free]
  rfl

theorem IsPlainStore.isDots : isDots (encodePart pathSet storeId.toList) = false := by
  refine isDots_encodePart_eq_false plain.escapes ?_ ?_
  · intro letters
    exact plain.one (String.toList_inj.mp letters)
  · intro letters
    exact plain.two (String.toList_inj.mp letters)

/-- A plain store is a segment behind whatever is in front of it. -/
theorem IsPlainStore.resolve_storeTail (done : List String) :
    resolve false done ("stores" :: segmentsOf true (storePath storeId)) =
      done.reverse ++ ["stores", encodePart pathSet storeId.toList, "authorization-models"] := by
  rw [plain.segmentsOf_storePath]
  refine resolve_of_plain fun x member => ?_
  simp only [List.mem_cons, List.not_mem_nil, or_false] at member
  rcases member with rfl | rfl | rfl
  · decide
  · exact plain.isDots
  · decide

theorem IsPlainStore.decodeText?_segment :
    decodeText? (encodePart pathSet storeId.toList).toList = some storeId.toList := by
  rw [decodeText?_encodePart_pathSet, Percent.decodeText?_of_hasEscape plain.escapes]

end Plain

/-- The number of octets of pieces with a separator of one octet behind each. -/
def sizes : List (List Char) → Nat
  | [] => 0
  | piece :: pieces => size piece + 1 + sizes pieces

theorem sizes_append (pieces more : List (List Char)) :
    sizes (pieces ++ more) = sizes pieces + sizes more := by
  induction pieces with
  | nil => exact (Nat.zero_add _).symm
  | cons piece pieces ih =>
    rw [List.cons_append, sizes, sizes, ih]
    omega

/-- A text is its pieces, with one octet between each two. -/
theorem size_splitBy {p : Char → Bool} (ascii : ∀ c, p c = true → c.toNat < 0x80)
    (cs : List Char) : size cs + 1 = sizes (Text.splitBy p cs) := by
  induction cs with
  | nil => rfl
  | cons c cs ih =>
    obtain ⟨first, rest, pieces⟩ := List.exists_cons_of_ne_nil (Text.splitBy_ne_nil p cs)
    rw [Text.splitBy, size_cons]
    rw [pieces, sizes] at ih
    split
    · rename_i separates
      rw [Utf8.encodeChar_of_ascii (ascii c separates), pieces, sizes, sizes, List.length_singleton,
        size_eq_zero_iff.mpr rfl]
      omega
    · rw [pieces, Text.consFirst, sizes, size_cons]
      omega

theorem size_le_sizes {pieces : List (List Char)} {piece : List Char} (member : piece ∈ pieces) :
    size piece + 1 ≤ sizes pieces := by
  obtain ⟨front, back, rfl⟩ := List.append_of_mem member
  rw [sizes_append, sizes]
  omega

/-- A part that is written without escapes is written as it is. -/
theorem eq_of_encodePart {also : String} {cs : List Char}
    (plain : '%' ∉ (encodePart also cs).toList) : (encodePart also cs).toList = cs := by
  rw [encodePart, String.toList_ofList] at plain ⊢
  induction cs with
  | nil => rfl
  | cons c cs ih =>
    rw [Percent.encode, List.flatMap_cons, ← Percent.encode] at plain ⊢
    split at plain
    · rename_i kept
      rw [if_pos kept, ih fun member => plain (List.mem_append_right _ member)]
      rfl
    · obtain ⟨lead, more, octets, -⟩ := Utf8.front_encodeChar c []
      rw [Percent.escapeChar, octets, List.flatMap_cons] at plain
      exact absurd (List.mem_append_left _ (List.mem_append_left _ List.mem_cons_self)) plain

section Read

variable {storeId : String} {front : List (List Char)} {last piece : List Char}

/-- The path has room for a piece in front of the name of the models, and for no more than the store
    and this name. -/
theorem size_piece_le (pieces : readSegments true (storePath storeId) = front ++ [last])
    (models : encodePart pathSet last = "authorization-models") (member : piece ∈ front) :
    size piece + size modelsTail ≤ size (storePath storeId) := by
  have named : (encodePart pathSet last).toList = last :=
    eq_of_encodePart (by rw [models]; decide)
  have nameSize : size modelsTail = size "authorization-models".toList + 1 := by decide
  have ascii : ∀ c, (c == '/' || (true && c == '\\')) = true → c.toNat < 0x80 := by
    intro c separates
    rw [Bool.true_and, Bool.or_eq_true, beq_iff_eq, beq_iff_eq] at separates
    rcases separates with rfl | rfl <;> decide
  have whole := size_splitBy ascii (storePath storeId)
  rw [← readSegments, pieces, sizes_append, sizes, sizes, ← named, models] at whole
  have least := size_le_sizes member
  omega

/-- A store that is a piece of its path is plain if nothing of it has been dropped. -/
theorem isPlainStore_of_whole (kept : keptStore storeId = storeId.toList)
    (whole : storePath storeId = storeId.toList ++ modelsTail)
    (inside : storeId.toList ∈ readSegments true (storePath storeId))
    (escapes : hasEscape storeId.toList = false)
    (other : isDots (encodePart pathSet storeId.toList) = false) : IsPlainStore storeId := by
  refine ⟨fun c member => ?_, escapes, ?_, ?_⟩
  · have single := Text.eq_false_of_mem_splitBy inside member
    have taken := List.all_eq_true.mp List.all_takeWhile c
      (whole ▸ List.mem_append_left modelsTail member : c ∈ storePath storeId)
    have stays := List.filter_eq_self.mp kept c member
    simp_all
  · rintro rfl
    exact absurd other (by decide)
  · rintro rfl
    exact absurd other (by decide)

/-- A store that is read from one of the pieces of its path is plain: reading and dropping only
    make a text shorter, and the path has no room for more than the store. -/
theorem isPlainStore_of_piece
    (pieces : readSegments true (storePath storeId) = front ++ [last])
    (models : encodePart pathSet last = "authorization-models") (member : piece ∈ front)
    (read : decodeText? piece = some storeId.toList)
    (other : isDots (encodePart pathSet piece) = false) : IsPlainStore storeId := by
  have room := size_piece_le pieces models member
  obtain ⟨gone, parts⟩ : ∃ gone, keptStore storeId ++ modelsTail = storePath storeId ++ gone :=
    ⟨_, (List.takeWhile_append_dropWhile).symm⟩
  have path := congrArg size parts
  rw [size_append, size_append] at path
  have dropped := size_filter_cases (fun c => c != '\t' && c != '\n' && c != '\r') storeId.toList
  rw [← keptStore] at dropped
  -- No step may lose an octet, as the piece would be shorter than the store then.
  have kept : keptStore storeId = storeId.toList := by
    refine dropped.resolve_right fun shorter => ?_
    rcases Percent.decodeText?_cases read with ⟨-, rfl⟩ | longer
    · omega
    · omega
  rw [kept] at path
  obtain ⟨escapes, rfl⟩ : hasEscape piece = false ∧ piece = storeId.toList := by
    refine (Percent.decodeText?_cases read).resolve_right fun longer => ?_
    omega
  have nothing : gone = [] := size_eq_zero_iff.mp (by omega)
  rw [kept, nothing, List.append_nil] at parts
  exact isPlainStore_of_whole kept parts.symm (pieces ▸ List.mem_append_left [last] member) escapes
    other

end Read

/-- The last segments of a path are those of a store that can be read from them only if the store is
    plain, or if older segments have come to their place. -/
theorem isPlainStore_or_suffix {storeId s : String} {done ys : List String}
    (resolved : resolve false done ("stores" :: segmentsOf true (storePath storeId)) =
      ys ++ ["stores", s, "authorization-models"])
    (read : decodeText? s.toList = some storeId.toList) :
    IsPlainStore storeId ∨ s :: "stores" :: ys.reverse <:+ "stores" :: done := by
  obtain ⟨front, last, pieces⟩ : ∃ front last,
      readSegments true (storePath storeId) = front ++ [last] :=
    ⟨_, _, (List.dropLast_append_getLast (readSegments_ne_nil true _)).symm⟩
  have stores : descend false done "stores" = "stores" :: done := descend_of_plain (by decide)
  rw [segmentsOf, pieces, List.map_append, List.map_singleton, ← List.cons_append, resolve_concat,
    List.foldl_cons, stores,
    show ["stores", s, "authorization-models"] = ["stores", s] ++ ["authorization-models"] from rfl,
    ← List.append_assoc] at resolved
  split at resolved
  · have ends := List.append_inj_right' resolved rfl
    exact absurd ends (by decide)
  · have models := List.append_inj_right' resolved rfl
    have behind := List.append_inj_left' resolved rfl
    rw [List.reverse_eq_iff, List.reverse_append] at behind
    obtain ⟨pushed, left, whole, suffix, plain⟩ :=
      exists_foldl_descend ("stores" :: done) (front.map (encodePart pathSet))
    rw [whole] at behind
    cases pushed with
    | nil =>
      obtain rfl : left = s :: "stores" :: ys.reverse := behind
      exact .inr suffix
    | cons first pushed =>
      obtain ⟨rfl, -⟩ := List.cons.inj behind
      obtain ⟨inside, other⟩ := plain first List.mem_cons_self
      obtain ⟨piece, member, rfl⟩ := List.mem_map.mp inside
      rw [decodeText?_encodePart_pathSet] at read
      exact .inl (isPlainStore_of_piece pieces (List.cons.inj models).1 member read other)

end Gatehouse.Authz
