import Gatehouse.Proofs.Cookie.Browser

/-!
# How pairs are read

The headers of a request are cut into pieces, and in some of them stands a pair.  A piece
that is put behind a header adds at most a pair of its own as long as it is plain ASCII;
one that is not makes the whole header go unread.
-/

namespace Gatehouse.Cookie

/-- The pieces of the headers that are read at all, in order. -/
def pieces (headers : List String) : List (List Char) :=
  (headers.filter (·.toList.all isHeaderText)).flatMap fun header =>
    Text.splitBy (· == ';') header.toList

/-- A pair stands in a piece: around the first equals sign are a name, which is not empty, and a
    value, both with white space at their ends and with their escapes read. -/
def Pair.StandsIn (pair : Pair) (piece : List Char) : Prop :=
  ∃ name value, piece = name ++ '=' :: value ∧ '=' ∉ name ∧ Text.trimBy Text.isBlank name ≠ [] ∧
    Percent.decodeText? (Text.trimBy Text.isBlank name) = some pair.name.toList ∧
    Percent.decodeText? (Text.trimBy Text.isBlank value) = some pair.value.toList

/-- The pairs that stand in pieces, in order.  A piece without a pair is passed over. -/
inductive ReadFrom : List Pair → List (List Char) → Prop where
  | done : ReadFrom [] []
  | pair {pair : Pair} {piece : List Char} {pairs : List Pair} {pieces : List (List Char)}
      (stands : pair.StandsIn piece) (rest : ReadFrom pairs pieces) :
    ReadFrom (pair :: pairs) (piece :: pieces)
  | skip {piece : List Char} {pairs : List Pair} {pieces : List (List Char)}
      (bare : ∀ pair : Pair, ¬pair.StandsIn piece) (rest : ReadFrom pairs pieces) :
    ReadFrom pairs (piece :: pieces)

theorem Pair.ofPiece?_eq_some_iff {pair : Pair} {piece : List Char} :
    ofPiece? piece = some pair ↔ pair.StandsIn piece := by
  constructor
  · intro read
    rw [ofPiece?, Option.bind_eq_bind, Option.bind_eq_some_iff] at read
    obtain ⟨⟨name, value⟩, cut, read⟩ := read
    obtain ⟨d, rfl, equals, before⟩ := Text.cutAt?_eq_some_iff.mp cut
    have d_eq : d = '=' := by simpa using equals
    subst d
    dsimp only at read
    split at read
    · cases read
    · rename_i named
      simp only [Option.bind_eq_bind, Option.bind_eq_some_iff, Option.some.injEq] at read
      obtain ⟨decodedName, readName, decodedValue, readValue, rfl⟩ := read
      refine ⟨name, value, rfl, ?_, by simpa using named, ?_, ?_⟩
      · intro member
        simpa using before '=' member
      · simpa using readName
      · simpa using readValue
  · rintro ⟨name, value, rfl, first, named, readName, readValue⟩
    have cut : Text.cutAt? (· == '=') (name ++ '=' :: value) = some (name, value) := by
      apply Text.cutAt?_append_cons
      · intro c member
        simp only [beq_eq_false_iff_ne]
        rintro rfl
        exact first member
      · rfl
    simp [ofPiece?, cut, named, readName, readValue]

theorem readFrom_iff {pairs : List Pair} {pieces : List (List Char)} :
    ReadFrom pairs pieces ↔ pairs = pieces.filterMap Pair.ofPiece? := by
  constructor
  · intro read
    induction read with
    | done => rfl
    | pair stands _ ih => rw [List.filterMap_cons, Pair.ofPiece?_eq_some_iff.mpr stands, ← ih]
    | skip bare _ ih =>
      have none : Pair.ofPiece? _ = none := Option.eq_none_iff_forall_ne_some.mpr fun pair found =>
        bare pair (Pair.ofPiece?_eq_some_iff.mp found)
      rw [List.filterMap_cons, none, ← ih]
  · rintro rfl
    induction pieces with
    | nil => exact .done
    | cons piece pieces ih =>
      rw [List.filterMap_cons]
      cases found : Pair.ofPiece? piece with
      | none =>
        refine .skip ?_ ih
        intro pair stands
        rw [Pair.ofPiece?_eq_some_iff.mpr stands] at found
        cases found
      | some pair => exact .pair (Pair.ofPiece?_eq_some_iff.mp found) ih

theorem pairs_append (front back : List String) : pairs (front ++ back) =
      pairs front ++ pairs back :=
  List.flatMap_append ..

theorem pairs_cons (header : String) (headers : List String) :
    pairs (header :: headers) = pairsOfHeader header ++ pairs headers :=
  List.flatMap_cons ..

/-- The pairs of a request are those that stand in the pieces of its headers. -/
theorem readFrom_pairs (headers : List String) : ReadFrom (pairs headers) (pieces headers) := by
  rw [readFrom_iff]
  induction headers with
  | nil => rfl
  | cons header headers ih =>
    rw [pairs_cons, ih, pairsOfHeader]
    by_cases text : header.toList.all isHeaderText = true
    · simp only [pieces, List.filter_cons, text, if_true, List.flatMap_cons,
        List.filterMap_append]
    · simp only [pieces, List.filter_cons, if_neg text, List.nil_append]

/-- What a held name is read as. -/
def readName? (name : String) : Option String :=
  (Percent.decodeText? (Text.trimBy Text.isBlank name.toList)).map .ofList

theorem IsSingle.readName?_of_ofPiece? {entry : String × String} (single : IsSingle entry)
    {pair : Pair} (read : Pair.ofPiece? (entryText entry).toList = some pair) :
    readName? entry.1 = some pair.name := by
  rw [Pair.ofPiece?, single.cutAt?_entryText, Option.bind_eq_bind, Option.bind_some] at read
  dsimp only at read
  split at read
  · cases read
  · simp only [Option.bind_eq_bind, Option.bind_eq_some_iff, Option.some.injEq] at read
    obtain ⟨name, readName, value, -, rfl⟩ := read
    rw [readName?, readName, Option.map_some]

/-- Every pair of a request of a browser comes from one that is held. -/
theorem Browser.exists_of_mem_pairs {browser : Browser}
    (single : ∀ entry ∈ browser.held, IsSingle entry) {pair : Pair}
    (member : pair ∈ pairs browser.cookieHeaders) :
    ∃ entry ∈ browser.held, readName? entry.1 = some pair.name := by
  by_cases text : ∀ header ∈ browser.cookieHeaders, header.toList.all isHeaderText = true
  · rw [pairs_cookieHeaders_of_text single text] at member
    obtain ⟨entry, held, read⟩ := List.mem_filterMap.mp member
    exact ⟨entry, held, (single entry held).readName?_of_ofPiece? read⟩
  · -- There is one header at most, and it is not read.
    exfalso
    obtain ⟨held⟩ := browser
    cases held with
    | nil => exact text fun _ inside => nomatch inside
    | cons first rest =>
      rw [cookieHeaders_cons] at text member
      rw [List.forall_mem_singleton] at text
      rw [pairs, List.flatMap_singleton, pairsOfHeader, if_neg text] at member
      cases member

section behind

variable {entry : String × String}

/-- A header with a pair put behind it. -/
def behind (header : String) (entry : String × String) : String :=
  header ++ "; " ++ entryText entry

theorem toList_behind (header : String) (entry : String × String) :
    (behind header entry).toList = header.toList ++ ';' :: ' ' :: (entryText entry).toList := by
  have gap : "; ".toList = [';', ' '] := rfl
  simp [behind, gap]

/-- A pair that is plain ASCII. -/
def IsText (entry : String × String) : Prop :=
  (entryText entry).toList.all isHeaderText = true

instance (entry : String × String) : Decidable (IsText entry) :=
  inferInstanceAs (Decidable (_ = true))

/-- A pair in plain ASCII adds to what is read of a header. -/
theorem pairsOfHeader_behind_of_isText (single : IsSingle entry) (text : IsText entry)
    (header : String) :
    pairsOfHeader (behind header entry) =
      pairsOfHeader header ++
        if header.toList.all isHeaderText then (Pair.ofPiece? (entryText entry).toList).toList
        else [] := by
  have gap : (';' :: ' ' :: (entryText entry).toList).all isHeaderText = true := by
    rw [List.all_cons, List.all_cons, text]
    rfl
  have last : Text.splitBy (· == ';') (' ' :: (entryText entry).toList) =
      [' ' :: (entryText entry).toList] := by
    apply Text.splitBy_of_all
    intro c member
    rw [beq_eq_false_iff_ne]
    rcases List.mem_cons.mp member with rfl | member
    · decide
    · exact single.ne_of_mem_entryText member
  unfold pairsOfHeader
  rw [toList_behind, List.all_append, gap, Bool.and_true]
  by_cases read : header.toList.all isHeaderText = true
  · rw [if_pos read, if_pos read, if_pos read, Text.splitBy_append_separator _ _ rfl, last,
      List.filterMap_append, List.filterMap_cons, Pair.ofPiece?_space]
    cases Pair.ofPiece? (entryText entry).toList <;> rfl
  · rw [if_neg read, if_neg read, if_neg read]
    rfl

/-- A pair that is not plain ASCII leaves nothing of its header. -/
theorem pairsOfHeader_behind_of_not_isText (other : ¬IsText entry) (header : String) :
    pairsOfHeader (behind header entry) = [] := by
  rw [pairsOfHeader, if_neg]
  rw [toList_behind, List.all_append, List.all_cons, List.all_cons]
  simp only [Bool.and_eq_true, not_and]
  intro _ _ _ text
  exact other text

/-- A pair in plain ASCII that is put behind a header changes nothing for the other names. -/
theorem filter_pairsOfHeader_behind (single : IsSingle entry) (text : IsText entry) {name : String}
    (apart : readName? entry.1 ≠ some name) (header : String) :
    (pairsOfHeader (behind header entry)).filter (·.name == name) =
      (pairsOfHeader header).filter (·.name == name) := by
  have none : ∀ pair : Pair, Pair.ofPiece? (entryText entry).toList = some pair →
      pair.name ≠ name := by
    intro pair read same
    apply apart
    rw [← same]
    exact single.readName?_of_ofPiece? read
  rw [pairsOfHeader_behind_of_isText single text, List.filter_append]
  cases read : Pair.ofPiece? (entryText entry).toList with
  | none => simp
  | some pair => simp [none pair read]

end behind

end Gatehouse.Cookie
