import Gatehouse.Proofs.Http.Response
import Gatehouse.Proofs.Text.Percent
import Gatehouse.Proofs.Url.Domain
import Gatehouse.Proofs.Url.Form
import Gatehouse.Url.Parser

/-!
# URLs may stand in headers

Every part of a URL that was read is written without control characters, whatever the text
was that it was read from, and so is the query that a login adds to it.  Neither the parts in
front of the query nor the query itself have the marks that end them.
-/

namespace Gatehouse.Url

open Http (isFieldValue)

/-- Whether a character may stand in front of a query: neither a control character nor one of the
    marks in front of a query and a fragment. -/
def isFrontChar (c : Char) : Bool :=
  !Ascii.isControl c && c != '?' && c != '#'

/-- Whether a text may stand in front of a query. -/
def isFront (s : String) : Bool :=
  s.toList.all isFrontChar

theorem isFrontChar_iff {c : Char} :
    isFrontChar c = true ↔ Ascii.isControl c = false ∧ c ≠ '?' ∧ c ≠ '#' := by
  simp [isFrontChar, and_assoc]

theorem isFront_iff {s : String} : isFront s = true ↔ ∀ c ∈ s.toList, isFrontChar c = true := by
  simp [isFront]

@[simp] theorem isFront_append (s t : String) : isFront (s ++ t) = (isFront s && isFront t) := by
  simp [isFront]

theorem isFieldValue_of_isFront {s : String} (front : isFront s = true) :
    isFieldValue s = true :=
  Http.isFieldValue_iff.mpr fun c member =>
    .inr (isFrontChar_iff.mp (isFront_iff.mp front c member)).1

theorem isFront_ofList {cs : List Char} (front : ∀ c ∈ cs, isFrontChar c = true) :
    isFront (.ofList cs) = true := by
  rw [isFront_iff, String.toList_ofList]
  exact front

theorem isFront_joinWith {separator : String} (separates : isFront separator = true)
    {ss : List String} (fronts : ∀ s ∈ ss, isFront s = true) :
    isFront (Text.joinWith separator ss) = true :=
  isFront_iff.mpr (Text.forall_mem_joinWith (isFront_iff.mp separates)
    fun s member => isFront_iff.mp (fronts s member))

theorem isFrontChar_of_isAlphanumeric {c : Char} (letter : Ascii.isAlphanumeric c = true) :
    isFrontChar c = true :=
  isFrontChar_iff.mpr ⟨Ascii.isControl_of_isVisible (Ascii.isVisible_of_isAlphanumeric letter),
    Ascii.ne_of_isAlphanumeric letter (by decide), Ascii.ne_of_isAlphanumeric letter (by decide)⟩

theorem isFrontChar_of_not_isForbidden {c : Char} (allowed : Domain.isForbidden c = false) :
    isFrontChar c = true := by
  refine isFrontChar_iff.mpr ⟨Domain.isControl_of_not_isForbidden allowed, ?_, ?_⟩
  · rintro rfl
    exact absurd allowed (by decide)
  · rintro rfl
    exact absurd allowed (by decide)

theorem isFront_toString (n : Nat) : isFront (toString n) = true :=
  isFront_iff.mpr fun c member =>
    isFrontChar_of_isAlphanumeric (Ascii.isAlphanumeric_of_mem_toString n c member)

/-- What a written part is made of. -/
theorem mem_encodePart {also : String} {cs : List Char} {c : Char}
    (member : c ∈ (encodePart also cs).toList) :
    (c ∈ cs ∧ c ∉ also.toList ∧ Ascii.isControl c = false) ∨ c = '%' ∨
      Ascii.isAlphanumeric c = true := by
  rw [encodePart, String.toList_ofList] at member
  rcases Percent.mem_encode member with ⟨inside, kept⟩ | escape
  · rw [Bool.and_eq_true, Bool.not_eq_true', Bool.not_eq_true', isEncodedAlways,
      Bool.or_eq_false_iff] at kept
    refine .inl ⟨inside, ?_, kept.1.1⟩
    simpa using kept.2
  · exact .inr escape

theorem isFieldValue_encodePart (also : String) (cs : List Char) :
    isFieldValue (encodePart also cs) = true := by
  refine Http.isFieldValue_iff.mpr fun c member => .inr ?_
  rcases mem_encodePart member with ⟨-, -, plain⟩ | rfl | letter
  · exact plain
  · decide
  · exact Ascii.isControl_of_isVisible (Ascii.isVisible_of_isAlphanumeric letter)

/-- A part is in front of a query if the marks behind it are encoded or not there. -/
theorem isFront_encodePart {also : String} {cs : List Char}
    (free : ∀ c ∈ cs, c ∉ also.toList → c ≠ '?' ∧ c ≠ '#') :
    isFront (encodePart also cs) = true := by
  refine isFront_iff.mpr fun c member => ?_
  rcases mem_encodePart member with ⟨inside, kept, plain⟩ | rfl | letter
  · exact isFrontChar_iff.mpr ⟨plain, free c inside kept⟩
  · decide
  · exact isFrontChar_of_isAlphanumeric letter

theorem isFront_encodePart_pathSet (cs : List Char) : isFront (encodePart pathSet cs) = true := by
  refine isFront_encodePart fun c _ kept => ?_
  constructor <;> rintro rfl <;> exact absurd kept (by decide)

theorem isFront_encodePart_userSet (cs : List Char) : isFront (encodePart userSet cs) = true := by
  refine isFront_encodePart fun c _ kept => ?_
  constructor <;> rintro rfl <;> exact absurd kept (by decide)

theorem isFront_ipv4Text (address : Nat) : isFront (ipv4Text address) = true := by
  refine isFront_joinWith (by decide) fun s member => ?_
  obtain ⟨place, -, rfl⟩ := List.mem_map.mp member
  exact isFront_toString _

theorem isFront_ipv6Text (pieces : List Nat) : isFront (ipv6Text pieces) = true := by
  have hex (some : List Nat) :
      isFront (Text.joinWith ":" (some.map fun n => .ofList (Nat.toDigits 16 n))) = true := by
    refine isFront_joinWith (by decide) fun s member => ?_
    obtain ⟨n, -, rfl⟩ := List.mem_map.mp member
    exact isFront_ofList fun c inside =>
      isFrontChar_of_isAlphanumeric (Ascii.isAlphanumeric_of_mem_toDigits n c inside)
  unfold ipv6Text
  dsimp only
  split
  · exact hex pieces
  · rw [isFront_append, isFront_append, hex, hex]
    rfl

/-- A host whose text may stand in front of a query. -/
def Host.IsPrintable (host : Host) : Prop :=
  isFront host.text = true

theorem Host.isPrintable_ipv4 (address : Nat) : (Host.ipv4 address).IsPrintable :=
  isFront_ipv4Text address

theorem Host.isPrintable_ipv6 (pieces : List Nat) : (Host.ipv6 pieces).IsPrintable := by
  unfold IsPrintable Host.text
  rw [isFront_append, isFront_append, isFront_ipv6Text]
  rfl

theorem isPrintable_bracketed? {cs : List Char} {host : Host}
    (read : bracketed? cs = some (.ok host)) : host.IsPrintable := by
  unfold bracketed? at read
  split at read
  · split at read
    · split at read
      · cases read
        exact Host.isPrintable_ipv6 _
      · cases read
    · cases read
  · cases read

theorem isPrintable_specialHost {cs : List Char} {host : Host}
    (read : specialHost cs = .ok host) : host.IsPrintable := by
  unfold specialHost at read
  split at read
  · rename_i result found
    subst read
    exact isPrintable_bracketed? found
  · split at read
    · cases read
    · rename_i name named
      obtain ⟨text, -, written⟩ := Option.bind_eq_some_iff.mp named
      split at read
      · cases read
      · split at read
        · split at read
          · cases read
            exact Host.isPrintable_ipv4 _
          · cases read
        · cases read
          exact isFront_ofList fun c member =>
            isFrontChar_of_not_isForbidden (Domain.isForbidden_of_toAscii? written c member)

theorem isPrintable_opaqueHost {cs : List Char} {host : Host}
    (read : opaqueHost cs = .ok host) : host.IsPrintable := by
  unfold opaqueHost at read
  split at read
  · rename_i result found
    subst read
    exact isPrintable_bracketed? found
  · split at read
    · cases read
    · rename_i allowed
      cases read
      refine isFront_encodePart fun c inside _ => ?_
      have plain : isForbiddenHostChar c = false :=
        Bool.eq_false_iff.mpr fun forbidden =>
          allowed (List.any_eq_true.mpr ⟨c, inside, forbidden⟩)
      constructor <;> rintro rfl <;> exact absurd plain (by decide)

/-- An authority whose parts may stand in front of a query. -/
structure Authority.IsPrintable (authority : Authority) : Prop where
  username : isFront authority.username = true
  password : ∀ password ∈ authority.password, isFront password = true
  host : authority.host.IsPrintable

theorem Authority.IsPrintable.userText {authority : Authority} (printable : authority.IsPrintable) :
    isFront authority.userText = true := by
  unfold Authority.userText
  split
  · rename_i password present
    simp only [isFront_append, printable.username,
      printable.password password present]
    rfl
  · split
    · rfl
    · rw [isFront_append, printable.username]
      rfl

theorem Authority.IsPrintable.hostText {authority : Authority} (printable : authority.IsPrintable) :
    isFront authority.hostText = true := by
  have host : isFront authority.host.text = true := printable.host
  unfold Authority.hostText
  rw [isFront_append, host]
  split
  · rw [isFront_append, isFront_toString]
    rfl
  · rfl

theorem isFront_readUser (cs : List Char) :
    isFront (readUser cs).1 = true ∧
      ∀ password ∈ (readUser cs).2, isFront password = true := by
  unfold readUser
  split
  · refine ⟨isFront_encodePart_userSet _, fun password member => ?_⟩
    split at member
    · cases member
    · cases member
      exact isFront_encodePart_userSet _
  · exact ⟨isFront_encodePart_userSet _, fun password member => nomatch member⟩

theorem isPrintable_readAuthority {scheme : String} {cs rest : List Char} {authority : Authority}
    (read : readAuthority scheme cs = .ok (authority, rest)) : authority.IsPrintable := by
  have user (cs : List Char) {host : Host} (printable : host.IsPrintable) (port : Option Nat) :
      Authority.IsPrintable ⟨(readUser cs).1, (readUser cs).2, host, port⟩ :=
    ⟨(isFront_readUser cs).1, (isFront_readUser cs).2, printable⟩
  unfold readAuthority at read
  cases front : splitUser? (cs.takeWhile (!endsAuthority (isSpecial scheme) ·))
  all_goals
    simp only [front, bind, Except.bind] at read
    split at read
    · cases read
    · split at read
      · split at read
        · cases read
        · cases read
          exact ⟨rfl, fun password member => (nomatch member), rfl⟩
      · split at read
        all_goals
          split at read
          · cases read
          · rename_i host found
            have printable : host.IsPrintable := by
              first
                | exact isPrintable_specialHost found
                | exact isPrintable_opaqueHost found
            split at read
            · split at read
              · cases read
              · cases read
                exact user _ printable _
            · cases read
              exact user _ printable none

/-- Segments are resolved to some of them and to empty ones. -/
theorem mem_resolve {file : Bool} {before segments : List String} {s : String}
    (member : s ∈ resolve file before segments) : s = "" ∨ s ∈ before ∨ s ∈ segments := by
  induction segments generalizing before with
  | nil => exact .inr (.inl (List.mem_reverse.mp member))
  | cons segment rest ih =>
    have known {kept : List String} (inside : ∀ t ∈ kept, t = "" ∨ t ∈ before)
        (member : s ∈ resolve file kept rest) :
        s = "" ∨ s ∈ before ∨ s ∈ segment :: rest := by
      rcases ih member with empty | earlier | later
      · exact .inl empty
      · exact (inside s earlier).imp_right .inl
      · exact .inr (.inr (List.mem_cons_of_mem _ later))
    have closed {kept : List String} (inside : ∀ t ∈ kept, t ∈ before) :
        ∀ t ∈ (if rest.isEmpty then "" :: kept else kept), t = "" ∨ t ∈ before := by
      intro t member
      split at member
      · exact (List.mem_cons.mp member).imp_right (inside t)
      · exact .inr (inside t member)
    unfold resolve at member
    split at member
    · refine known (closed ?_) member
      intro t inside
      split at inside
      · cases inside
      · split at inside
        · exact inside
        · cases inside
      · exact List.mem_cons_of_mem _ inside
    · split at member
      · exact known (closed fun t inside => inside) member
      · rcases ih member with empty | earlier | later
        · exact .inl empty
        · rcases List.mem_cons.mp earlier with rfl | earlier
          · exact .inr (.inr List.mem_cons_self)
          · exact .inr (.inl earlier)
        · exact .inr (.inr (List.mem_cons_of_mem _ later))

theorem isFront_segments {list : List String}
    (fields : ∀ s ∈ list, isFront s = true) :
    isFront (Path.segments list).text = true := by
  have all (text : String) (front : isFront text = true) :
      isFront (list.foldl (fun text segment => text ++ "/" ++ segment) text) = true := by
    induction list generalizing text with
    | nil => exact front
    | cons s rest ih =>
      refine ih (fun t member => fields t (List.mem_cons_of_mem _ member)) _ ?_
      rw [isFront_append, isFront_append, front,
        fields s List.mem_cons_self]
      rfl
  exact all "" rfl

theorem isFront_resolve {file : Bool} {segments : List (List Char)} :
    ∀ s ∈ resolve file [] (segments.map (encodePart pathSet)), isFront s = true := by
  intro s member
  rcases mem_resolve member with rfl | earlier | later
  · rfl
  · cases earlier
  · obtain ⟨segment, -, rfl⟩ := List.mem_map.mp later
    exact isFront_encodePart_pathSet segment

theorem isFront_readPath (special : Bool) (cs : List Char) :
    isFront (readPath special cs).text = true :=
  isFront_segments isFront_resolve

theorem isFront_readFilePath (cs : List Char) :
    isFront (readFilePath cs).1.text = true := by
  have trimmed (raw : List (List Char)) :
      let trimmed := (resolve true [] (raw.map (encodePart pathSet))).dropWhile String.isEmpty
      isFront (Path.segments (if trimmed.isEmpty then [""] else trimmed)).text = true := by
    refine isFront_segments fun s member => ?_
    split at member
    · rw [List.mem_singleton.mp member]
      rfl
    · exact isFront_resolve s (List.dropWhile_subset _ member)
  exact trimmed _

/-- A text that may stand between a question mark and a number sign. -/
structure IsQuery (query : String) : Prop where
  field : isFieldValue query = true
  closed : '#' ∉ query.toList

theorem isQuery_encodePart {also : String} (encodes : '#' ∈ also.toList) (cs : List Char) :
    IsQuery (encodePart also cs) := by
  refine ⟨isFieldValue_encodePart _ _, fun member => ?_⟩
  rcases mem_encodePart member with ⟨-, kept, -⟩ | percent | letter
  · exact kept encodes
  · exact absurd percent (by decide)
  · exact absurd letter (by decide)

theorem isPrintable_readTail (special : Bool) (cs : List Char) :
    (∀ query ∈ (readTail special cs).1, IsQuery query) ∧
      ∀ fragment ∈ (readTail special cs).2, isFieldValue fragment = true := by
  unfold readTail
  split
  · refine ⟨fun query member => ?_, fun fragment member => ?_⟩
    · cases member
      refine isQuery_encodePart ?_ _
      cases special <;> decide
    · dsimp only at member
      split at member
      · cases member
        exact isFieldValue_encodePart _ _
      · cases member
  · refine ⟨fun query member => (nomatch member), fun fragment member => ?_⟩
    dsimp only at member
    split at member
    · cases member
      exact isFieldValue_encodePart _ _
    · cases member

theorem isFrontChar_lower {c : Char} (letter : isSchemeChar c = true) :
    isFrontChar (Ascii.lower c) = true := by
  simp only [isSchemeChar, Bool.or_eq_true, beq_iff_eq] at letter
  rcases letter with ((letter | rfl) | rfl) | rfl
  · exact isFrontChar_of_isAlphanumeric (Ascii.isAlphanumeric_lower letter)
  · decide
  · decide
  · decide

theorem isFront_scheme? {cs rest : List Char} {scheme : String}
    (read : scheme? cs = some (scheme, rest)) : isFront scheme = true := by
  unfold scheme? at read
  split at read
  · split at read
    · split at read
      · cases read
        refine isFront_ofList fun c member => ?_
        obtain ⟨d, inside, rfl⟩ := List.mem_map.mp member
        exact isFrontChar_lower (List.all_eq_true.mp List.all_takeWhile d inside)
      · cases read
    · cases read
  · cases read

/-- A URL whose parts may stand in a header and have no marks that end them. -/
structure IsPrintable (url : Url) : Prop where
  scheme : isFront url.scheme = true
  authority : ∀ authority ∈ url.authority, authority.IsPrintable
  path : isFront url.path.text = true
  query : ∀ query ∈ url.query, IsQuery query
  fragment : ∀ fragment ∈ url.fragment, isFieldValue fragment = true

theorem isPrintable_readWeb {scheme : String} {cs : List Char} {url : Url}
    (named : isFront scheme = true) (read : readWeb scheme cs = .ok url) :
    url.IsPrintable := by
  simp only [readWeb, bind, Except.bind] at read
  split at read
  · cases read
  · rename_i place found
    cases read
    exact
      { scheme := named
        authority := fun authority member => by
          cases member
          exact isPrintable_readAuthority found
        path := isFront_readPath _ _
        query := (isPrintable_readTail _ _).1
        fragment := (isPrintable_readTail _ _).2 }

theorem isPrintable_readFileHost {cs rest : List Char} {host : Host}
    (read : readFileHost cs = .ok (host, rest)) : host.IsPrintable := by
  simp only [readFileHost] at read
  split at read
  · cases read
    rfl
  · split at read
    · cases read
      rfl
    · split at read
      · cases read
      · rename_i found
        cases read
        split
        · rfl
        · exact isPrintable_specialHost found

theorem isPrintable_readFile {cs : List Char} {url : Url} (read : readFile cs = .ok url) :
    url.IsPrintable := by
  have made (host : Host) (printable : host.IsPrintable) (drive : Bool) (cs tail : List Char) :
      IsPrintable ⟨"file", some ⟨"", none, if drive then .domain "" else host, none⟩,
        (readFilePath cs).1, (readTail true tail).1, (readTail true tail).2⟩ :=
    { scheme := (by decide : isFront "file" = true)
      authority := fun authority member => by
        cases member
        refine ⟨rfl, fun password member => (nomatch member), ?_⟩
        cases drive
        · exact printable
        · rfl
      path := isFront_readFilePath _
      query := (isPrintable_readTail _ _).1
      fragment := (isPrintable_readTail _ _).2 }
  simp only [readFile, bind, Except.bind] at read
  split at read
  · split at read
    · split at read
      · cases read
      · rename_i place found
        cases read
        exact made place.1 (isPrintable_readFileHost found) _ _ _
    · cases read
      exact made (.domain "") rfl _ _ _
  · cases read
    exact made (.domain "") rfl _ _ _

theorem isPrintable_readOther {scheme : String} {cs : List Char} {url : Url}
    (named : isFront scheme = true) (read : readOther scheme cs = .ok url) :
    url.IsPrintable := by
  simp only [readOther, bind, Except.bind] at read
  split at read
  · split at read
    · cases read
    · rename_i place found
      cases read
      refine ⟨named, fun authority member => ?_, ?_, (isPrintable_readTail _ _).1,
        (isPrintable_readTail _ _).2⟩
      · cases member
        exact isPrintable_readAuthority found
      · dsimp only
        split
        · rfl
        · exact isFront_readPath _ _
        · exact isFront_readPath _ _
  · cases read
    refine ⟨named, fun authority member => (nomatch member), ?_, (isPrintable_readTail _ _).1,
      (isPrintable_readTail _ _).2⟩
    dsimp only
    split
    · exact isFront_readPath _ _
    · refine isFront_encodePart fun c member _ => ?_
      simpa using List.mem_takeWhile_imp member

/-- Every URL that is read may stand in a header. -/
theorem isPrintable_parse {s : String} {url : Url} (read : parse s = .ok url) :
    url.IsPrintable := by
  unfold parse at read
  split at read
  · cases read
  · rename_i scheme rest found
    have named := isFront_scheme? found
    split at read
    · exact isPrintable_readFile read
    · split at read
      · exact isPrintable_readWeb named read
      · exact isPrintable_readOther named read

theorem isFieldValue_marked {mark : String} (plain : isFieldValue mark = true)
    {part : Option String} (fields : ∀ text ∈ part, isFieldValue text = true) :
    isFieldValue (marked mark part) = true := by
  cases part with
  | none => rfl
  | some text =>
    rw [marked, Http.isFieldValue_append, plain, fields text rfl]
    rfl

/-- The text of a URL up to its query. -/
def beforeQuery (url : Url) : String :=
  url.scheme ++ ":" ++ url.frontText ++ url.path.text

theorem IsPrintable.frontText {url : Url} (printable : url.IsPrintable) :
    isFront url.frontText = true := by
  unfold Url.frontText
  split
  · rename_i authority present
    have parts := printable.authority authority present
    rw [isFront_append, isFront_append, parts.userText, parts.hostText]
    rfl
  · rfl
  · rfl

theorem IsPrintable.beforeQuery {url : Url} (printable : url.IsPrintable) :
    isFront url.beforeQuery = true := by
  simp only [Url.beforeQuery, isFront_append, printable.scheme, printable.frontText,
    printable.path]
  rfl

theorem text_eq_beforeQuery (url : Url) :
    url.text = url.beforeQuery ++ marked "?" url.query ++ marked "#" url.fragment := rfl

theorem IsPrintable.text {url : Url} (printable : url.IsPrintable) :
    isFieldValue url.text = true := by
  have query : isFieldValue (marked "?" url.query) = true :=
    isFieldValue_marked (by decide) fun query member => (printable.query query member).field
  have fragment : isFieldValue (marked "#" url.fragment) = true :=
    isFieldValue_marked (by decide) printable.fragment
  rw [text_eq_beforeQuery, Http.isFieldValue_append, Http.isFieldValue_append,
    isFieldValue_of_isFront printable.beforeQuery, query, fragment]
  rfl

theorem isQuery_append {s t : String} (front : IsQuery s) (back : IsQuery t) :
    IsQuery (s ++ t) where
  field := by
    rw [Http.isFieldValue_append, front.field, back.field]
    rfl
  closed := by
    rw [String.toList_append, List.mem_append]
    exact not_or.mpr ⟨front.closed, back.closed⟩

theorem isQuery_formText (pairs : List (String × String)) : IsQuery (formText pairs) := by
  have part {s : String} {c : Char} (member : c ∈ encodeForm s) :
      Ascii.isControl c = false ∧ c ≠ '#' := by
    rcases mem_encodeForm member with rfl | rfl | plain
    · decide
    · decide
    · simp only [isFormChar, Bool.or_eq_true, beq_iff_eq] at plain
      rcases plain with (((letter | rfl) | rfl) | rfl) | rfl
      · exact ⟨Ascii.isControl_of_isVisible (Ascii.isVisible_of_isAlphanumeric letter),
          Ascii.ne_of_isAlphanumeric letter (by decide)⟩
      · decide
      · decide
      · decide
      · decide
  have whole : ∀ c ∈ (formText pairs).toList, Ascii.isControl c = false ∧ c ≠ '#' := by
    rw [formText_eq]
    refine Text.forall_mem_joinWith (List.all_iff_forall_prop.mp (by decide)) fun s inside => ?_
    obtain ⟨pair, -, rfl⟩ := List.mem_map.mp inside
    intro c member
    rw [pairText, String.toList_ofList, List.mem_append, List.mem_cons] at member
    rcases member with name | rfl | value
    · exact part name
    · decide
    · exact part value
  exact ⟨Http.isFieldValue_iff.mpr fun c member => .inr (whole c member).1,
    fun member => (whole '#' member).2 rfl⟩

/-- Pairs that are added to a query do no harm. -/
theorem IsPrintable.addPairs {url : Url} (printable : url.IsPrintable)
    (pairs : List (String × String)) : (url.addPairs pairs).IsPrintable where
  scheme := printable.scheme
  authority := printable.authority
  path := printable.path
  query := fun query member => by
    cases member
    split
    · exact isQuery_formText pairs
    · rename_i old
      cases present : url.query with
      | none =>
        rw [present] at old
        exact absurd rfl old
      | some text =>
        exact isQuery_append (isQuery_append (printable.query text present) ⟨by decide, by decide⟩)
          (isQuery_formText pairs)
  fragment := printable.fragment

end Gatehouse.Url
