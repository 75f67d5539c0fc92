import Gatehouse.Proofs.Url.Segments
import Mathlib.Data.List.TakeWhile

/-!
# Texts behind a base

What is read of a base with a slash and more behind it: scheme and authority are those of
the base, and the path goes on where the base ends.
-/

namespace Gatehouse.Url

open Text (dropWhile_append_cons takeWhile_append_cons)

/-- Reads a cleaned text. -/
def read (cs : List Char) : Except Fault Url :=
  match scheme? cs with
  | none => .error .noScheme
  | some (scheme, rest) =>
    if scheme = "file" then readFile rest
    else if isSpecial scheme then readWeb scheme rest
    else readOther scheme rest

theorem parse_eq_read (s : String) : parse s = read (cleaned s) := rfl

/-- A text as it is read in front of a slash. -/
def cleanedFront (s : String) : List Char :=
  (s.toList.dropWhile fun c => c.toNat ≤ 0x20).filter fun c =>
    c != '\t' && c != '\n' && c != '\r'

/-- A text as it is read behind a slash. -/
def cleanedBack (cs : List Char) : List Char :=
  (Text.dropWhileEnd (fun c => c.toNat ≤ 0x20) cs).filter fun c =>
    c != '\t' && c != '\n' && c != '\r'

theorem cleaned_append (s t : String) :
    cleaned (s ++ "/" ++ t) = cleanedFront s ++ '/' :: cleanedBack t.toList := by
  have slash : (fun c : Char => decide (c.toNat ≤ 0x20)) '/' = false := by decide
  have letters : (s ++ "/" ++ t).toList = s.toList ++ '/' :: t.toList := by
    simp [String.toList_append]
  rw [cleaned, letters, Text.trimBy, dropWhile_append_cons _ _ slash,
    Text.dropWhileEnd_append_cons _ _ slash, List.filter_append,
    List.filter_cons_of_pos (by decide)]
  rfl

/-- The scheme of a base does not depend on what is behind its slash. -/
theorem scheme?_append (cs t : List Char) :
    scheme? (cs ++ '/' :: t) =
      (scheme? cs).map fun (scheme, rest) => (scheme, rest ++ '/' :: t) := by
  cases cs with
  | nil => rfl
  | cons c cs =>
    have slash : isSchemeChar '/' = false := by decide
    have dropped := dropWhile_append_cons (c :: cs) t slash
    have taken := takeWhile_append_cons (c :: cs) t slash
    rw [List.cons_append] at dropped taken ⊢
    rw [scheme?, scheme?, dropped, taken]
    by_cases letter : Ascii.isLetter c = true
    · rw [if_pos letter, if_pos letter]
      cases (c :: cs).dropWhile isSchemeChar with
      | nil => rfl
      | cons d rest =>
        by_cases colon : d = ':'
        · subst colon
          rfl
        · simp [colon]
    · rw [if_neg letter, if_neg letter]
      rfl

/-- The host of an authority. -/
def readHost (scheme : String) (cs : List Char) : Except Fault Host :=
  if isSpecial scheme then specialHost cs else opaqueHost cs

/-- Reads a host with a port behind a user and a password, and what that leaves over. -/
def readHostPort (scheme username : String) (password : Option String) (host rest : List Char) :
    Except Fault (Authority × List Char) :=
  if host.isEmpty then
    if isSpecial scheme ∨ !rest.isEmpty ∨ !username.isEmpty ∨ password.isSome then
      .error .emptyHost
    else .ok (⟨"", none, .domain "", none⟩, [])
  else
    match readHost scheme host, rest with
    | .error fault, _ => .error fault
    | .ok host, [] => .ok (⟨username, password, host, none⟩, [])
    | .ok host, _ :: digits =>
      (readPort scheme digits).map fun (port, rest) => (⟨username, password, host, port⟩, rest)

/-- Reads the text of an authority that something follows. -/
def readPlace (scheme : String) (whole : List Char) : Except Fault (Authority × List Char) :=
  let (user, place) :=
    match splitUser? whole with
    | some (user, place) => (some user, place)
    | none => (none, whole)
  if user = some [] ∧ place.isEmpty then .error .emptyHost
  else
    readHostPort scheme (readUser (user.getD [])).1 (readUser (user.getD [])).2
      (splitHost false place).1 (splitHost false place).2

/-- The guard of the empty host needs something behind it, but a special scheme has no empty host
    anyway. -/
theorem map_readHostPort_guard {scheme : String} {after : List Char}
    (follows : isSpecial scheme = true ∨ after ≠ []) (user : Option (List Char))
    (place : List Char) :
    (if user = some [] ∧ place.isEmpty ∧ !after.isEmpty then .error .emptyHost
      else
        (readHostPort scheme (readUser (user.getD [])).1 (readUser (user.getD [])).2
          (splitHost false place).1 (splitHost false place).2).map
            fun (authority, rest) => (authority, rest ++ after)) =
    (if user = some [] ∧ place.isEmpty then .error .emptyHost
      else
        readHostPort scheme (readUser (user.getD [])).1 (readUser (user.getD [])).2
          (splitHost false place).1 (splitHost false place).2).map
            fun (authority, rest) => (authority, rest ++ after) := by
  by_cases empty : user = some [] ∧ place.isEmpty = true
  · rw [if_pos empty]
    cases after with
    | nil =>
      have special := follows.resolve_right (by simp)
      have place : place = [] := List.isEmpty_iff.mp empty.2
      have refused : readHostPort scheme (readUser (user.getD [])).1 (readUser (user.getD [])).2
          (splitHost false []).1 (splitHost false []).2 = .error .emptyHost := by
        unfold readHostPort
        rw [if_pos (by rfl), if_pos (.inl special)]
      rw [if_neg (by simp), place, refused]
    | cons c after =>
      rw [if_pos ⟨empty.1, empty.2, rfl⟩]
      rfl
  · rw [if_neg empty, if_neg fun both => empty ⟨both.1, both.2.1⟩]

/-- What follows an authority is kept.  What the authority is read as does not depend on it, but for
    an empty host that other schemes may leave out. -/
theorem readAuthority_eq {scheme : String} {cs : List Char}
    (follows : isSpecial scheme = true ∨ cs.dropWhile (!endsAuthority (isSpecial scheme) ·) ≠ []) :
    readAuthority scheme cs =
      (readPlace scheme (cs.takeWhile (!endsAuthority (isSpecial scheme) ·))).map
        fun (authority, rest) =>
          (authority, rest ++ cs.dropWhile (!endsAuthority (isSpecial scheme) ·)) := by
  unfold readAuthority readPlace
  simp only [bind, Except.bind]
  generalize cs.takeWhile (!endsAuthority (isSpecial scheme) ·) = whole
  generalize cs.dropWhile (!endsAuthority (isSpecial scheme) ·) = after at follows ⊢
  rcases splitUser? whole with _ | ⟨user, place⟩
  all_goals
    dsimp only
    refine Eq.trans ?_ (map_readHostPort_guard follows _ _)
    congr 1
    unfold readHostPort readHost
    generalize splitHost false _ = parts
    generalize readUser _ = user
    obtain ⟨host, rest⟩ := parts
    split
    · split <;> rfl
    · split
      · rcases specialHost host with fault | host
        · rfl
        · rcases rest with _ | ⟨colon, digits⟩
          · rfl
          · dsimp only
            cases readPort scheme digits <;> rfl
      · rcases opaqueHost host with fault | host
        · rfl
        · rcases rest with _ | ⟨colon, digits⟩
          · rfl
          · dsimp only
            cases readPort scheme digits <;> rfl

theorem readAuthority_append (scheme : String) (cs t : List Char) :
    readAuthority scheme (cs ++ '/' :: t) =
      (readPlace scheme (cs.takeWhile (!endsAuthority (isSpecial scheme) ·))).map
        fun (authority, rest) =>
          (authority, rest ++ cs.dropWhile (!endsAuthority (isSpecial scheme) ·) ++ '/' :: t) := by
  have slash : (!endsAuthority (isSpecial scheme) '/') = false := rfl
  have taken := takeWhile_append_cons (p := (!endsAuthority (isSpecial scheme) ·)) cs t slash
  have dropped := dropWhile_append_cons (p := (!endsAuthority (isSpecial scheme) ·)) cs t slash
  rw [readAuthority_eq (.inr (by simp [dropped])), taken, dropped]
  simp only [List.append_assoc]

/-- A text behind a query or a fragment belongs to it. -/
theorem splitTail_append_of_ne_nil {cs : List Char} (open_ : (splitTail cs).2 ≠ [])
    (ds : List Char) : splitTail (cs ++ ds) = ((splitTail cs).1, (splitTail cs).2 ++ ds) := by
  have shorter : (splitTail cs).1.length ≠ cs.length := by
    intro same
    have whole := congrArg List.length
      (List.takeWhile_append_dropWhile (p := fun c => c != '?' && c != '#') (l := cs))
    rw [List.length_append] at whole
    have nothing : (splitTail cs).2.length = 0 := by
      simp only [splitTail] at same ⊢
      omega
    exact open_ (List.length_eq_zero_iff.mp nothing)
  unfold splitTail at open_ shorter ⊢
  rw [List.takeWhile_append, List.dropWhile_append, if_neg shorter, if_neg (by simpa using open_)]

/-- A text without a query and a fragment belongs to the path with what follows it. -/
theorem splitTail_append_of_nil {cs : List Char} (closed : (splitTail cs).2 = [])
    (ds : List Char) : splitTail (cs ++ ds) = (cs ++ (splitTail ds).1, (splitTail ds).2) := by
  have plain : ∀ c ∈ cs, (c != '?' && c != '#') = true := by simpa [splitTail] using closed
  rw [splitTail, List.takeWhile_append_of_pos plain, List.dropWhile_append_of_pos plain]
  rfl

theorem splitTail_slash (t : List Char) :
    splitTail ('/' :: t) = ('/' :: (splitTail t).1, (splitTail t).2) := rfl

/-- Only a text of nothing has neither a query nor a fragment. -/
theorem readTail_eq_none_iff (special : Bool) {cs : List Char} :
    readTail special cs = (none, none) ↔ cs = [] := by
  constructor
  · intro none
    cases cs with
    | nil => rfl
    | cons c cs =>
      unfold readTail at none
      split at none
      · cases (Prod.mk.inj none).1
      · cases (Prod.mk.inj none).2
  · rintro rfl
    rfl

theorem readSegments_append (special : Bool) (cs ds : List Char) :
    readSegments special (cs ++ '/' :: ds) = readSegments special cs ++ readSegments special ds :=
  Text.splitBy_append_separator cs ds (by simp)

theorem readSegments_ne_nil (special : Bool) (cs : List Char) : readSegments special cs ≠ [] :=
  Text.splitBy_ne_nil _ cs

/-- A text that leads nowhere but down: it does not begin with a slash, and none of its segments
    leads up, leads nowhere or names a drive. -/
structure Descends (t : List Char) : Prop where
  single : ∀ c ∈ t.head?, isSlash c = false
  plain : ∀ special, ∀ segment ∈ readSegments special (splitTail t).1,
    isDots (encodePart pathSet segment) = false
  driveless : ∀ special, ∀ segment ∈ readSegments special (splitTail t).1, drive? segment = none

theorem descends_iff {t : List Char} :
    (t.head?.all (!isSlash ·) && [false, true].all fun special =>
      (readSegments special (splitTail t).1).all fun segment =>
        !isDots (encodePart pathSet segment) && (drive? segment).isNone) = true ↔ Descends t := by
  simp only [Bool.and_eq_true, Option.all_eq_true, List.all_eq_true, Bool.not_eq_true',
    Option.isNone_iff_eq_none]
  constructor
  · rintro ⟨single, segments⟩
    have segments (special : Bool) := segments special (by cases special <;> decide)
    exact ⟨single, fun special segment member => (segments special segment member).1,
      fun special segment member => (segments special segment member).2⟩
  · rintro ⟨single, plain, driveless⟩
    exact ⟨single, fun special _ segment member =>
      ⟨plain special segment member, driveless special segment member⟩⟩

instance (t : List Char) : Decidable (Descends t) :=
  decidable_of_iff _ descends_iff

/-- The written segments of a text behind a slash. -/
def segmentsOf (special : Bool) (cs : List Char) : List String :=
  (readSegments special cs).map (encodePart pathSet)

theorem segmentsOf_ne_nil (special : Bool) (cs : List Char) : segmentsOf special cs ≠ [] := by
  rw [segmentsOf, ne_eq, List.map_eq_nil_iff]
  exact readSegments_ne_nil special cs

theorem Descends.isDots {t : List Char} (descends : Descends t) (special : Bool) :
    ∀ segment ∈ segmentsOf special (splitTail t).1, Url.isDots segment = false := by
  intro segment member
  obtain ⟨raw, inside, rfl⟩ := List.mem_map.mp member
  exact descends.plain special raw inside

theorem readPath_append {special : Bool} {t : List Char} (descends : Descends t) (cs : List Char) :
    readPath special (cs ++ '/' :: (splitTail t).1) =
      .segments (((segmentsOf special cs).foldl (descend false) []).reverse ++
        segmentsOf special (splitTail t).1) := by
  rw [readPath, readSegments_append, List.map_append]
  congr 1
  exact resolve_append_plain (segmentsOf_ne_nil _ _) (descends.isDots special)

theorem readPath_of_descends {special : Bool} {t : List Char} (descends : Descends t) :
    readPath special (splitTail t).1 = .segments (segmentsOf special (splitTail t).1) := by
  rw [readPath]
  congr 1
  exact resolve_of_plain (descends.isDots special)

end Gatehouse.Url
