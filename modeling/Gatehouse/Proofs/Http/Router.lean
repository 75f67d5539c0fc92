import Gatehouse.Http.Router
import Gatehouse.Proofs.Text.Cutting
import Mathlib.Data.List.Pairwise

/-!
# Where a router leads

A walk finds a route exactly if the pattern of one matches.  A route without captures that
is added to a router takes over its own path and no other one, and a router that refuses
no more than it has to can be put together from routes that do not overlap.
-/

namespace Gatehouse.Http

theorem joinWith_pathSegments (path : String) : Text.joinWith "/" (pathSegments path) = path :=
  String.ext (Text.toList_joinWith_splitBy '/' path.toList)

theorem pathSegments_inj {path other : String} :
    pathSegments path = pathSegments other ↔ path = other := by
  constructor
  · intro same
    rw [← joinWith_pathSegments path, same, joinWith_pathSegments]
  · exact congrArg pathSegments

/-- How a pattern is read where every capture takes exactly one segment that is not empty. -/
inductive Fits : List Segment → List String → Prop where
  | nil : Fits [] []
  | literal (text : String) {pattern : List Segment} {segments : List String}
      (rest : Fits pattern segments) : Fits (.literal text :: pattern) (text :: segments)
  | capture (name : String) {s : String} {pattern : List Segment} {segments : List String}
      (filled : s ≠ "") (rest : Fits pattern segments) :
      Fits (.capture name :: pattern) (s :: segments)

/-- Whether a pattern fits segments, by a comparison of one after the other. -/
def coversSegments : List Segment → List String → Bool
  | [], [] => true
  | .literal text :: pattern, s :: segments => s == text && coversSegments pattern segments
  | .capture _ :: pattern, s :: segments => !s.isEmpty && coversSegments pattern segments
  | _, _ => false

/-- The comparison decides what fits. -/
theorem coversSegments_iff {pattern : List Segment} {segments : List String} :
    coversSegments pattern segments = true ↔ Fits pattern segments := by
  constructor
  · intro covers
    induction pattern generalizing segments with
    | nil =>
      cases segments with
      | nil => exact .nil
      | cons s segments => cases covers
    | cons segment pattern ih =>
      cases segments with
      | nil => cases segment <;> cases covers
      | cons s segments =>
        cases segment with
        | literal text =>
          rw [coversSegments, Bool.and_eq_true, beq_iff_eq] at covers
          rw [covers.1]
          exact .literal text (ih covers.2)
        | capture name =>
          rw [coversSegments, Bool.and_eq_true] at covers
          exact .capture name (by simpa using covers.1) (ih covers.2)
  · intro fits
    induction fits with
    | nil => rfl
    | literal text rest ih => simp [coversSegments, ih]
    | capture name filled rest ih => simp [coversSegments, filled, ih]

/-- A pattern fits exactly if it matches without taking an empty segment. -/
theorem fits_iff_matchSegments? {pattern : List Segment} {segments : List String} :
    Fits pattern segments ↔ ∃ taken, matchSegments? pattern segments = some taken ∧ "" ∉ taken := by
  constructor
  · intro fits
    induction fits with
    | nil => exact ⟨[], rfl, by simp⟩
    | literal text rest ih =>
      obtain ⟨taken, matched, filled⟩ := ih
      exact ⟨taken, by rw [matchSegments?, if_pos rfl, matched], filled⟩
    | @capture name s pattern segments filled rest ih =>
      obtain ⟨taken, matched, others⟩ := ih
      refine ⟨s :: taken, by simp [matchSegments?, filled, matched], ?_⟩
      rw [List.mem_cons, not_or]
      exact ⟨Ne.symm filled, others⟩
  · rintro ⟨taken, matched, filled⟩
    induction pattern generalizing segments taken with
    | nil =>
      cases segments with
      | nil => exact .nil
      | cons s segments => cases matched
    | cons segment pattern ih =>
      cases segments with
      | nil => cases segment <;> cases matched
      | cons s segments =>
        cases segment with
        | literal text =>
          rw [matchSegments?] at matched
          split at matched
          · rename_i same
            rw [same]
            exact .literal text (ih taken matched filled)
          · cases matched
        | capture name =>
          rw [matchSegments?] at matched
          split at matched
          · cases matched
          · obtain ⟨rest, behind, rfl⟩ := Option.map_eq_some_iff.mp matched
            rw [List.mem_cons, not_or] at filled
            exact .capture name (Ne.symm filled.1) (ih rest behind filled.2)

/-- Literals in front of a pattern match their own texts, and the rest matches behind them. -/
theorem exists_of_matchSegments?_literals (texts : List String) (pattern : List Segment)
    {segments taken : List String}
    (matched : matchSegments? (texts.map .literal ++ pattern) segments = some taken) :
    ∃ behind, segments = texts ++ behind ∧ matchSegments? pattern behind = some taken := by
  induction texts generalizing segments with
  | nil => exact ⟨segments, rfl, matched⟩
  | cons text texts ih =>
    cases segments with
    | nil => cases matched
    | cons s segments =>
      rw [List.map_cons, List.cons_append, matchSegments?] at matched
      split at matched
      · rename_i same
        obtain ⟨behind, rfl, rest⟩ := ih matched
        exact ⟨behind, by rw [same]; rfl, rest⟩
      · cases matched

/-- Only its own texts match a pattern of literals, of which nothing is taken. -/
theorem matchSegments?_literals_eq_some (texts : List String) {segments taken : List String} :
    matchSegments? (texts.map .literal) segments = some taken ↔ segments = texts ∧ taken = [] := by
  constructor
  · intro matched
    obtain ⟨behind, rfl, rest⟩ := exists_of_matchSegments?_literals texts []
      (by rwa [List.append_nil])
    cases behind with
    | nil =>
      cases rest
      exact ⟨List.append_nil texts, rfl⟩
    | cons s behind => cases rest
  · rintro ⟨rfl, rfl⟩
    induction segments with
    | nil => rfl
    | cons s segments ih => rw [List.map_cons, matchSegments?, if_pos rfl, ih]

/-- A capture in front of a pattern takes the first segment, which is not an empty last one. -/
theorem exists_of_matchSegments?_capture {name : String} {pattern : List Segment}
    {segments taken : List String}
    (matched : matchSegments? (.capture name :: pattern) segments = some taken) :
    ∃ s behind rest, segments = s :: behind ∧ taken = s :: rest ∧
      matchSegments? pattern behind = some rest ∧ ¬(s = "" ∧ behind = []) := by
  cases segments with
  | nil => cases matched
  | cons s segments =>
    rw [matchSegments?] at matched
    split at matched
    · cases matched
    · rename_i goesOn
      obtain ⟨rest, behind, rfl⟩ := Option.map_eq_some_iff.mp matched
      exact ⟨s, segments, rest, rfl, rfl, behind, by simpa using goesOn⟩

section walk

variable {α : Type} {rows : List (List Segment × α)}

theorem mem_behindLiteral {s : String} {row : List Segment × α} :
    row ∈ behindLiteral s rows ↔ (.literal s :: row.1, row.2) ∈ rows := by
  rw [behindLiteral, List.mem_filterMap]
  constructor
  · rintro ⟨⟨pattern, a⟩, member, found⟩
    dsimp only at found
    split at found
    · split at found
      · rename_i same
        cases found
        rw [same]
        exact member
      · cases found
    · cases found
  · intro member
    exact ⟨_, member, by simp⟩

theorem mem_behindCapture {row : List Segment × α} :
    row ∈ behindCapture rows ↔ ∃ name, (.capture name :: row.1, row.2) ∈ rows := by
  rw [behindCapture, List.mem_filterMap]
  constructor
  · rintro ⟨⟨pattern, a⟩, member, found⟩
    dsimp only at found
    split at found
    · rename_i name rest
      cases found
      exact ⟨name, member⟩
    · cases found
  · rintro ⟨name, member⟩
    exact ⟨_, member, rfl⟩

/-- A walk leads to a route whose pattern matches. -/
theorem exists_of_walk {segments taken : List String} {a : α}
    (found : walk segments rows = some (a, taken)) :
    ∃ pattern, (pattern, a) ∈ rows ∧ matchSegments? pattern segments = some taken := by
  induction segments generalizing rows taken with
  | nil =>
    obtain ⟨⟨pattern, b⟩, first, same⟩ := Option.map_eq_some_iff.mp found
    cases same
    have empty : pattern = [] := by simpa using List.find?_some first
    exact ⟨pattern, List.mem_of_find?_eq_some first, by rw [empty]; rfl⟩
  | cons s segments ih =>
    rw [walk, Option.or_eq_some_iff] at found
    rcases found with found | ⟨-, found⟩
    · obtain ⟨pattern, member, matched⟩ := ih found
      exact ⟨.literal s :: pattern, mem_behindLiteral.mp member,
        by rw [matchSegments?, if_pos rfl, matched]⟩
    · split at found
      · cases found
      · rename_i goesOn
        obtain ⟨⟨b, rest⟩, behind, same⟩ := Option.map_eq_some_iff.mp found
        cases same
        obtain ⟨pattern, member, matched⟩ := ih behind
        obtain ⟨name, member⟩ := mem_behindCapture.mp member
        exact ⟨.capture name :: pattern, member, by rw [matchSegments?, if_neg goesOn, matched]; rfl⟩

/-- A walk finds something if a pattern matches. -/
theorem walk_ne_none {segments taken : List String} {row : List Segment × α} (member : row ∈ rows)
    (matched : matchSegments? row.1 segments = some taken) : walk segments rows ≠ none := by
  obtain ⟨pattern, a⟩ := row
  induction segments generalizing rows pattern taken with
  | nil =>
    cases pattern with
    | nil =>
      rw [walk, ne_eq, Option.map_eq_none_iff, List.find?_eq_none]
      exact fun none => none _ member rfl
    | cons segment pattern => cases segment <;> cases matched
  | cons s segments ih =>
    rw [walk, ne_eq, Option.or_eq_none_iff, not_and]
    intro noLiteral
    cases pattern with
    | nil => cases matched
    | cons segment pattern =>
      cases segment with
      | literal text =>
        rw [matchSegments?] at matched
        split at matched
        · rename_i same
          exact absurd noLiteral (ih pattern (mem_behindLiteral.mpr (same ▸ member)) matched)
        · cases matched
      | capture name =>
        rw [matchSegments?] at matched
        split at matched
        · cases matched
        · rename_i goesOn
          obtain ⟨rest, matched, -⟩ := Option.map_eq_some_iff.mp matched
          rw [if_neg goesOn, Option.map_eq_none_iff]
          exact ih pattern (mem_behindCapture.mpr ⟨name, member⟩) matched

/-- No two patterns match the same path. -/
def AreApart (rows : List (List Segment × α)) : Prop :=
  rows.Pairwise fun row other =>
    ∀ segments, matchSegments? row.1 segments = none ∨ matchSegments? other.1 segments = none

theorem AreApart.eq_of_matches (apart : AreApart rows) {row other : List Segment × α}
    (member : row ∈ rows) (otherMember : other ∈ rows) {segments taken otherTaken : List String}
    (matched : matchSegments? row.1 segments = some taken)
    (otherMatched : matchSegments? other.1 segments = some otherTaken) : row = other := by
  by_contra differ
  have : Std.Symm fun row other : List Segment × α =>
      ∀ segments, matchSegments? row.1 segments = none ∨ matchSegments? other.1 segments = none :=
    ⟨fun _ _ fails segments => (fails segments).symm⟩
  have oneFails := List.Pairwise.forall apart member otherMember differ segments
  rw [matched, otherMatched] at oneFails
  rcases oneFails with fails | fails <;> cases fails

/-- If no two patterns match the same path, the order of the routes does not matter. -/
theorem AreApart.walk_eq_findSome? (apart : AreApart rows) (segments : List String) :
    walk segments rows =
      rows.findSome? fun row => (matchSegments? row.1 segments).map fun taken => (row.2, taken) := by
  cases found : walk segments rows with
  | none =>
    rw [eq_comm, List.findSome?_eq_none_iff]
    intro row member
    rw [Option.map_eq_none_iff]
    by_contra matches'
    obtain ⟨taken, matched⟩ := Option.ne_none_iff_exists'.mp matches'
    exact walk_ne_none member matched found
  | some target =>
    obtain ⟨a, taken⟩ := target
    obtain ⟨pattern, member, matched⟩ := exists_of_walk found
    cases first : rows.findSome? fun row =>
        (matchSegments? row.1 segments).map fun taken => (row.2, taken) with
    | none =>
      have fails := List.findSome?_eq_none_iff.mp first _ member
      rw [matched] at fails
      cases fails
    | some other =>
      obtain ⟨row, otherMember, otherFound⟩ := List.exists_of_findSome?_eq_some first
      obtain ⟨otherTaken, otherMatched, rfl⟩ := Option.map_eq_some_iff.mp otherFound
      have same := apart.eq_of_matches member otherMember matched otherMatched
      rw [← same] at otherMatched ⊢
      rw [matched] at otherMatched
      cases otherMatched
      rfl

theorem behindLiteral_append (s : String) (rows others : List (List Segment × α)) :
    behindLiteral s (rows ++ others) = behindLiteral s rows ++ behindLiteral s others :=
  List.filterMap_append

theorem behindCapture_append (rows others : List (List Segment × α)) :
    behindCapture (rows ++ others) = behindCapture rows ++ behindCapture others :=
  List.filterMap_append

/-- A further route without captures does not change where other paths lead. -/
theorem walk_append_literals_of_ne {segments texts : List String} (other : segments ≠ texts)
    (rows : List (List Segment × α)) (a : α) :
    walk segments (rows ++ [(texts.map .literal, a)]) = walk segments rows := by
  induction segments generalizing rows texts with
  | nil =>
    cases texts with
    | nil => exact absurd rfl other
    | cons text texts => simp [walk, List.find?_append]
  | cons s segments ih =>
    -- Behind a capture there is nothing of the further route, and behind a literal its rest.
    have captured : behindCapture [(texts.map Segment.literal, a)] = [] := by
      cases texts <;> rfl
    rw [walk, walk, behindCapture_append, captured, List.append_nil, behindLiteral_append]
    have same : walk segments (behindLiteral s rows ++ behindLiteral s [(texts.map .literal, a)]) =
        walk segments (behindLiteral s rows) := by
      cases texts with
      | nil => simp [behindLiteral]
      | cons text texts =>
        by_cases step : s = text
        · have rest : segments ≠ texts := fun rest => other (by rw [step, rest])
          simpa [behindLiteral, step] using ih rest (behindLiteral s rows)
        · simp [behindLiteral, step]
    rw [same]

/-- A further route without captures is where its own path leads. -/
theorem walk_append_literals_self {segments : List String} {rows : List (List Segment × α)}
    (fresh : ∀ row ∈ rows, row.1 ≠ segments.map .literal) (a : α) :
    walk segments (rows ++ [(segments.map .literal, a)]) = some (a, []) := by
  induction segments generalizing rows with
  | nil =>
    have none : rows.find? (·.1.isEmpty) = none := by
      rw [List.find?_eq_none]
      intro row member
      simpa using fresh row member
    simp [walk, List.find?_append, none]
  | cons s segments ih =>
    have rest : ∀ row ∈ behindLiteral s rows, row.1 ≠ segments.map .literal := by
      intro row member same
      exact fresh _ (mem_behindLiteral.mp member) (by rw [same]; rfl)
    have literal : behindLiteral s [((s :: segments).map Segment.literal, a)] =
        [(segments.map .literal, a)] := by
      simp [behindLiteral]
    rw [walk, behindLiteral_append, literal, ih rest]
    rfl

end walk

/-- Patterns that fit one path. -/
def Overlap (pattern other : List Segment) : Prop :=
  ∃ segments, Fits pattern segments ∧ Fits other segments

/-- Whether patterns have one length and no two different literals in one place. -/
def agree : List Segment → List Segment → Bool
  | [], [] => true
  | .literal s :: pattern, .literal t :: other => s == t && agree pattern other
  | _ :: pattern, _ :: other => agree pattern other
  | _, _ => false

theorem exists_of_matchSegments?_cons {segment : Segment} {pattern : List Segment} {s : String}
    {segments taken : List String}
    (matched : matchSegments? (segment :: pattern) (s :: segments) = some taken) :
    ∃ rest, matchSegments? pattern segments = some rest := by
  cases segment with
  | literal text =>
    rw [matchSegments?] at matched
    split at matched
    · exact ⟨taken, matched⟩
    · cases matched
  | capture name =>
    rw [matchSegments?] at matched
    split at matched
    · cases matched
    · obtain ⟨rest, behind, -⟩ := Option.map_eq_some_iff.mp matched
      exact ⟨rest, behind⟩

theorem agree_of_matches {pattern other : List Segment} {segments taken otherTaken : List String}
    (matched : matchSegments? pattern segments = some taken)
    (otherMatched : matchSegments? other segments = some otherTaken) :
    agree pattern other = true := by
  induction segments generalizing pattern other taken otherTaken with
  | nil =>
    cases pattern with
    | nil =>
      cases other with
      | nil => rfl
      | cons segment other => cases segment <;> cases otherMatched
    | cons segment pattern => cases segment <;> cases matched
  | cons s segments ih =>
    cases pattern with
    | nil => cases matched
    | cons segment pattern =>
      cases other with
      | nil => cases otherMatched
      | cons otherSegment other =>
        obtain ⟨_, behind⟩ := exists_of_matchSegments?_cons matched
        obtain ⟨_, otherBehind⟩ := exists_of_matchSegments?_cons otherMatched
        have tail := ih behind otherBehind
        cases segment with
        | capture name => cases otherSegment <;> exact tail
        | literal text =>
          cases otherSegment with
          | capture name => exact tail
          | literal otherText =>
            -- Both literals are the segment that they match.
            rw [matchSegments?] at matched otherMatched
            split at matched
            · split at otherMatched
              · simp_all [agree]
              · cases otherMatched
            · cases matched

theorem not_overlap_of_agree {pattern other : List Segment} (differ : agree pattern other = false) :
    ¬Overlap pattern other := by
  rintro ⟨segments, fits, otherFits⟩
  obtain ⟨taken, matched, -⟩ := fits_iff_matchSegments?.mp fits
  obtain ⟨otherTaken, otherMatched, -⟩ := fits_iff_matchSegments?.mp otherFits
  rw [agree_of_matches matched otherMatched] at differ
  cases differ

theorem areApart_of_agree {α : Type} {rows : List (List Segment × α)}
    (differ : rows.Pairwise fun row other => agree row.1 other.1 = false) : AreApart rows := by
  refine differ.imp ?_
  intro row other differ segments
  by_contra both
  rw [not_or] at both
  obtain ⟨taken, matched⟩ := Option.ne_none_iff_exists'.mp both.1
  obtain ⟨otherTaken, otherMatched⟩ := Option.ne_none_iff_exists'.mp both.2
  rw [agree_of_matches matched otherMatched] at differ
  cases differ

/-- Patterns that differ in the names of captures alone fit the same paths, and there is one. -/
theorem overlap_of_samePattern {pattern other : List Segment}
    (same : samePattern pattern other = true) : Overlap pattern other := by
  fun_induction samePattern pattern other with
  | case1 => exact ⟨[], .nil, .nil⟩
  | case2 s pattern t other ih =>
    rw [Bool.and_eq_true, beq_iff_eq] at same
    obtain ⟨segments, fits, otherFits⟩ := ih same.2
    rw [← same.1]
    exact ⟨s :: segments, .literal s fits, .literal s otherFits⟩
  | case3 name pattern otherName other ih =>
    obtain ⟨segments, fits, otherFits⟩ := ih same
    exact ⟨"x" :: segments, .capture name (by decide) fits, .capture otherName (by decide) otherFits⟩
  | case4 => cases same

/-- Refuses a path only for how it is written, or for a route that it overlaps. -/
def Refusal.IsSparing (refuses : Refusal) : Prop :=
  ∀ existing path, refuses existing path = true → isRoutePath path = false ∨
    ∃ other ∈ existing, Overlap (readPattern other) (readPattern path)

theorem Refusal.isSparing_usual : Refusal.usual.IsSparing := by
  intro existing path refused
  rw [Refusal.usual, Bool.or_eq_true, Bool.not_eq_true', List.any_eq_true] at refused
  rcases refused with bad | ⟨other, member, same⟩
  · exact .inl bad
  · exact .inr ⟨other, member, overlap_of_samePattern same⟩

namespace Router

variable {α : Type} {refuses : Refusal}

theorem add?_eq_some (sparing : refuses.IsSparing) {router : Router α} {route : String × α}
    (written : isRoutePath route.1 = true)
    (apart : ∀ other ∈ router.routes, ¬Overlap (readPattern other.1) (readPattern route.1)) :
    router.add? refuses route = some ⟨router.routes ++ [route]⟩ := by
  rw [add?, if_neg]
  intro refused
  rcases sparing _ _ refused with bad | ⟨path, member, overlap⟩
  · rw [written] at bad
    cases bad
  · obtain ⟨other, present, rfl⟩ := List.mem_map.mp member
    exact apart other present overlap

/-- Routes that are well written and do not overlap can all be added. -/
theorem addAll?_eq_some (sparing : refuses.IsSparing) (router : Router α)
    {routes : List (String × α)} (written : ∀ route ∈ routes, isRoutePath route.1 = true)
    (apart : (router.routes ++ routes).Pairwise fun route other =>
      ¬Overlap (readPattern route.1) (readPattern other.1)) :
    router.addAll? refuses routes = some ⟨router.routes ++ routes⟩ := by
  induction routes generalizing router with
  | nil => rw [List.append_nil]; rfl
  | cons route routes ih =>
    have first : router.add? refuses route = some ⟨router.routes ++ [route]⟩ := by
      refine add?_eq_some sparing (written route List.mem_cons_self) ?_
      intro other member
      exact (List.pairwise_append.mp apart).2.2 other member route List.mem_cons_self
    have rest := ih ⟨router.routes ++ [route]⟩
      (fun other member => written other (List.mem_cons_of_mem _ member))
      (by rw [List.append_assoc]; exact apart)
    rw [addAll?, List.foldlM_cons, first]
    rw [List.append_assoc] at rest
    exact rest

/-- A way to dispatch paths by the routes of a router under which a capture takes exactly one
    segment that is not empty: a path goes to a route that it fits, if there is one. -/
structure IsDispatch (router : Router α) (dispatch : String → Option α) : Prop where
  sound : ∀ {path target}, dispatch path = some target →
    ∃ route ∈ router.routes, route.2 = target ∧ Fits (readPattern route.1) (pathSegments path)
  complete : ∀ {path} {route}, route ∈ router.routes →
    Fits (readPattern route.1) (pathSegments path) → dispatch path ≠ none

/-- Where a path leads unless something empty is captured on the way. -/
def findFilled? (router : Router α) (path : String) : Option α :=
  ((router.find? path).filter fun found => !found.2.contains "").map (·.1)

theorem isDispatch_findFilled? {router : Router α} (apart : AreApart router.rows) :
    router.IsDispatch router.findFilled? where
  sound := by
    intro path target found
    obtain ⟨⟨a, taken⟩, kept, rfl⟩ := Option.map_eq_some_iff.mp found
    obtain ⟨walked, filled⟩ := Option.filter_eq_some_iff.mp kept
    obtain ⟨pattern, row, matched⟩ := exists_of_walk walked
    obtain ⟨route, member, same⟩ := List.mem_map.mp row
    rw [Prod.mk.injEq] at same
    obtain ⟨rfl, rfl⟩ := same
    exact ⟨route, member, rfl, fits_iff_matchSegments?.mpr ⟨taken, matched, by simpa using filled⟩⟩
  complete := by
    intro path route member fits
    obtain ⟨taken, matched, filled⟩ := fits_iff_matchSegments?.mp fits
    have row : (readPattern route.1, route.2) ∈ router.rows := List.mem_map_of_mem member
    obtain ⟨⟨a, others⟩, found⟩ := Option.ne_none_iff_exists'.mp (walk_ne_none row matched)
    obtain ⟨pattern, otherRow, otherMatched⟩ := exists_of_walk found
    have same := apart.eq_of_matches row otherRow matched otherMatched
    cases same
    rw [matched] at otherMatched
    cases otherMatched
    have kept : (router.find? path).filter (fun found => !found.2.contains "") =
        some (route.2, taken) := by
      rw [find?, found]
      simpa using filled
    rw [findFilled?, kept]
    simp

end Router

end Gatehouse.Http
