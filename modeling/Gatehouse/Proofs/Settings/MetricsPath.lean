import Gatehouse.App.Route
import Gatehouse.Proofs.Http.Router
import Gatehouse.Settings.MetricsPath

/-!
# Which paths may serve the metrics

A path may serve the metrics if it stands for itself in a router, and on a shared port if
no route of the application fits it.
-/

namespace Gatehouse.Settings

open App (Route)
open Http (Fits pathSegments)

/-- A path that stands for itself in a router. -/
structure IsPlainPath (path : String) : Prop where
  absolute : path.toList.head? = some '/'
  noBrace : ∀ c ∈ path.toList, c ≠ '\x7b' ∧ c ≠ '\x7d'
  noWildcard : ∀ s ∈ pathSegments path, s.toList.head? ≠ some '*' ∧ s.toList.head? ≠ some ':'

theorem isWildcard_eq_false_iff {segment : List Char} :
    isWildcard segment = false ↔ segment.head? ≠ some '*' ∧ segment.head? ≠ some ':' := by
  cases segment with
  | nil => simp [isWildcard]
  | cons c cs => simp [isWildcard]

theorem isLiteralPath_iff {path : String} :
    isLiteralPath path = true ↔ (∀ c ∈ path.toList, c ≠ '\x7b' ∧ c ≠ '\x7d') ∧
      ∀ s ∈ pathSegments path, s.toList.head? ≠ some '*' ∧ s.toList.head? ≠ some ':' := by
  rw [isLiteralPath, Bool.and_eq_true, Bool.not_eq_true', Bool.not_eq_true', List.any_eq_false,
    List.any_eq_false]
  refine and_congr ?_ ?_
  · simp
  · rw [pathSegments, List.forall_mem_map]
    refine forall₂_congr ?_
    intro segment _
    rw [String.toList_ofList, ← isWildcard_eq_false_iff, Bool.not_eq_true]

/-- A segment of a route that is in braces is the name of a capture. -/
theorem isBraced_eq {segment : String} (proper : Http.isRouteSegment segment = true) :
    isBraced segment = (Http.captureName? segment.toList).isSome := by
  rw [Http.isRouteSegment, Bool.and_eq_true, Bool.or_eq_true] at proper
  rcases proper.2 with named | noBrace
  · rw [named]
    unfold Http.captureName? at named
    split at named
    · rename_i rest letters
      dsimp only at named
      split at named
      · rename_i capture
        rw [isBraced, letters, List.getLast?_cons, capture.1]
        rfl
      · cases named
    · cases named
  · have other (c : Char) (member : c ∈ segment.toList) : c ≠ '\x7b' := by
      have both := List.all_eq_true.mp noBrace c member
      rw [Bool.and_eq_true, bne_iff_ne] at both
      exact both.1
    unfold isBraced Http.captureName?
    cases letters : segment.toList with
    | nil => rfl
    | cons c rest =>
      have first := other c (letters ▸ List.mem_cons_self)
      simp [first]

/-- One segment of a route is compared with one of a path as the segment of a pattern is. -/
theorem segmentMatches_eq {r : String} (proper : Http.isRouteSegment r = true) (s : String) :
    (isBraced r && !s.isEmpty || r == s) =
      match Http.Segment.ofText r with
      | .literal text => s == text
      | .capture _ => !s.isEmpty := by
  rw [isBraced_eq proper, Http.Segment.ofText]
  cases named : Http.captureName? r.toList with
  | none =>
    rw [Option.isSome_none, Bool.false_and, Bool.false_or]
    exact Bool.beq_comm
  | some name =>
    have filled : r ≠ "" := by
      rintro rfl
      cases named
    by_cases same : r = s
    · subst same
      simp [filled]
    · simp [same]

/-- A route is compared with a path as its pattern is. -/
theorem routeMatches_iff {route path : String} (proper : Http.isRoutePath route = true) :
    routeMatches route path = true ↔ Fits (Http.readPattern route) (pathSegments path) := by
  rw [Http.isRoutePath, Bool.and_eq_true] at proper
  rw [← Http.coversSegments_iff, routeMatches, Http.readPattern]
  have each := List.all_eq_true.mp proper.2
  generalize pathSegments route = segments at each ⊢
  generalize pathSegments path = asked
  induction segments generalizing asked with
  | nil => cases asked <;> simp [Http.coversSegments]
  | cons r segments ih =>
    cases asked with
    | nil => cases segment : Http.Segment.ofText r <;> simp [Http.coversSegments, segment]
    | cons s asked =>
      have rest := ih (fun other member => each other (List.mem_cons_of_mem _ member)) asked
      have first := segmentMatches_eq (each r List.mem_cons_self) s
      rw [List.map_cons, List.zip_cons_cons, List.all_cons, List.length_cons, List.length_cons]
      dsimp only
      rw [first]
      cases segment : Http.Segment.ofText r <;>
        simp only [segment, Http.coversSegments, Bool.and_eq_true, ← rest, beq_iff_eq,
          Nat.add_right_cancel_iff] <;>
        tauto

/-- The paths that are checked are those of the routes. -/
theorem mem_applicationPaths {path : String} :
    path ∈ applicationPaths ↔ ∃ route : Route, route.path = path := by
  constructor
  · intro member
    simp only [applicationPaths, List.mem_cons, List.not_mem_nil, or_false] at member
    rcases member with rfl | rfl | rfl | rfl | rfl | rfl | rfl | rfl | rfl
    · exact ⟨.hello, rfl⟩
    · exact ⟨.sendMail, rfl⟩
    · exact ⟨.listModels, rfl⟩
    · exact ⟨.userDefinedConfig, rfl⟩
    · exact ⟨.migrateStatus, rfl⟩
    · exact ⟨.profile, rfl⟩
    · exact ⟨.login, rfl⟩
    · exact ⟨.logout, rfl⟩
    · exact ⟨.callback, rfl⟩
  · rintro ⟨route, rfl⟩
    cases route <;> decide

/-- The routes as they are written in the router have the patterns that the metrics path is
    checked against. -/
theorem readPattern_path (route : Route) : Http.readPattern route.path = route.pattern := by
  cases route <;> decide

theorem isRoutePath_path (route : Route) : Http.isRoutePath route.path = true := by
  cases route <;> decide

theorem isApplicationPath_iff {path : String} :
    isApplicationPath path = true ↔ ∃ route : Route, Fits route.pattern (pathSegments path) := by
  rw [isApplicationPath, List.any_eq_true]
  constructor
  · rintro ⟨written, member, fits⟩
    obtain ⟨route, rfl⟩ := mem_applicationPaths.mp member
    rw [routeMatches_iff (isRoutePath_path route), readPattern_path] at fits
    exact ⟨route, fits⟩
  · rintro ⟨route, fits⟩
    refine ⟨route.path, mem_applicationPaths.mpr ⟨route, rfl⟩, ?_⟩
    rwa [routeMatches_iff (isRoutePath_path route), readPattern_path]

/-- What may serve the metrics. -/
theorem metricsPathFault?_eq_none_iff {path : String} {shared : Bool} :
    metricsPathFault? path shared = none ↔ IsPlainPath path ∧
      (shared = true → ∀ route : Route, ¬Fits route.pattern (pathSegments path)) := by
  have free : (shared && isApplicationPath path) = false ↔
      (shared = true → ∀ route : Route, ¬Fits route.pattern (pathSegments path)) := by
    rw [Bool.and_eq_false_imp]
    refine imp_congr_right fun _ => ?_
    rw [← Bool.not_eq_true, isApplicationPath_iff, not_exists]
  rw [← free, metricsPathFault?]
  constructor
  · intro accepted
    split at accepted
    · cases accepted
    · rename_i absolute
      split at accepted
      · cases accepted
      · rename_i literal
        split at accepted
        · cases accepted
        · rename_i apart
          rw [Bool.not_eq_true', Bool.not_eq_false, isLiteralPath_iff] at literal
          exact ⟨⟨not_not.mp absolute, literal.1, literal.2⟩, by simpa using apart⟩
  · rintro ⟨plain, apart⟩
    have literal : isLiteralPath path = true := isLiteralPath_iff.mpr ⟨plain.noBrace, plain.noWildcard⟩
    simp [plain.absolute, literal, apart]

namespace IsPlainPath

variable {path : String}

theorem noBrace_segment (plain : IsPlainPath path) {s : String} (member : s ∈ pathSegments path) :
    ∀ c ∈ s.toList, c ≠ '\x7b' ∧ c ≠ '\x7d' := by
  obtain ⟨piece, cut, rfl⟩ := List.mem_map.mp member
  intro c inside
  rw [String.toList_ofList] at inside
  exact plain.noBrace c (Text.mem_of_mem_splitBy cut inside)

theorem captureName?_segment (plain : IsPlainPath path) {s : String}
    (member : s ∈ pathSegments path) : Http.captureName? s.toList = none := by
  have noBrace := plain.noBrace_segment member
  unfold Http.captureName?
  split
  · rename_i rest letters
    exact absurd rfl (noBrace '\x7b' (letters ▸ List.mem_cons_self)).1
  · rfl

/-- A plain path is read as literals. -/
theorem readPattern_eq (plain : IsPlainPath path) :
    Http.readPattern path = (pathSegments path).map .literal := by
  refine List.map_congr_left ?_
  intro s member
  rw [Http.Segment.ofText, plain.captureName?_segment member]

theorem isRoutePath (plain : IsPlainPath path) : Http.isRoutePath path = true := by
  rw [Http.isRoutePath, plain.absolute, Bool.and_eq_true, List.all_eq_true]
  refine ⟨rfl, ?_⟩
  intro s member
  obtain ⟨noStar, noColon⟩ := plain.noWildcard s member
  have noBrace : (s.toList.all fun c => c != '\x7b' && c != '\x7d') = true := by
    simpa using plain.noBrace_segment member
  rw [Http.isRouteSegment, noBrace, Bool.or_true, Bool.and_true, Bool.and_eq_true, bne_iff_ne,
    bne_iff_ne]
  exact ⟨noColon, noStar⟩

end IsPlainPath

end Gatehouse.Settings
