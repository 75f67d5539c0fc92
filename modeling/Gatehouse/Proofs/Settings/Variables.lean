import Gatehouse.Settings.Config
import Mathlib.Data.List.Nodup
import Mathlib.Data.List.TakeWhile

/-!
# What variables a configuration depends on

A name without a step into its value stands for itself in lower case, and one with a step
for its root.  So a configuration depends on the values of the known variables and on
nothing else, as long as no two names are the same in lower case and no step leads into a
known variable.
-/

namespace Gatehouse.Settings

open Text (lowercase)

/-- The names of the known variables in lower case. -/
def knownNames : List String := variableNames.map lowercase

/-- Whether a character begins a step from a name into its value. -/
def beginsStep (c : Char) : Bool := c == '.' || c == '['

/-- Whether a name has no step into its value. -/
def isPlainName (name : String) : Bool := !(lowercase name).toList.any beginsStep

/-- The part of a name in front of its first step. -/
def rootOf (name : String) : String :=
  .ofList ((lowercase name).toList.takeWhile (!beginsStep ·))

theorem knownNames_eq : knownNames =
    ["app_base_url", "app_secret_key", "app_oidc_redirect_path", "app_port", "app_metrics_port",
      "app_metrics_path", "app_oidc_client_id", "app_oidc_client_secret", "app_oidc_authorize_url",
      "app_oidc_access_token_url", "app_oidc_api_base_url", "app_oidc_user_url", "app_oidc_scopes",
      "app_user_defined_config", "app_tls_insecure_skip_verify", "smtp_host", "smtp_port",
      "smtp_user", "smtp_domain", "smtp_password", "smtp_transport_security",
      "postgresql_db_connect_string", "fga_http_api_url", "fga_store_id", "fga_token",
      "otel_exporter_otlp_endpoint", "otel_service_name"] := by
  decide +kernel

theorem beginsStep_eq_false_of_known {name : String} (known : name ∈ knownNames) :
    name.toList.any beginsStep = false := by
  rw [knownNames_eq] at known
  revert known
  revert name
  decide +kernel

theorem beginsStep_eq_false_of_isNameChar {c : Char} (letter : isNameChar c = true) :
    beginsStep c = false := by
  by_contra step
  rw [Bool.not_eq_false, beginsStep, Bool.or_eq_true, beq_iff_eq, beq_iff_eq] at step
  rcases step with rfl | rfl
  · exact absurd letter (by decide)
  · exact absurd letter (by decide)

/-- Behind a name there are only steps that begin like one. -/
theorem exists_of_readSteps_cons {limit : Nat} {cs : List Char} {step : PathStep}
    {steps : List PathStep} (read : readSteps limit cs = some (step :: steps)) :
    ∃ c rest, cs = c :: rest ∧ beginsStep c = true := by
  cases cs with
  | nil =>
    rw [readSteps] at read
    cases read
  | cons c rest =>
    refine ⟨c, rest, rfl, ?_⟩
    cases limit with
    | zero =>
      rw [readSteps] at read
      · cases read
      · simp
    | succ limit =>
      rw [readSteps] at read
      split at read
      · rename_i member
        rw [member]
        rfl
      · split at read
        · rename_i item
          rw [item]
          rfl
        · cases read

/-- The name of a path is the part in front of the first step. -/
theorem rootOf_of_readSteps {name : String} {step : PathStep} {steps : List PathStep}
    (read : readSteps (lowercase name).toList.length
      ((lowercase name).toList.dropWhile isNameChar) = some (step :: steps)) :
    isPlainName name = false ∧
      rootOf name = .ofList ((lowercase name).toList.takeWhile isNameChar) := by
  obtain ⟨c, rest, behind, step⟩ := exists_of_readSteps_cons read
  have whole : (lowercase name).toList.takeWhile isNameChar ++ c :: rest =
      (lowercase name).toList := by
    rw [← behind, List.takeWhile_append_dropWhile]
  have letters : ∀ d ∈ (lowercase name).toList.takeWhile isNameChar, (!beginsStep d) = true := by
    intro d member
    rw [beginsStep_eq_false_of_isNameChar (List.mem_takeWhile_imp member)]
    rfl
  generalize (lowercase name).toList.takeWhile isNameChar = root at whole letters ⊢
  constructor
  · rw [isPlainName, ← whole, Bool.not_eq_false', List.any_eq_true]
    exact ⟨c, List.mem_append_right _ List.mem_cons_self, step⟩
  · rw [rootOf, ← whole, List.takeWhile_append_of_pos letters,
      List.takeWhile_cons_of_neg (by rw [step]; decide), List.append_nil]

/-- A variable sets its name in lower case, or the root of its path to something else than a
    text. -/
theorem place_cases (name value : String) :
    place name value = (lowercase name, .text value) ∨
      isPlainName name = false ∧ (place name value).1 = rootOf name := by
  have path {step : PathStep} {steps : List PathStep}
      (read : (if ((lowercase name).toList.takeWhile isNameChar).isEmpty then none else
        readSteps (lowercase name).toList.length ((lowercase name).toList.dropWhile isNameChar)) =
          some (step :: steps)) :
      isPlainName name = false ∧
        rootOf name = .ofList ((lowercase name).toList.takeWhile isNameChar) := by
    split at read
    · cases read
    · exact rootOf_of_readSteps read
  unfold place
  dsimp only
  split
  · rename_i read
    obtain ⟨stepped, root⟩ := path read
    exact .inr ⟨stepped, root.symm⟩
  · rename_i read
    obtain ⟨stepped, root⟩ := path read
    exact .inr ⟨stepped, root.symm⟩
  · left
    rw [String.ofList_toList]

theorem place_of_isPlainName {name : String} (plain : isPlainName name = true) (value : String) :
    place name value = (lowercase name, .text value) := by
  rcases place_cases name value with same | ⟨stepped, -⟩
  · exact same
  · rw [plain] at stepped
    cases stepped

/-- The values that variables give to a name, whatever the case in which it is written. -/
def valuesOf (env : Variables) (name : String) : List String :=
  (env.filter (lowercase ·.1 == name)).map (·.2)

theorem mem_valuesOf {env : Variables} {name value : String} :
    value ∈ valuesOf env name ↔ ∃ given, (given, value) ∈ env ∧ lowercase given = name := by
  simp [valuesOf]

/-- Variables of which no two have one name in lower case, and of which none leads into a known
    one. -/
structure IsClear (env : Variables) : Prop where
  distinct : ((env.filter (isPlainName ·.1)).map (lowercase ·.1)).Nodup
  apart : ∀ entry ∈ env, isPlainName entry.1 = false → rootOf entry.1 ∉ knownNames

section Held

variable {env : Variables} {name given value : String}

/-- What a name holds has been put there by one of the variables. -/
theorem exists_of_held? {held : Held} (found : held? env name = some held) :
    ∃ given value, (given, value) ∈ env ∧ place given value = (name, held) := by
  rw [held?, List.findRev?_eq_find?_reverse, Option.map_eq_some_iff] at found
  obtain ⟨placed, found, rfl⟩ := found
  have member := List.mem_of_find?_eq_some found
  rw [List.mem_reverse, List.mem_map] at member
  obtain ⟨⟨given, value⟩, member, rfl⟩ := member
  have same := List.find?_some found
  rw [beq_iff_eq] at same
  exact ⟨given, value, member, by rw [← same]⟩

theorem exists_held?_of_mem (member : (given, value) ∈ env)
    (placed : (place given value).1 = name) : ∃ held, held? env name = some held := by
  rw [← Option.isSome_iff_exists, held?, List.findRev?_eq_find?_reverse, Option.isSome_map,
    List.find?_isSome]
  refine ⟨place given value, ?_, ?_⟩
  · rw [List.mem_reverse, List.mem_map]
    exact ⟨_, member, rfl⟩
  · rw [placed, beq_iff_eq]

theorem isPlainName_of_known (known : name ∈ knownNames) (same : lowercase given = name) :
    isPlainName given = true := by
  rw [isPlainName, same, beginsStep_eq_false_of_known known]
  rfl

/-- A known name is set by a variable of that name, and so to a text. -/
theorem IsClear.eq_of_place {held : Held} (clear : IsClear env) (known : name ∈ knownNames)
    (member : (given, value) ∈ env) (placed : place given value = (name, held)) :
    lowercase given = name ∧ held = .text value := by
  rcases place_cases given value with same | ⟨stepped, root⟩
  · rw [same, Prod.mk.injEq] at placed
    exact ⟨placed.1, placed.2.symm⟩
  · rw [placed] at root
    exact absurd (root ▸ known) (clear.apart _ member stepped)

/-- A known name holds what the variable of that name sets it to. -/
theorem held?_eq_some_iff (clear : IsClear env) (known : name ∈ knownNames) (held : Held) :
    held? env name = some held ↔ ∃ value ∈ valuesOf env name, held = .text value := by
  simp only [mem_valuesOf]
  constructor
  · intro found
    obtain ⟨given, value, member, placed⟩ := exists_of_held? found
    obtain ⟨lower, text⟩ := clear.eq_of_place known member placed
    exact ⟨value, ⟨given, member, lower⟩, text⟩
  · rintro ⟨value, ⟨given, member, lower⟩, rfl⟩
    have plain := isPlainName_of_known known lower
    obtain ⟨held, found⟩ := exists_held?_of_mem member (by
      rw [place_of_isPlainName plain, lower])
    obtain ⟨given', value', member', placed⟩ := exists_of_held? found
    obtain ⟨lower', rfl⟩ := clear.eq_of_place known member' placed
    -- Two variables of one name in lower case are one variable.
    have one := List.inj_on_of_nodup_map clear.distinct
      (List.mem_filter.mpr ⟨member, plain⟩)
      (List.mem_filter.mpr ⟨member', isPlainName_of_known known lower'⟩) (lower.trans lower'.symm)
    cases one
    exact found

/-- Variables that give the same value to a known name hold the same there. -/
theorem held?_congr {other : Variables} (clear : IsClear env) (clear' : IsClear other)
    (known : name ∈ knownNames) (agree : valuesOf env name = valuesOf other name) :
    held? env name = held? other name := by
  ext held
  rw [held?_eq_some_iff clear known, held?_eq_some_iff clear' known, agree]

end Held

theorem Raw.ofVariables_eq_of_held? {env other : Variables}
    (same : ∀ name ∈ knownNames, held? env name = held? other name) :
    Raw.ofVariables env = Raw.ofVariables other := by
  rw [knownNames_eq] at same
  simp (disch := decide) only [Raw.ofVariables, text?, port?, switch?, same]

/-- A configuration depends on the values of the known variables alone: not on the order of the
    variables, not on the case of their names, and not on any other variable. -/
theorem Config.ofVariables_congr {env other : Variables} (clear : IsClear env)
    (clear' : IsClear other)
    (agree : ∀ name ∈ knownNames, valuesOf env name = valuesOf other name) :
    Config.ofVariables env = Config.ofVariables other := by
  have same : Raw.ofVariables env = Raw.ofVariables other :=
    Raw.ofVariables_eq_of_held? fun name known => held?_congr clear clear' known (agree name known)
  rw [Config.ofVariables, Config.ofVariables, same]

/-- Three variables in another order and case, among others that lead elsewhere. -/
theorem Config.ofVariables_congr_crowded :
    let env : Variables :=
      [("APP_BASE_URL", "http://localhost:8080/app"), ("APP_SECRET_KEY", "secret"),
        ("APP_OIDC_REDIRECT_PATH", "/callback")]
    let other : Variables :=
      [("app.port", "1"), ("App_Oidc_Redirect_Path", "/callback"), ("PATH", "/bin"),
        ("app_secret_\u212aey", "secret"), ("APP[0]", "x"),
        ("app_base_url", "http://localhost:8080/app"), ("app port", "80")]
    Config.ofVariables env = Config.ofVariables other ∧ (Config.ofVariables other).isOk := by
  refine ⟨ofVariables_congr ?_ ?_ (by decide +kernel), by decide +kernel⟩
  · exact ⟨by decide +kernel, by decide +kernel⟩
  · exact ⟨by decide +kernel, by decide +kernel⟩

/-- A variable that leads into a known one is in its way. -/
example : (Config.ofVariables
    [("APP_BASE_URL", "http://localhost:8080/app"), ("APP_SECRET_KEY", "secret"),
      ("APP_OIDC_REDIRECT_PATH", "/callback"), ("APP_PORT.X", "1")]).isOk = false := by
  decide +kernel

end Gatehouse.Settings
