import Gatehouse.Proofs.App.State
import Gatehouse.Proofs.Cookie.Attributes

/-!
# The attributes of the application's cookies

What a user agent reads from the headers of the store under an accepted configuration: the
name, a value without white space, and the attributes that are meant, unless the base path
is cut or trimmed on the way.
-/

namespace Gatehouse.Session

open App (localVariables)
open Cookie (Attribute)
open Settings (Config Variables)

/-- Which cookie an action sets, and for how long. -/
inductive Action.Sets : Action → (name : String) → (lifetime : List Attribute) → Prop where
  | save (user : User) : Sets (.save user) sessionName [⟨"Max-Age", some "2592000"⟩]
  | saveFlow (flow : Flow) : Sets (.saveFlow flow) flowName [⟨"Max-Age", some "600"⟩]
  | invalidate : Sets .invalidate sessionName
    [⟨"Max-Age", some "0"⟩, ⟨"Expires", some "Thu, 01 Jan 1970 00:00:00 GMT"⟩]
  | clearFlow : Sets .clearFlow flowName
    [⟨"Max-Age", some "0"⟩, ⟨"Expires", some "Thu, 01 Jan 1970 00:00:00 GMT"⟩]

/-- What a user agent should read of a cookie for a path. -/
def meantAttributes (path : String) (lifetime : List Attribute) : List Attribute :=
  [⟨"HttpOnly", none⟩, ⟨"SameSite", some "Lax"⟩, ⟨"Path", some path⟩] ++ lifetime

section Reading

variable {store : Store} {path name : String} {action : Action} {lifetime : List Attribute}

/-- The one cookie of an action is for the path of the store. -/
theorem Action.Sets.exists_cookie (sets : action.Sets name lifetime)
    (options : store.options = .ofPath path) :
    ∃ cookie texts, store.cookies action = [cookie] ∧ cookie.name = name ∧ cookie.path = path ∧
      cookie.attributes = ["HttpOnly", "SameSite=Lax", "Path=" ++ path] ++ texts ∧
      texts.map (Attribute.ofText ∘ Text.trim) = lifetime := by
  obtain ⟨key, given⟩ := store
  cases options
  cases sets with
  | save user => exact ⟨_, ["Max-Age=2592000"], rfl, rfl, rfl, rfl, by decide⟩
  | saveFlow flow => exact ⟨_, ["Max-Age=600"], rfl, rfl, rfl, rfl, by decide⟩
  | invalidate =>
    exact ⟨_, ["Max-Age=0", "Expires=Thu, 01 Jan 1970 00:00:00 GMT"], rfl, rfl, rfl, rfl, by decide⟩
  | clearFlow =>
    exact ⟨_, ["Max-Age=0", "Expires=Thu, 01 Jan 1970 00:00:00 GMT"], rfl, rfl, rfl, rfl, by decide⟩

theorem Action.Sets.managed (sets : action.Sets name lifetime) : name ∈ managedNames := by
  cases sets <;> decide

/-- An action sends one header, with the name of its cookie, and one attribute more than it should
    for each semicolon in the path. -/
theorem Action.Sets.exists_reading (sets : action.Sets name lifetime)
    (options : store.options = .ofPath path) (field : Http.isFieldValue path = true) :
    ∃ header reading, Cookie.headers (store.cookies action) = [header] ∧
      Cookie.Reading.ofHeader? header = some reading ∧ reading.name = name ∧
      (∀ c ∈ reading.value.toList, Text.isBlank c = false) ∧
      reading.attributes.length =
        (meantAttributes path lifetime).length + path.toList.countP (· == ';') ∧
      ((∀ c ∈ path.toList, c ≠ ';') → reading.attributes.map Attribute.ofText =
        meantAttributes (.ofList (Text.trimBy Text.isBlank
          (Text.dropWhileEnd Text.isBlank path.toList))) lifetime) := by
  obtain ⟨cookie, texts, cookies, rfl, rfl, attributes, rfl⟩ := sets.exists_cookie options
  obtain ⟨others, read⟩ := Cookie.Reading.exists_ofHeader?_header cookie
  have sent : Cookie.headers (store.cookies action) = [cookie.header] := by
    rw [cookies, Cookie.headers_eq_map (List.forall_mem_singleton.mpr field), List.map_singleton]
  refine ⟨cookie.header, _, sent, read, encodePart_managed _ sets.managed, ?_, ?_, ?_⟩
  · intro c member
    exact Ascii.isBlank_of_isVisible (Cookie.mem_encodePart member).1
  · rw [Cookie.Reading.length_attributes read, attributes, meantAttributes]
    simp
  · intro whole
    rw [Cookie.Reading.ofHeader?_header cookie whole, Option.some.injEq] at read
    cases read
    have flag : Attribute.ofText (Text.trim "HttpOnly") = ⟨"HttpOnly", none⟩ := by decide
    have site : Attribute.ofText (Text.trim "SameSite=Lax") = ⟨"SameSite", some "Lax"⟩ := by decide
    rw [attributes, meantAttributes, ← Attribute.ofText_trim_path]
    simp [flag, site]

theorem meantAttributes_perm_iff {other : String} :
    (meantAttributes other lifetime).Perm (meantAttributes path lifetime) ↔ other = path := by
  simp only [meantAttributes, List.perm_append_right_iff, List.perm_cons,
    List.singleton_perm_singleton, Attribute.mk.injEq, Option.some.injEq, true_and]

end Reading

/-- Under an accepted configuration each action sends one header, which a user agent reads with the
    managed name, a value without white space, and exactly the attributes that are meant if and only
    if the base path holds no semicolon and no white space at its ends. -/
theorem Store.attributes_perm_iff {env : Variables} {config : Config}
    (accepted : Config.ofVariables env = .ok config) {action : Action} {name : String}
    {lifetime : List Attribute} (sets : action.Sets name lifetime) :
    let store := Store.ofSecret config.session.secretKey config.session.options
    ∃ header reading, Cookie.headers (store.cookies action) = [header] ∧
      Cookie.Reading.ofHeader? header = some reading ∧ reading.name = name ∧
      (∀ c ∈ reading.value.toList, Text.isBlank c = false) ∧
      ((reading.attributes.map Attribute.ofText).Perm (meantAttributes config.basePath lifetime) ↔
        (∀ c ∈ config.basePath.toList, c ≠ ';') ∧
          Text.trim config.basePath = config.basePath) := by
  intro store
  have coherent := Config.isCoherent_ofVariables accepted
  have options : store.options = .ofPath config.basePath := coherent.options
  obtain ⟨header, reading, sent, read, named, plain, length, meant⟩ :=
    sets.exists_reading options coherent.isFieldValue_basePath
  refine ⟨header, reading, sent, read, named, plain, ?_⟩
  have trimmed : String.ofList (Text.trimBy Text.isBlank
      (Text.dropWhileEnd Text.isBlank config.basePath.toList)) = config.basePath ↔
        Text.trim config.basePath = config.basePath := by
    rw [Text.trim, ← String.toList_inj, ← String.toList_inj, String.toList_ofList,
      String.toList_ofList, Text.trimBy_dropWhileEnd_eq_iff]
  constructor
  · intro same
    have none : config.basePath.toList.countP (· == ';') = 0 := by
      have pieces := same.length_eq
      rw [List.length_map] at pieces
      omega
    have whole : ∀ c ∈ config.basePath.toList, c ≠ ';' := by
      simpa [List.countP_eq_zero] using none
    rw [meant whole, meantAttributes_perm_iff, trimmed] at same
    exact ⟨whole, same⟩
  · rintro ⟨whole, ends⟩
    rw [meant whole, meantAttributes_perm_iff, trimmed]
    exact ends

/-- An accepted configuration by evaluation of its base path. -/
theorem exists_ofVariables (env : Variables) (path : String)
    (shown : (Config.ofVariables env).toOption.map (·.basePath) = some path) :
    ∃ config, Config.ofVariables env = .ok config ∧ config.basePath = path := by
  obtain ⟨config, accepted, same⟩ := Option.map_eq_some_iff.mp shown
  exact ⟨config, eq_ok_of_toOption accepted, same⟩

/-- The cookie that ends a login in progress is read as it is meant under `/app`. -/
theorem Store.attributes_perm_iff_app :
    ∃ config, Config.ofVariables localVariables = .ok config ∧ config.basePath = "/app" ∧
      ∃ header reading,
        Cookie.headers ((Store.ofSecret config.session.secretKey config.session.options).cookies
          .clearFlow) = [header] ∧
        Cookie.Reading.ofHeader? header = some reading ∧ reading.name = "_auth_state" ∧
        (reading.attributes.map Attribute.ofText).Perm
          [⟨"HttpOnly", none⟩, ⟨"SameSite", some "Lax"⟩, ⟨"Path", some "/app"⟩,
            ⟨"Max-Age", some "0"⟩, ⟨"Expires", some "Thu, 01 Jan 1970 00:00:00 GMT"⟩] := by
  obtain ⟨config, accepted, path⟩ := exists_ofVariables localVariables "/app" (by decide +kernel)
  obtain ⟨header, reading, sent, read, named, -, same⟩ :=
    Store.attributes_perm_iff accepted .clearFlow
  refine ⟨config, accepted, path, header, reading, sent, read, named, ?_⟩
  rw [path] at same
  exact same.mpr ⟨List.all_iff_forall_prop.mp (by decide), by decide⟩

/-- Variables of an application whose base path has a semicolon. -/
def semicolonVariables : Variables :=
  [("APP_BASE_URL", "http://localhost:8080/app;Secure"), ("APP_SECRET_KEY", "secret"),
    ("APP_OIDC_REDIRECT_PATH", "/auth/openid-connect/callback")]

/-- A base path with a semicolon is accepted, and the cookie that ends a login in progress has an
    attribute more than it should. -/
theorem Store.attributes_semicolon :
    ∃ config, Config.ofVariables semicolonVariables = .ok config ∧
      config.basePath = "/app;Secure" ∧
      ∃ header reading,
        Cookie.headers ((Store.ofSecret config.session.secretKey config.session.options).cookies
          .clearFlow) = [header] ∧
        Cookie.Reading.ofHeader? header = some reading ∧
        ¬(reading.attributes.map Attribute.ofText).Perm
          [⟨"HttpOnly", none⟩, ⟨"SameSite", some "Lax"⟩, ⟨"Path", some config.basePath⟩,
            ⟨"Max-Age", some "0"⟩, ⟨"Expires", some "Thu, 01 Jan 1970 00:00:00 GMT"⟩] := by
  obtain ⟨config, accepted, path⟩ := exists_ofVariables semicolonVariables "/app;Secure"
    (by decide +kernel)
  have coherent := Config.isCoherent_ofVariables accepted
  have options : (Store.ofSecret config.session.secretKey config.session.options).options =
      .ofPath config.basePath := coherent.options
  obtain ⟨header, reading, sent, read, -, -, length, -⟩ :=
    Action.Sets.clearFlow.exists_reading options coherent.isFieldValue_basePath
  refine ⟨config, accepted, path, header, reading, sent, read, fun same => ?_⟩
  have pieces := same.length_eq
  rw [List.length_map, length, path] at pieces
  exact absurd pieces (by decide)

end Gatehouse.Session
