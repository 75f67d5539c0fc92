import Gatehouse.Authz.Models
import Gatehouse.Proofs.Json.Numerals
import Gatehouse.Proofs.Json.Objects
import Gatehouse.Proofs.Json.Records

/-!
# Authorization models read back

What is kept of an answer with models comes back from its JSON form: the same models in the same
order, if the numbers in the type definitions are integers of 64 bits.
-/

namespace Gatehouse.Authz

open Json (Reader IsWhole Spells)

/-- The numerals of the items of a list. -/
def listNumerals (lists : Except Json.Stop (List (List (List UInt8)) × List UInt8)) :
    List (List UInt8) :=
  match lists with
  | .ok (lists, _) => lists.flatten
  | .error _ => []

namespace Model

/-- The numerals in front of a member of a model: those of its type definitions. -/
def note (name : String) (depth : Nat) (input : List UInt8) : List (List UInt8) :=
  if name = "type_definitions" then listNumerals (Json.readList Json.readNumerals depth input)
  else []

/-- Reads a model for the numerals of its type definitions. -/
def readNumerals (depth : Nat) : Reader (List (List UInt8)) := fun input =>
  ((modelShape.noting note).read (⟨none, none, none⟩, []) depth input).map
    fun ((_, numerals), rest) => (numerals, rest)

/-- The type definitions of a model are kept with integers only. -/
def Kept (depth : Nat) (model : Model) : Prop :=
  ∀ v ∈ model.typeDefinitions, v.Kept depth

end Model

namespace ModelsPage

/-- The numerals in front of a member of a page: those of its models. -/
def note (name : String) (depth : Nat) (input : List UInt8) : List (List UInt8) :=
  if name = "authorization_models" then listNumerals (Json.readList Model.readNumerals depth input)
  else []

/-- The numerals in the type definitions of the models of a page, as they stand in its text. -/
def numerals (octets : List UInt8) : List (List UInt8) :=
  match (pageShape.noting note).read (⟨none, none⟩, []) Json.maxDepth octets with
  | .ok ((_, numerals), _) => numerals
  | .error _ => []

end ModelsPage

section Reading

variable {depth : Nat} {input rest : List UInt8}

/-- What the numerals in front of the members of a model tell of what has been read of it. -/
def ModelDraft.Told (depth : Nat) (draft : ModelDraft) (numerals : List (List UInt8)) : Prop :=
  (∀ numeral ∈ numerals, IsWhole numeral) →
    ∀ values ∈ draft.typeDefinitions, ∀ v ∈ values, v.Kept depth

theorem ModelDraft.Told.append {draft : ModelDraft} {numerals : List (List UInt8)}
    (told : draft.Told depth numerals) (more : List (List UInt8)) :
    draft.Told depth (numerals ++ more) :=
  fun whole => told fun numeral of => whole numeral (List.mem_append_left more of)

theorem ModelDraft.told_blank : Told depth ⟨none, none, none⟩ [] := by
  rintro - _ ⟨⟩

theorem ModelDraft.told_of_fill {m : Json.Member ModelDraft} (member : m ∈ modelShape.members)
    {draft filled : ModelDraft} {numerals : List (List UInt8)} (told : draft.Told depth numerals)
    (fill : m.fill (depth + 1) draft input = .ok (filled, rest)) :
    filled.Told depth (numerals ++ Model.note m.name (depth + 1) input) := by
  simp only [modelShape, List.mem_cons, List.not_mem_nil, or_false] at member
  rcases member with rfl | rfl | rfl
  · obtain ⟨⟨s, after⟩, -, same⟩ := exists_of_map_eq_ok fill
    cases same
    exact told.append _
  · obtain ⟨⟨s, after⟩, -, same⟩ := exists_of_map_eq_ok fill
    cases same
    exact told.append _
  · obtain ⟨⟨values, after⟩, list, same⟩ := exists_of_map_eq_ok fill
    cases same
    obtain ⟨found, noted, each⟩ := Json.exists_readList (fun _ _ _ => Json.numeralsTell) list
    rintro whole _ ⟨⟩ v inside
    obtain ⟨of, member, kept⟩ := each v inside
    refine kept fun numeral one => whole numeral (List.mem_append_right _ ?_)
    rw [Model.note, if_pos rfl, noted]
    exact List.mem_flatten_of_mem member one

/-- The numerals of a model are found where the model is read, and tell how it is kept. -/
theorem Model.exists_readNumerals {model : Model}
    (read : reader (depth + 2) input = .ok (model, rest)) :
    ∃ numerals, readNumerals (depth + 2) input = .ok (numerals, rest) ∧
      ((∀ numeral ∈ numerals, IsWhole numeral) → model.Kept depth) := by
  obtain ⟨⟨draft, after⟩, shape, same⟩ := exists_of_map_eq_ok read
  cases same
  obtain ⟨numerals, noted, told⟩ := Json.Shape.exists_notes_of_read (P := ModelDraft.Told depth)
    (fun m member _ _ _ _ _ => ModelDraft.told_of_fill member) ModelDraft.told_blank shape
  refine ⟨numerals, ?_, fun whole v inside => ?_⟩
  · rw [readNumerals, noted]
    rfl
  · cases defined : draft.typeDefinitions with
    | none =>
      rw [defined] at inside
      cases inside
    | some values =>
      rw [defined] at inside
      exact told whole values defined v inside

/-- What the numerals in front of the members of a page tell of what has been read of it.  The page,
    the list of its models, a model and the list of its definitions take four of the levels. -/
def PageDraft.Told (draft : PageDraft) (numerals : List (List UInt8)) : Prop :=
  (∀ numeral ∈ numerals, IsWhole numeral) →
    ∀ models ∈ draft.models, ∀ model ∈ models, model.Kept 123

theorem PageDraft.Told.append {draft : PageDraft} {numerals : List (List UInt8)}
    (told : draft.Told numerals) (more : List (List UInt8)) : draft.Told (numerals ++ more) :=
  fun whole => told fun numeral of => whole numeral (List.mem_append_left more of)

theorem PageDraft.told_blank : Told ⟨none, none⟩ [] := by
  rintro - _ ⟨⟩

theorem PageDraft.told_of_fill {m : Json.Member PageDraft} (member : m ∈ pageShape.members)
    {draft filled : PageDraft} {numerals : List (List UInt8)} (told : draft.Told numerals)
    (fill : m.fill 126 draft input = .ok (filled, rest)) :
    filled.Told (numerals ++ ModelsPage.note m.name 126 input) := by
  simp only [pageShape, List.mem_cons, List.not_mem_nil, or_false] at member
  rcases member with rfl | rfl
  · obtain ⟨⟨models, after⟩, list, same⟩ := exists_of_map_eq_ok fill
    cases same
    obtain ⟨found, noted, each⟩ :=
      Json.exists_readList (fun _ _ _ => Model.exists_readNumerals) list
    rintro whole _ ⟨⟩ model inside
    obtain ⟨of, member, kept⟩ := each model inside
    refine kept fun numeral one => whole numeral (List.mem_append_right _ ?_)
    rw [ModelsPage.note, if_pos rfl, noted]
    exact List.mem_flatten_of_mem member one
  · obtain ⟨⟨token, after⟩, -, same⟩ := exists_of_map_eq_ok fill
    cases same
    exact told.append _

theorem ModelsPage.kept_of_ofJson {octets : List UInt8} {page : ModelsPage}
    (read : ofJson octets = .ok page) (whole : ∀ numeral ∈ numerals octets, IsWhole numeral) :
    ∀ model ∈ page.models, model.Kept 123 := by
  obtain ⟨rest, read, -⟩ := Json.read_eq_ok_iff.mp read
  obtain ⟨⟨draft, after⟩, shape, same⟩ := exists_of_map_eq_ok read
  cases same
  obtain ⟨found, noted, told⟩ := Json.Shape.exists_notes_of_read (P := PageDraft.Told)
    (fun m member _ _ _ _ _ => PageDraft.told_of_fill member) PageDraft.told_blank shape
  have all : numerals octets = found := by
    rw [numerals, Json.maxDepth, noted]
  rw [all] at whole
  intro model inside
  cases given : draft.models with
  | none =>
    rw [given] at inside
    cases inside
  | some models =>
    rw [given] at inside
    exact told whole models given model inside

end Reading

section Writing

theorem modelShape_collects {depth : Nat} {model : Model} (kept : model.Kept depth) :
    modelShape.Collects (depth + 1) ⟨none, none, none⟩
      [("id", Json.writeText model.id), ("schema_version", Json.writeText model.schemaVersion),
        ("type_definitions", (Json.Value.list model.typeDefinitions).write)]
      ⟨some model.id, some model.schemaVersion, some model.typeDefinitions⟩ := by
  refine .known rfl rfl (Json.Member.text_reads _ _ _ _ _ _ _) ?_
  refine .known rfl rfl (Json.Member.text_reads _ _ _ _ _ _ _) ?_
  refine .known rfl rfl (fun rest closes => ?_) (.done _)
  have each : List.Forall₂ (Spells (Json.readValue depth))
      (Json.writeValues model.typeDefinitions) model.typeDefinitions := by
    rw [Json.writeValues_eq, List.forall₂_map_left_iff, List.forall₂_same]
    exact fun v inside => (kept v inside).spells
  have list := (Spells.list each).reads rest closes
  dsimp only
  rw [Json.Value.write, list]
  rfl

/-- A model is read back from its JSON form. -/
theorem Model.spells {depth : Nat} {model : Model} (kept : model.Kept depth) :
    Spells (reader (depth + 2)) model.json model :=
  (Json.Shape.spells_of_collects (modelShape_collects kept) rfl).map fun draft : ModelDraft =>
    (⟨draft.id.getD "", draft.schemaVersion.getD "", draft.typeDefinitions.getD []⟩ : Model)

theorem readOptionalString_writeOptionalText (text : Option String) (rest : List UInt8) :
    Json.readOptionalString (Utf8.octets (Json.writeOptionalText text) ++ rest) =
      .ok (text, rest) := by
  cases text with
  | none => rfl
  | some s =>
    have string := Json.readString_writeText (List.forall_mem_nil (Json.isSpace · = true)) s rest
    rw [List.nil_append] at string
    rw [Json.writeOptionalText]
    rw [Json.octets_writeText, List.cons_append] at string ⊢
    rw [Json.readOptionalString, Json.skipSpace_quote]
    dsimp only
    rw [if_neg (by decide), string]
    rfl

theorem pageShape_collects {page : ModelsPage} (kept : ∀ model ∈ page.models, model.Kept 123) :
    pageShape.Collects 126 ⟨none, none⟩
      [("authorization_models", Json.writeList (page.models.map Model.json)),
        ("continuation_token", Json.writeOptionalText page.continuationToken)]
      ⟨some page.models, some page.continuationToken⟩ := by
  have token : pageShape.Collects 126 ⟨some page.models, none⟩
      [("continuation_token", Json.writeOptionalText page.continuationToken)]
      ⟨some page.models, some page.continuationToken⟩ := by
    refine .known rfl rfl (fun rest _ => ?_) (.done _)
    dsimp only
    rw [readOptionalString_writeOptionalText]
    rfl
  refine .known rfl rfl (fun rest closes => ?_) token
  have each : List.Forall₂ (Spells (Model.reader 125)) (page.models.map Model.json)
      page.models := by
    rw [List.forall₂_map_left_iff, List.forall₂_same]
    exact fun model inside => Model.spells (kept model inside)
  have list := (Spells.list each).reads rest closes
  dsimp only
  rw [list]
  rfl

theorem ModelsPage.ofJson_json {page : ModelsPage}
    (kept : ∀ model ∈ page.models, model.Kept 123) :
    ofJson (Utf8.octets page.json) = .ok page := by
  have draft := Json.Shape.spells_of_collects (pageShape_collects kept) rfl
  have spelled := draft.map fun draft : PageDraft =>
    (⟨draft.models.getD [], draft.continuationToken.getD none⟩ : ModelsPage)
  have whole := spelled.reads [] nofun
  rw [List.append_nil] at whole
  exact Json.read_of_ok whole

end Writing

/-- An answer with models survives being written.  A page that is read from a text whose type
    definitions have the numerals of integers only, however the text spells it, is read back from
    its own JSON form, with the same models in the same order, and has the same JSON form again. -/
theorem ModelsPage.ofJson_json_of_isWhole {octets : List UInt8} {page : ModelsPage}
    (read : ofJson octets = .ok page) (whole : ∀ numeral ∈ numerals octets, IsWhole numeral) :
    ∃ again, ofJson (Utf8.octets page.json) = .ok again ∧ again = page ∧
      again.models = page.models ∧ again.json = page.json :=
  ⟨page, ofJson_json (kept_of_ofJson read whole), rfl, rfl, rfl⟩

/-- The numerals are those of the definitions only, and all of them. -/
example :
    let model := "\x7b\"y\":-0,\"type_definitions\":[\x7b\"a\":1e2,\"a\":3\x7d],\"id\":\"m\"\x7d"
    let page := "\x7b\"x\":0.5,\"authorization_models\":[" ++ model ++ "]\x7d"
    ModelsPage.numerals (Utf8.octets page) = [Utf8.octets "1e2", Utf8.octets "3"] := by
  decide +kernel

/-- A page whose record and model are spelled as lists; a definition has a member twice. -/
theorem ModelsPage.ofJson_json_of_isWhole_lists :
    let octets := Utf8.octets "[[[\"m\",\"1.1\",[\x7b\"b\":[1,-5],\"a\":7,\"\\u0061\":null\x7d]]]]"
    ∃ page, ofJson octets = .ok page ∧ (∀ numeral ∈ numerals octets, IsWhole numeral) ∧
      ∃ again, ofJson (Utf8.octets page.json) = .ok again ∧ again = page ∧
        again.models = page.models ∧ again.json = page.json := by
  intro octets
  have all : numerals octets = [Utf8.octets "1", Utf8.octets "-5", Utf8.octets "7"] := by
    decide +kernel
  have whole : ∀ numeral ∈ numerals octets, IsWhole numeral := by
    rw [all]
    simp only [List.forall_mem_cons]
    exact ⟨⟨1, by decide, rfl⟩, ⟨-5, by decide, rfl⟩, ⟨7, by decide, rfl⟩, nofun⟩
  have accepted : (ofJson octets).toOption.isSome = true := by decide +kernel
  obtain ⟨page, found⟩ := Option.isSome_iff_exists.mp accepted
  have read := eq_ok_of_toOption found
  exact ⟨page, read, whole, ofJson_json_of_isWhole read whole⟩

end Gatehouse.Authz
