import Gatehouse.Json.Record
import Gatehouse.Json.Writer

/-!
# Authorization models

The answer of the authorization service to the question for the models of a store.
What a model defines stays opaque.
-/

namespace Gatehouse.Authz

/-- An authorization model. -/
structure Model where
  id : String
  schemaVersion : String
  typeDefinitions : List Json.Value
deriving Repr

/-- The models of one page, and the token for the next one. -/
structure ModelsPage where
  models : List Model
  continuationToken : Option String
deriving Repr

/-- A model while it is being read. -/
structure ModelDraft where
  id : Option String
  schemaVersion : Option String
  typeDefinitions : Option (List Json.Value)

/-- The JSON form of a model. -/
def modelShape : Json.Shape ModelDraft where
  title := "AuthorizationModel"
  members :=
    [.text "id" true (·.id) fun draft s => { draft with id := some s },
      .text "schema_version" false (·.schemaVersion) fun draft s =>
        { draft with schemaVersion := some s },
      { name := "type_definitions"
        required := false
        filled draft := draft.typeDefinitions.isSome
        fill depth draft input :=
          (Json.readList Json.readValue depth input).map fun (values, rest) =>
            ({ draft with typeDefinitions := some values }, rest) }]

/-- Reads the JSON form of a model. -/
def Model.reader (depth : Nat) : Json.Reader Model := fun input =>
  (modelShape.read ⟨none, none, none⟩ depth input).map fun (draft, rest) =>
    (⟨draft.id.getD "", draft.schemaVersion.getD "", draft.typeDefinitions.getD []⟩, rest)

/-- A page while it is being read. -/
structure PageDraft where
  models : Option (List Model)
  continuationToken : Option (Option String)

/-- The JSON form of a page. -/
def pageShape : Json.Shape PageDraft where
  title := "ReadAuthorizationModelsResponse"
  members :=
    [{ name := "authorization_models"
       required := false
       filled draft := draft.models.isSome
       fill depth draft input :=
         (Json.readList Model.reader depth input).map fun (models, rest) =>
           ({ draft with models := some models }, rest) },
      { name := "continuation_token"
        required := false
        filled draft := draft.continuationToken.isSome
        fill _ draft input :=
          (Json.readOptionalString input).map fun (token, rest) =>
            ({ draft with continuationToken := some token }, rest) }]

namespace ModelsPage

/-- Reads the JSON form. -/
def reader : Json.Reader ModelsPage := fun input =>
  (pageShape.read ⟨none, none⟩ Json.maxDepth input).map fun (draft, rest) =>
    (⟨draft.models.getD [], draft.continuationToken.getD none⟩, rest)

/-- The page of a JSON text, given by its octets. -/
def ofJson (octets : List UInt8) : Except Json.Fault ModelsPage :=
  Json.read reader octets

end ModelsPage

/-- The JSON form of a model. -/
def Model.json (model : Model) : String :=
  Json.writeObject
    [("id", Json.writeText model.id), ("schema_version", Json.writeText model.schemaVersion),
      ("type_definitions", (Json.Value.list model.typeDefinitions).write)]

/-- The JSON form of a page. -/
def ModelsPage.json (page : ModelsPage) : String :=
  Json.writeObject
    [("authorization_models", Json.writeList (page.models.map Model.json)),
      ("continuation_token", Json.writeOptionalText page.continuationToken)]

end Gatehouse.Authz
