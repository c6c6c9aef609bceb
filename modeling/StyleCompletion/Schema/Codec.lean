/-
Schemas as JSON.

A schema document has one of two shapes: `tags`, `properties` and `types` side by side, or
`tags` under `alloy` and the other two under `titanium`.  The second shape is tried first;
a document that does not fit it for any reason is read in the first one.  Schemas are
written in the first shape.

The reference is `from_json_str`, whose shapes are those of `SchemaDocument`.
-/
import StyleCompletion.Json.Reader
import StyleCompletion.Json.Writer
import StyleCompletion.Schema.Basic

namespace StyleCompletion

/-! ## Reading -/

/-- Reads an object whose members all have one shape.  Of members under one key the last
counts, but each has to fit. -/
def Dictionary.ofJson? {α : Type} (read : Json → Option α) : Json → Option (Dictionary α)
  | .object members =>
      (members.mapM fun member => (read member.2).map (member.1, ·)).map Dictionary.ofList
  | _ => none

/-- Reads the entry of a tag. -/
def TagInfo.ofJson? (json : Json) : Option TagInfo := do
  let fields ← json.fields? [["displayName", "apiName"]]
  let displayName ← Json.fieldOr? "" Json.text? (fields.getD 0 none)
  return { displayName }

/-- Reads the entry of a property. -/
def PropertyInfo.ofJson? (json : Json) : Option PropertyInfo := do
  let fields ← json.fields? [["type"], ["values"]]
  let type ← Json.fieldOr? none (Json.nullable? Json.text?) (fields.getD 0 none)
  let values ← Json.fieldOr? none (Json.nullable? Json.texts?) (fields.getD 1 none)
  return { type, values }

/-- Reads the entry of a structured type. -/
def TypeInfo.ofJson? (json : Json) : Option TypeInfo := do
  let fields ← json.fields? [["properties"]]
  let properties ← Json.fieldOr? [] Json.texts? (fields.getD 0 none)
  return { properties }

namespace Schema

/-- Reads the three parts of a schema, each of which may be missing. -/
def ofParts? (tags properties types : Option Json) : Option Schema := do
  let tags ← Json.fieldOr? .empty (Dictionary.ofJson? TagInfo.ofJson?) tags
  let properties ← Json.fieldOr? .empty (Dictionary.ofJson? PropertyInfo.ofJson?) properties
  let types ← Json.fieldOr? .empty (Dictionary.ofJson? TypeInfo.ofJson?) types
  return { tags, properties, types }

/-- Reads a document with its three parts side by side. -/
def ofFlat? (json : Json) : Option Schema := do
  let fields ← json.fields? [["tags"], ["properties"], ["types"]]
  ofParts? (fields.getD 0 none) (fields.getD 1 none) (fields.getD 2 none)

/-- Reads a document with its parts under `alloy` and `titanium`, both of which it has. -/
def ofNested? : Json → Option Schema
  | .object members => do
      let alloy ← (← Json.soleMember? ["alloy"] members)
      let titanium ← (← Json.soleMember? ["titanium"] members)
      let tags ← alloy.fields? [["tags"]]
      let rest ← titanium.fields? [["properties"], ["types"]]
      ofParts? (tags.getD 0 none) (rest.getD 0 none) (rest.getD 1 none)
  | _ => none

/-- Reads a document in either shape. -/
def ofJson? (json : Json) : Option Schema := (ofNested? json).or (ofFlat? json)

/-- Reads a schema text. -/
def parse (text : String) : Except Json.Fault Schema := Json.decode .any ofJson? text

/-! ## Writing -/

/-- A list of texts as an array. -/
def textsToJson (texts : List String) : Json := .array (texts.map Json.text)

/-- The entry of a tag. -/
def tagToJson (info : TagInfo) : Json := .object [("displayName", .text info.displayName)]

/-- The entry of a property, with what is known of it. -/
def propertyToJson (info : PropertyInfo) : Json :=
  .object ((info.type.toList.map fun type => ("type", Json.text type)) ++
    info.values.toList.map fun values => ("values", textsToJson values))

/-- The entry of a structured type. -/
def typeToJson (info : TypeInfo) : Json := .object [("properties", textsToJson info.properties)]

/-- An object with a member for each entry. -/
def dictionaryToJson {α : Type} (write : α → Json) (dictionary : Dictionary α) : Json :=
  .object (dictionary.entries.map fun (name, value) => (name, write value))

/-- A schema as a JSON value. -/
def toJson (schema : Schema) : Json :=
  .object [
    ("tags", dictionaryToJson tagToJson schema.tags),
    ("properties", dictionaryToJson propertyToJson schema.properties),
    ("types", dictionaryToJson typeToJson schema.types)]

/-- A schema as JSON text on one line. -/
def render (schema : Schema) : String := schema.toJson.compact

end Schema

end StyleCompletion
