/-
The schema: the tags, properties and structured types that completion knows.

Every part keeps the order of the document it was read from, which is the order in which
candidates are offered.

The reference is `Schema` with its look-ups, of which `nested_properties` goes through a type.
-/
import StyleCompletion.Dictionary
import StyleCompletion.Event

namespace StyleCompletion

/-- A tag and the name it is shown with. -/
structure TagInfo where
  displayName : String := ""
deriving DecidableEq, Repr

/-- A property with its type and its possible values, as far as they are known. -/
structure PropertyInfo where
  type : Option String := none
  values : Option (List String) := none
deriving DecidableEq, Repr

/-- A structured type with the properties that its values may hold. -/
structure TypeInfo where
  properties : List String := []
deriving DecidableEq, Repr

/-- All that is known of a style language. -/
@[ext] structure Schema where
  tags : Dictionary TagInfo := .empty
  properties : Dictionary PropertyInfo := .empty
  types : Dictionary TypeInfo := .empty

namespace Schema

/-- The tag `name`. -/
def tag (schema : Schema) (name : String) : Option TagInfo := schema.tags.get? name

/-- The property `name`. -/
def property (schema : Schema) (name : String) : Option PropertyInfo :=
  schema.properties.get? name

/-- The structured type `name`. -/
def typeInfo (schema : Schema) (name : String) : Option TypeInfo := schema.types.get? name

/-- The declared type of a property. -/
def propertyType (schema : Schema) (property : String) : Option String :=
  (schema.property property).bind PropertyInfo.type

/-- The properties that may stand in the block of the property `parent`: those of its type,
if that type is known and has any. -/
def nestedProperties (schema : Schema) (parent : String) : Logged (Option (List String)) :=
  match schema.propertyType parent with
  | none => pure none
  | some type =>
      match schema.typeInfo type with
      | none => Logged.reporting [.parentTypeMissing parent type] none
      | some info => pure (if info.properties.isEmpty then none else some info.properties)

end Schema

end StyleCompletion
