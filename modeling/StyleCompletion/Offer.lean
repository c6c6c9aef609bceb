/-
The candidates for each context, filtered by the word under the cursor.

The reference functions are `tag_items`, `property_name_items`, `property_value_items` and
`selector_items`.
-/
import StyleCompletion.Candidate
import StyleCompletion.Markup
import StyleCompletion.Matching
import StyleCompletion.Project
import StyleCompletion.Schema.Basic

namespace StyleCompletion

/-- The candidate for a tag.  Its opening quote is typed already, so the insertion closes it
and opens the block. -/
def tagCandidate (settings : Settings) (name : String) (info : TagInfo) : Candidate :=
  let (text, cursor) := blockTemplate (name ++ "\": ") settings
  let candidate := (Candidate.new name .tag).withTemplate text cursor
  if info.displayName.isEmpty then candidate else candidate.withDetail info.displayName

@[simp] theorem label_tagCandidate (settings : Settings) (name : String) (info : TagInfo) :
    (tagCandidate settings name info).label = name := by
  simp only [tagCandidate]
  split <;> rfl

/-- The tags of the schema. -/
def offerTags (schema : Schema) (word : Option String) (settings : Settings) : List Candidate :=
  (schema.tags.entries.filter fun entry => accepts entry.1 word).map fun entry =>
    tagCandidate settings entry.1 entry.2

/-- The candidate for a property with a plain value. -/
def flatCandidate (name : String) : Candidate :=
  (Candidate.new name .property).withInsertText (name ++ ": ")

/-- The candidate for a property whose value is a block. -/
def blockCandidate (settings : Settings) (name : String) : Candidate :=
  let (text, cursor) := blockTemplate (name ++ ": ") settings
  (Candidate.new name .property).withTemplate text cursor

/-- The candidate for a property of the schema. -/
def propertyCandidate (settings : Settings) (name : String) (info : PropertyInfo) : Candidate :=
  match info.type with
  | some type =>
      if settings.isObjectType type then blockCandidate settings name else flatCandidate name
  | none => flatCandidate name

@[simp] theorem label_propertyCandidate (settings : Settings) (name : String)
    (info : PropertyInfo) : (propertyCandidate settings name info).label = name := by
  unfold propertyCandidate
  split
  · split <;> rfl
  · rfl

/-- All properties of the schema. -/
def offerAllProperties (schema : Schema) (word : Option String) (settings : Settings) :
    List Candidate :=
  (schema.properties.entries.filter fun entry => accepts entry.1 word).map fun entry =>
    propertyCandidate settings entry.1 entry.2

/-- The properties that may stand in the block `parent`, or all of them outside a block or
in one that is not known to hold certain ones. -/
def offerProperties (schema : Schema) (parent word : Option String) (settings : Settings) :
    Logged (List Candidate) :=
  match parent with
  | none => pure (offerAllProperties schema word settings)
  | some parent => do
      match ← schema.nestedProperties parent with
      | some nested => return (nested.filter (accepts · word)).map flatCandidate
      | none =>
          Logged.report (.parentWithoutChildren parent)
          return offerAllProperties schema word settings

/-- The listed values of a property. -/
def offerValues (schema : Schema) (property : String) (word : Option String) :
    Logged (List Candidate) :=
  match schema.property property with
  | none => Logged.reporting [.unknownProperty property] []
  | some info =>
      pure (((info.values.getD []).filter (accepts · word)).map (Candidate.new · .value))

/-- The class or id selectors that the companion markup declares. -/
def offerSelectors (project : Project) (files : FileSystem) (style : Path) (kind : SelectorKind)
    (word : Option String) : Logged (List Candidate) :=
  match project.companion style with
  | none => Logged.reporting [.noCompanion] []
  | some path =>
      match project.readText files path with
      | .error _ => Logged.reporting [.companionUnreadable] []
      | .ok markup =>
          let detail := path.fileName?.getD ""
          pure (((selectors markup kind).filter (accepts · word)).map fun token =>
            (Candidate.new token .selector).withDetail detail)

end StyleCompletion
