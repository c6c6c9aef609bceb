/-
Settings of the completion, and their JSON form.

The reference is `CompletionConfig`.
-/
import StyleCompletion.Json.Reader
import StyleCompletion.Text.Quoted

namespace StyleCompletion

/-- What a user can choose. -/
structure Settings where
  /-- Property types whose values are blocks. -/
  objectTypes : List String := ["Font"]
  /-- What an inserted block is indented with. -/
  indent : String := "\t"
deriving DecidableEq, Repr

namespace Settings

/-- Values of this type are blocks. -/
def isObjectType (settings : Settings) (type : String) : Bool :=
  settings.objectTypes.contains type

/-- What a settings text may hold. -/
def form : Json.Form := .record [("objectTypes", .listOf .text), ("indent", .text)]

/-- Both settings from their values, with the default for a missing one. -/
def ofFields? (objectTypes indent : Option Json) : Option Settings := do
  let objectTypes ← Json.fieldOr? ["Font"] Json.texts? objectTypes
  let indent ← Json.fieldOr? "\t" Json.text? indent
  return { objectTypes, indent }

/-- Reads settings from an object with no other members, or from an array. -/
def ofJson? (json : Json) : Option Settings := do
  let fields ← json.fields? [["objectTypes"], ["indent"]]
  let known := match json with
    | .object members => members.all fun member => ["objectTypes", "indent"].contains member.1
    | _ => true
  if known then ofFields? (fields.getD 0 none) (fields.getD 1 none) else none

/-- Reads a settings text. -/
def parse (text : String) : Except Json.Fault Settings := Json.decode form ofJson? text

/-- Settings in words. -/
def describe (settings : Settings) : String :=
  "CompletionConfig \x7b object_types: " ++ Text.quotedList settings.objectTypes ++
    ", indent: " ++ Text.quoted settings.indent ++ " \x7d"

end Settings

end StyleCompletion
