/-
The engine: one completion request from document to candidates.

A request goes first to the rules.  If none answers, the cursor's context is classified and
the candidates for it are offered.

The reference is `complete` of `CompletionEngine`; `answerByRule` and `offer` are its parts
`complete_with_rule` and `complete_for_context`.
-/
import StyleCompletion.Block
import StyleCompletion.Context
import StyleCompletion.Cursor
import StyleCompletion.Offer
import StyleCompletion.Rule
import StyleCompletion.Schema.Store

namespace StyleCompletion

/-- A cursor in a document with its path. -/
structure Request where
  document : DocumentView
  path : Path
  position : Position

/-- What does not change between requests. -/
structure Workspace where
  project : Project
  rules : RuleSet := .standard
  settings : Settings := {}

namespace Workspace

/-- The answer of the first rule for the line prefix. -/
def answerByRule (workspace : Workspace) (schema : Schema) (files : FileSystem) (path : Path)
    (linePrefix : String) (word : Option String) : Logged (Option (List Candidate)) := do
  match ← workspace.rules.find linePrefix with
  | none => return none
  | some rule =>
      let answer ← rule.answer {
        linePrefix, word, files, schema
        stylePath := path
        project := workspace.project
        settings := workspace.settings }
      if answer.isNone then Logged.report (.ruleDeclined rule.name)
      return answer

/-- The candidates for a classified cursor. -/
def offer (workspace : Workspace) (schema : Schema) (files : FileSystem) (request : Request)
    (context : Context) : Logged (List Candidate) :=
  match context.kind with
  | .propertyValue property => offerValues schema property context.word
  | .propertyName => do
      let parent ← resolveParent request.document request.position.line
      Logged.report .parentResolved
      offerProperties schema parent context.word workspace.settings
  | .classOrId kind => offerSelectors workspace.project files request.path kind context.word
  | .tag => pure (offerTags schema context.word workspace.settings)

/-- The candidates at a cursor. -/
def complete (workspace : Workspace) (schema : Schema) (files : FileSystem) (request : Request) :
    Logged (List Candidate) :=
  match request.document.lineText request.position.line with
  | none => Logged.reporting [.lineOutsideDocument request.position.line] []
  | some line => do
      let cursor := CursorLine.ofColumn line.toList request.position.column
      let linePrefix := String.ofList cursor.before
      let word := cursor.word?.map String.ofList
      match ← workspace.answerByRule schema files request.path linePrefix word with
      | some candidates => return candidates
      | none =>
          match classify linePrefix word with
          | none =>
              Logged.report (.noContext linePrefix)
              return []
          | some context =>
              Logged.report .contextFound
              let candidates ← workspace.offer schema files request context
              Logged.report (.candidatesFound candidates.length)
              return candidates

end Workspace

/-- A workspace with the store that its schema comes from. -/
structure Engine extends Workspace where
  store : SchemaStore

namespace Engine

/-- The candidates at a cursor, and the engine afterwards.  Only a schema that cannot be
loaded is an error. -/
def complete (engine : Engine) (files : FileSystem) (request : Request) :
    Logged (Except SchemaError (List Candidate) × Engine) := do
  let (answer, store) ← engine.store.get files
  let engine := { engine with store }
  match answer with
  | .error error => return (.error error, engine)
  | .ok schema =>
      let candidates ← engine.toWorkspace.complete schema files request
      return (.ok candidates, engine)

/-- An engine in words. -/
def describe (engine : Engine) : String :=
  "CompletionEngine \x7b schema: " ++ engine.store.describe ++ ", rules: " ++
    engine.rules.describe ++ ", config: " ++ engine.settings.describe ++ ", .. \x7d"

end Engine

end StyleCompletion
