/-
The course of a request.

A request is decided by its line, cut at the cursor: by the rule that it goes to, by the answer
of that rule, and by the context if there is none.  The rest of the document is read for the
block around the cursor alone, and for that only where a property name is due.
-/
import StyleCompletion.Engine

namespace StyleCompletion

/-! ## Decisions on the way -/

namespace Request

/-- The line of the request, cut at the cursor. -/
def cursor? (request : Request) : Option CursorLine :=
  (request.document.lineText request.position.line).map fun line =>
    CursorLine.ofColumn line.toList request.position.column

/-- The text before the cursor on its line. -/
def linePrefix (request : Request) : String :=
  String.ofList ((request.cursor?.map CursorLine.before).getD [])

/-- The word that the cursor touches. -/
def word? (request : Request) : Option String :=
  (request.cursor?.bind CursorLine.word?).map String.ofList

/-- The context of the cursor. -/
def context? (request : Request) : Option Context :=
  request.cursor?.bind fun _ => classify request.linePrefix request.word?

/-- What the cursor sits in. -/
def kind? (request : Request) : Option ContextKind := request.context?.map Context.kind

end Request

namespace Workspace

/-- What a rule can look at for the request. -/
def ruleContext (workspace : Workspace) (schema : Schema) (files : FileSystem)
    (request : Request) : RuleContext where
  linePrefix := request.linePrefix
  word := request.word?
  stylePath := request.path
  project := workspace.project
  files := files
  schema := schema
  settings := workspace.settings

/-- The rule that the request goes to. -/
def rule? (workspace : Workspace) (request : Request) : Option Rule :=
  request.cursor?.bind fun _ => (workspace.rules.find request.linePrefix).value

/-- The answer of that rule, if there is one and it does not decline. -/
def ruleAnswer? (workspace : Workspace) (schema : Schema) (files : FileSystem)
    (request : Request) : Option (List Candidate) :=
  request.cursor?.bind fun _ =>
    (workspace.answerByRule schema files request.path request.linePrefix request.word?).value

end Workspace

/-! ## The candidates -/

namespace Request

variable {request : Request} {line : String}

theorem cursor?_of_line (h : request.document.lineText request.position.line = some line) :
    request.cursor? = some (CursorLine.ofColumn line.toList request.position.column) := by
  rw [cursor?, h, Option.map_some]

theorem linePrefix_of_cursor? {cursor : CursorLine} (h : request.cursor? = some cursor) :
    request.linePrefix = String.ofList cursor.before := by
  rw [linePrefix, h]
  rfl

theorem word?_of_cursor? {cursor : CursorLine} (h : request.cursor? = some cursor) :
    request.word? = cursor.word?.map String.ofList := by
  rw [word?, h]
  rfl

/-- A context holds, apart from its kind, the text before the cursor and the word. -/
theorem context?_eq_map (request : Request) :
    request.context? =
      request.kind?.map fun kind => ⟨kind, request.linePrefix, request.word?⟩ := by
  unfold kind? context? classify
  cases request.cursor? with
  | none => rfl
  | some cursor => simp [Function.comp_def]

end Request

namespace Workspace

variable (workspace : Workspace) (schema : Schema) (files : FileSystem)

/-- The answer is the one that the rule gives to what it can look at. -/
theorem ruleAnswer?_eq_bind (request : Request) :
    workspace.ruleAnswer? schema files request =
      (workspace.rule? request).bind fun rule =>
        (rule.answer (workspace.ruleContext schema files request)).value := by
  rw [ruleAnswer?, rule?]
  cases request.cursor? with
  | none => rfl
  | some cursor =>
      rw [Option.bind_some, Option.bind_some, answerByRule, Logged.value_bind]
      split
      · next hfind =>
          rw [hfind]
          rfl
      · next hfind =>
          -- That the rule declines is reported, and does not change its answer.
          rw [hfind, Option.bind_some, Logged.value_bind]
          split <;> rfl

/-- The candidates are those of the rule, or else those for the context. -/
theorem value_complete (request : Request) :
    (workspace.complete schema files request).value =
      match workspace.ruleAnswer? schema files request with
      | some candidates => candidates
      | none =>
          match request.context? with
          | some context => (workspace.offer schema files request context).value
          | none => [] := by
  rw [complete]
  split
  · next hline => simp [ruleAnswer?, Request.context?, Request.cursor?, hline, Logged.reporting]
  · next line hline =>
      simp only [ruleAnswer?, Request.context?, Request.linePrefix, Request.word?,
        Request.cursor?_of_line hline, Option.map_some, Option.getD_some, Option.bind_some,
        Logged.value_bind]
      generalize (workspace.answerByRule schema files request.path _ _).value = answer
      generalize classify _ _ = context?
      cases answer with
      | some candidates => rfl
      | none =>
          cases context? with
          | none => rfl
          | some context => simp

variable {workspace schema files}

/-- Where no rule is for the text before the cursor, the candidates are those for its context. -/
theorem value_complete_of_no_rule {request : Request} {cursor : CursorLine} {kind : ContextKind}
    (hcursor : request.cursor? = some cursor)
    (hfind : workspace.rules.find (String.ofList cursor.before) = pure none)
    (hkind : contextKind? cursor.before = some kind) :
    (workspace.complete schema files request).value =
      (workspace.offer schema files request
        ⟨kind, String.ofList cursor.before, cursor.word?.map String.ofList⟩).value := by
  have hanswer : workspace.ruleAnswer? schema files request = none := by
    rw [ruleAnswer?_eq_bind, rule?, hcursor, Option.bind_some,
      Request.linePrefix_of_cursor? hcursor, hfind]
    rfl
  have hcontext : request.context? =
      some ⟨kind, String.ofList cursor.before, cursor.word?.map String.ofList⟩ := by
    rw [Request.context?, hcursor, Option.bind_some, Request.linePrefix_of_cursor? hcursor,
      Request.word?_of_cursor? hcursor, classify, String.toList_ofList, hkind, Option.map_some]
  rw [value_complete, hanswer, hcontext]

/-- Apart from its path, an offer depends on the request by the block around the cursor, and
that only where a property name is due; of the context it takes the kind and the word. -/
theorem offer_congr {request other : Request} {kind : ContextKind} {word : Option String}
    (linePrefix otherPrefix : String) (hpath : request.path = other.path)
    (hparent : kind = .propertyName →
      resolveParent request.document request.position.line =
        resolveParent other.document other.position.line) :
    workspace.offer schema files request ⟨kind, linePrefix, word⟩ =
      workspace.offer schema files other ⟨kind, otherPrefix, word⟩ := by
  cases kind with
  | propertyName => simp only [offer, hparent rfl]
  | propertyValue property => rfl
  | classOrId selector => simp only [offer, hpath]
  | tag => rfl

end Workspace

/-- An engine answers with the error of its store or as its workspace does with the schema. -/
theorem Engine.value_complete (engine : Engine) (files : FileSystem) (request : Request) :
    (engine.complete files request).value.1 =
      (engine.store.get files).value.1.map fun schema =>
        (engine.toWorkspace.complete schema files request).value := by
  rw [Engine.complete, Logged.value_bind]
  split
  next answer store hget =>
    rw [hget]
    split <;> rfl

/-! ## The document -/

theorem Logged.bind_congr {α β : Type} {x : Logged α} {f g : α → Logged β}
    (h : f x.value = g x.value) : x >>= f = x >>= g := by
  show Logged.mk _ _ = Logged.mk _ _
  rw [h]

section

variable {document other : DocumentView} {path : Path} {position : Position}

/-- Of a document a completion reads the line of the cursor and, if no rule answers and a
property name is due, the block around it. -/
theorem Workspace.complete_congr {workspace : Workspace} {schema : Schema} {files : FileSystem}
    (hline : document.lineText position.line = other.lineText position.line)
    (hparent : workspace.ruleAnswer? schema files ⟨document, path, position⟩ = none →
      Request.kind? ⟨document, path, position⟩ = some .propertyName →
      resolveParent document position.line = resolveParent other position.line) :
    workspace.complete schema files ⟨document, path, position⟩ =
      workspace.complete schema files ⟨other, path, position⟩ := by
  rw [complete, complete]
  simp only [← hline]
  cases hfound : document.lineText position.line with
  | none => rfl
  | some line =>
      simp only [ruleAnswer?, Request.kind?, Request.context?, Request.linePrefix, Request.word?,
        Request.cursor?, hfound, Option.map_some, Option.getD_some, Option.bind_some] at hparent
      apply Logged.bind_congr
      split
      · rfl
      · next hnone =>
          split
          · rfl
          · next context hcontext =>
              have hoffer : workspace.offer schema files ⟨document, path, position⟩ context =
                  workspace.offer schema files ⟨other, path, position⟩ context := by
                refine offer_congr _ _ rfl (fun hkind => hparent hnone ?_)
                rw [hcontext, Option.map_some, hkind]
              rw [hoffer]

/-- An engine asks its store first, whatever the request. -/
theorem Engine.complete_congr {engine : Engine} {files : FileSystem} {request other : Request}
    (h : ∀ schema, (engine.store.get files).value.1 = .ok schema →
      engine.toWorkspace.complete schema files request =
        engine.toWorkspace.complete schema files other) :
    engine.complete files request = engine.complete files other := by
  apply Logged.bind_congr
  split
  next answer store hget =>
    split
    · rfl
    · next schema =>
        have hcomplete := h schema (by rw [hget])
        simp only [hcomplete]

end

end StyleCompletion
