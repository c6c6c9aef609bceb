/-
The command: candidates at a cursor in a file, printed as JSON or as plain lines.

The reference is `run`, with `position` for the cursor, `load_config` for the settings and
`write_candidates` for the output.
-/
import StyleCompletion.CommandLine.Arguments
import StyleCompletion.Engine
import StyleCompletion.Json.Writer

namespace StyleCompletion.CommandLine

/-- Why a command fails. -/
inductive Failure where
  | documentUnreadable (path : Path)
  | offsetPastEnd (offset length : Nat)
  | noCursor
  | configUnreadable (path : Path)
  | configInvalid (path : Path)
  | schema (error : SchemaError)
deriving DecidableEq, Repr

/-- The text of a failure. -/
def Failure.message : Failure → String
  | .documentUnreadable path => "failed to read " ++ path.text
  | .offsetPastEnd offset length =>
      "offset " ++ offset.repr ++ " is past the end of the document (" ++ length.repr ++ " bytes)"
  | .noCursor => "either --offset or --line with --column is required"
  | .configUnreadable path => "failed to read config " ++ path.text
  | .configInvalid path => "invalid config " ++ path.text
  | .schema error => error.message

/-- The position of the cursor in a document: that of an offset, which may not be past the end,
or else a line and a column. -/
def Arguments.position? (arguments : Arguments) (document : TextDocument) :
    Except Failure Position :=
  match arguments.offset, arguments.line, arguments.column with
  | some offset, _, _ =>
      if document.byteLength < offset then .error (.offsetPastEnd offset document.byteLength)
      else .ok (document.positionAt offset)
  | none, some line, some column => .ok ⟨line, column⟩
  | none, _, _ => .error .noCursor

/-- Reads the settings file, if there is one. -/
def readSettings (files : FileSystem) : Option Path → Except Failure Settings
  | none => .ok {}
  | some path => do
      let text ← (files.readText path).mapError fun _ => .configUnreadable path
      (Settings.parse text).mapError fun _ => .configInvalid path

/-- The project that the arguments name; without one the markup stands beside the style. -/
def Arguments.project (arguments : Arguments) : Project :=
  match arguments.projectRoot with
  | some root => .alloy root Project.defaultLocale
  | none => .besideMarkup

/-- The paths that a run may look at. -/
def Arguments.paths (arguments : Arguments) : List Path :=
  [arguments.document, arguments.schema] ++ arguments.config.toList ++
    (arguments.project.companion arguments.document).toList ++
    match arguments.projectRoot with
    | some root =>
        Project.stringsPlaces root Project.defaultLocale ++ [Project.assetsPlace root]
    | none => []

/-! ## Output -/

/-- A candidate on a line: label, kind and detail, with tabs between them. -/
def plainLine (candidate : Candidate) : String :=
  candidate.label ++ "\t" ++ candidate.kind.title ++ "\t" ++ candidate.detail.getD "" ++ "\n"

/-- Candidates as they are printed. -/
def printed (format : Format) (candidates : List Candidate) : String :=
  match format with
  | .json => (Json.array (candidates.map Candidate.toJson)).pretty ++ "\n"
  | .plain => String.join (candidates.map plainLine)

/-! ## The command -/

/-- The document and position, and the settings: what is read before the schema. -/
def prepare (arguments : Arguments) (files : FileSystem) :
    Except Failure (TextDocument × Position × Settings) := do
  let text ← (files.readText arguments.document).mapError fun _ =>
    .documentUnreadable arguments.document
  let document := TextDocument.ofText text
  let position ← arguments.position? document
  let settings ← readSettings files arguments.config
  return (document, position, settings)

/-- Runs the command: the text that it prints, or why it fails. -/
def run (arguments : Arguments) (files : FileSystem) : Logged (Except Failure String) :=
  match prepare arguments files with
  | .error failure => pure (.error failure)
  | .ok (document, position, settings) => do
      let engine : Engine := {
        project := arguments.project
        settings
        store := .new (.ofFile arguments.schema) }
      let request := { document := document.view, path := arguments.document, position }
      match (← engine.complete files request).1 with
      | .error error => return .error (.schema error)
      | .ok candidates =>
          Logged.report (.completed candidates.length)
          return .ok (printed arguments.format candidates)

end StyleCompletion.CommandLine
