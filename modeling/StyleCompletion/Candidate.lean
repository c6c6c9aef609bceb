/-
Completion candidates: what is shown, what is inserted, and where the caret goes.

The reference is `Candidate` with `snippet` and `escape_snippet`, and `block_template` for what
opens a block.
-/
import StyleCompletion.Json.Basic
import StyleCompletion.Settings
import StyleCompletion.Text.Bytes

namespace StyleCompletion

/-- What a candidate is. -/
inductive CandidateKind where
  | tag
  | property
  | value
  | selector
  /-- A key of a localized text. -/
  | text
  /-- A path of a file. -/
  | file
deriving DecidableEq, Repr

/-- The name of a kind. -/
def CandidateKind.name : CandidateKind → String
  | .tag => "tag"
  | .property => "property"
  | .value => "value"
  | .selector => "selector"
  | .text => "text"
  | .file => "file"

/-- The name of a kind as a heading. -/
def CandidateKind.title : CandidateKind → String
  | .tag => "Tag"
  | .property => "Property"
  | .value => "Value"
  | .selector => "Selector"
  | .text => "Text"
  | .file => "File"

/-- A candidate.  Without a text to insert its label is inserted; the cursor is the byte
offset of the caret in what is inserted. -/
structure Candidate where
  label : String
  kind : CandidateKind
  detail : Option String := none
  insertText : Option String := none
  cursor : Option Nat := none
deriving DecidableEq, Repr

namespace Candidate

/-- A candidate that inserts its label. -/
def new (label : String) (kind : CandidateKind) : Candidate := { label, kind }

/-- The candidate with a detail to show. -/
def withDetail (candidate : Candidate) (detail : String) : Candidate :=
  { candidate with detail := some detail }

/-- The candidate with a text to insert and the caret after it. -/
def withInsertText (candidate : Candidate) (text : String) : Candidate :=
  { candidate with insertText := some text, cursor := some (Text.saturate (Text.size text)) }

/-- The candidate with a text to insert and the caret at a byte of it, or after it when it
is shorter. -/
def withTemplate (candidate : Candidate) (text : String) (cursor : Nat) : Candidate :=
  { candidate with
    insertText := some text
    cursor := some (Text.saturate (min cursor (Text.size text))) }

/-- The text that is inserted. -/
def text (candidate : Candidate) : String := candidate.insertText.getD candidate.label

/-! ## Snippets -/

/-- The characters that mean something in a snippet stand behind a backslash. -/
def escapeSnippet (cs : List Char) : List Char :=
  cs.flatMap fun c => if c = '$' || c = '\x7d' || c = '\\' then ['\\', c] else [c]

/-- The inserted text before and after the caret.  A cursor that is no place between two
characters counts as the end. -/
def caretSplit (candidate : Candidate) : List Char × List Char :=
  let cs := candidate.text.toList
  (candidate.cursor.bind (Text.splitAtByte? · cs)).getD (cs, [])

/-- The inserted text as a snippet, with `$0` at the caret. -/
def snippet (candidate : Candidate) : String :=
  let (before, after) := candidate.caretSplit
  String.ofList (escapeSnippet before ++ ['$', '0'] ++ escapeSnippet after)

/-! ## JSON -/

/-- A candidate as a JSON object, without the fields that it lacks. -/
def toJson (candidate : Candidate) : Json :=
  .object ([("label", .text candidate.label), ("kind", .text candidate.kind.name)] ++
    (candidate.detail.toList.map fun detail => ("detail", Json.text detail)) ++
    (candidate.insertText.toList.map fun text => ("insertText", Json.text text)) ++
    candidate.cursor.toList.map fun cursor => ("cursor", Json.number cursor.repr))

end Candidate

/-- A block after `head`: the text, and the byte at which its inner line ends. -/
def blockTemplate (head : String) (settings : Settings) : String × Nat :=
  let opened := head ++ "\x7b\n" ++ settings.indent
  (opened ++ "\n\x7d", Text.size opened)

end StyleCompletion
