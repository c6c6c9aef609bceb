/-
The block around a cursor.

A block opens on a line of the form `name: {`.  The search walks up from the cursor's
line and is decided by the first line that tells: one that opens a block, or one that
closes a block past any opening of its own.  It is a search by lines and does not
balance braces.

The reference is `resolve_parent`, here `resolveParent`; its pattern `BLOCK_OPEN` is read by
`blockName?`.
-/
import StyleCompletion.Document
import StyleCompletion.Event
import StyleCompletion.Text.Blank

namespace StyleCompletion

/-! ## One line -/

/-- The text goes on with a colon and an opening brace, blanks allowed before each. -/
def opensBlock (cs : List Char) : Bool :=
  match Text.trimLeft cs with
  | ':' :: rest => (Text.trimLeft rest).head? = some '\x7b'
  | _ => false

/-- The longest name at the start of `cs` that a block opening follows.  A name is not
empty and holds no blank, but it may hold colons and braces. -/
def blockName? : List Char → Option (List Char)
  | [] => none
  | c :: rest =>
      if Text.isBlank c then none
      else match blockName? rest with
        | some name => some (c :: name)
        | none => if opensBlock rest then some [c] else none

/-- What a line says about the blocks around the lines below it. -/
inductive LineRole where
  /-- The line opens a block that it leaves open. -/
  | opens (name : List Char)
  /-- The line ends with a block closed. -/
  | closes
  /-- The line has neither an opening nor a closing brace that counts. -/
  | plain
deriving DecidableEq, Repr

/-- The role of a line.  A closing brace counts when the line opens no block or when it
stands past the first character of the name of the block that it opens. -/
def lineRole (line : List Char) : LineRole :=
  match blockName? (Text.trimLeft line) with
  | some name => if (Text.trimLeft line).tail.contains '\x7d' then .closes else .opens name
  | none => if line.contains '\x7d' then .closes else .plain

/-! ## The search -/

/-- Walks up from the line before `n`. -/
def parentAbove (document : DocumentView) : Nat → Logged (Option String)
  | 0 => pure none
  | n + 1 =>
      match document.lineText n with
      | none => parentAbove document n
      | some line =>
          match lineRole line.toList with
          | .opens name => pure (some (String.ofList name))
          | .closes => Logged.reporting [.scanStopped n] none
          | .plain => parentAbove document n

/-- The name of the nearest block that is still open at line `line`, as it is written,
with its quotes if it has any. -/
def resolveParent (document : DocumentView) (line : Nat) : Logged (Option String) :=
  parentAbove document (min (line + 1) document.lineCount)

end StyleCompletion
