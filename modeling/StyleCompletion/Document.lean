/-
Documents as lines, and the two coordinates of a cursor.

A cursor is either a byte offset into the text or a position: a line and a byte
column in it.  `TextDocument` keeps the offset at which each line starts, so that
one turns into the other.  `DocumentView` is all that completion reads of a
document.

The reference functions are `position_at`, `offset_at` and `line_text` of `TextDocument`.
-/
import StyleCompletion.Text.Bytes

namespace StyleCompletion

/-- Line and byte column of a cursor, both from zero. -/
structure Position where
  line : Nat
  column : Nat
deriving DecidableEq, Repr

/-- A document as its readers see it: a number of lines and the text of each,
without its terminator.  A view may lack the text of some lines. -/
structure DocumentView where
  lineCount : Nat
  lineText : Nat → Option String

namespace DocumentView

/-- The view of lines of which some are missing. -/
def ofPartialLines (lines : Array (Option String)) : DocumentView where
  lineCount := lines.size
  lineText n := (lines[n]?).join

/-- The view of a list of lines. -/
def ofLines (lines : Array String) : DocumentView where
  lineCount := lines.size
  lineText n := lines[n]?

end DocumentView

/-! ## Line starts -/

/-- The offsets just past each line feed of `cs`, which itself starts at `offset`. -/
def startsAfterFeeds (offset : Nat) : List Char → List Nat
  | [] => []
  | c :: rest =>
      if c = '\n' then (offset + 1) :: startsAfterFeeds (offset + 1) rest
      else startsAfterFeeds (offset + c.utf8Size) rest

/-- The offset of each line of `text`. -/
def lineStartsOf (text : String) : Array Nat := (0 :: startsAfterFeeds 0 text.toList).toArray

/-- A text with the offset of each of its lines.  A line ends in a line feed, or in a
carriage return and a line feed; a line feed at the end opens one more, empty, line. -/
structure TextDocument where
  text : String
  lineStarts : Array Nat
  lineStarts_eq : lineStarts = lineStartsOf text

namespace TextDocument

/-- The document with this text. -/
def ofText (text : String) : TextDocument := ⟨text, lineStartsOf text, rfl⟩

/-- Number of bytes of the text. -/
def byteLength (document : TextDocument) : Nat := Text.size document.text

/-- Number of lines, at least one. -/
def lineCount (document : TextDocument) : Nat := document.lineStarts.size

/-- `line` without a carriage return at its end. -/
def stripReturn (line : List Char) : List Char :=
  if line.getLast? = some '\r' then line.dropLast else line

/-- The characters of line `n` without its terminator. -/
def lineChars (document : TextDocument) (n : Nat) : Option (List Char) :=
  document.lineStarts[n]?.map fun start =>
    let stop := match document.lineStarts[n + 1]? with
      | some next => next - 1
      | none => document.byteLength
    stripReturn (Text.takeBytes (stop - start) (Text.dropBytes start document.text.toList))

/-- The text of line `n` without its terminator. -/
def lineText (document : TextDocument) (n : Nat) : Option String :=
  (document.lineChars n).map String.ofList

/-- The document as its lines. -/
def view (document : TextDocument) : DocumentView where
  lineCount := document.lineCount
  lineText := document.lineText

/-! ## Offsets and positions -/

/-- The last index in `lo ..< hi` whose start is at most `offset`, found by halving.
The start at `lo` is at most `offset`, and any start from `hi` on lies past it. -/
def lastStart (starts : Array Nat) (offset lo hi : Nat) : Nat :=
  if hi ≤ lo + 1 then lo
  else
    let mid := (lo + hi) / 2
    if starts.getD mid 0 ≤ offset then lastStart starts offset mid hi
    else lastStart starts offset lo mid
termination_by hi - lo

/-- Position of a byte offset.  An offset past the end counts as the end. -/
def positionAt (document : TextDocument) (offset : Nat) : Position :=
  let offset := min offset document.byteLength
  let line := lastStart document.lineStarts offset 0 document.lineStarts.size
  { line := Text.saturate line
    column := Text.saturate (offset - document.lineStarts.getD line 0) }

/-- Byte offset of a position, if its line exists.  A column past the end of the
line counts as its end. -/
def offsetAt (document : TextDocument) (position : Position) : Option Nat := do
  let start ← document.lineStarts[position.line]?
  let line ← document.lineChars position.line
  return start + min position.column (Text.byteLength line)

end TextDocument

end StyleCompletion
