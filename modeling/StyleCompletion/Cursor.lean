/-
What surrounds a cursor on its line: the text before it and the word it touches.

The reference functions are `line_prefix`, here the text before `ofColumn`, and `word_at`.
-/
import StyleCompletion.Text.Bytes
import StyleCompletion.Text.Word

namespace StyleCompletion

/-- A line cut in two at the cursor. -/
structure CursorLine where
  before : List Char
  after : List Char
deriving DecidableEq, Repr

namespace CursorLine

/-- Cuts `line` at byte column `column`.  A column past the end counts as the end,
and one inside a character as the start of that character. -/
def ofColumn (line : List Char) (column : Nat) : CursorLine where
  before := Text.takeBytes column line
  after := Text.dropBytes column line

/-- The part before the cursor of the word that the cursor touches. -/
def wordBefore (cursor : CursorLine) : List Char :=
  (cursor.before.reverse.takeWhile Text.isCursorChar).reverse

/-- The part after the cursor of the word that the cursor touches. -/
def wordAfter (cursor : CursorLine) : List Char :=
  cursor.after.takeWhile Text.isCursorChar

/-- The word that the cursor touches on either side. -/
def word? (cursor : CursorLine) : Option (List Char) :=
  match cursor.wordBefore ++ cursor.wordAfter with
  | [] => none
  | word => some word

end CursorLine

end StyleCompletion
