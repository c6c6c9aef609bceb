/-
The two notions of a word character.

Patterns over a line take the wide one, in which names may hold marks and joiners.
The word under the cursor takes the narrow one, which knows numbers of every kind
but no marks.  Names follow Unicode 16 and the word under the cursor Unicode 17, so a
character that is new in 17 is in no name.
-/
import StyleCompletion.Text.Alphabetic
import StyleCompletion.Text.Mark
import StyleCompletion.Text.Number
import StyleCompletion.Text.Recent

namespace StyleCompletion.Text

/-- Code points of the category Pc, such as `_` and `‿`. -/
def connectorRanges : List (Nat × Nat) := [
  (0x5F, 0x5F), (0x203F, 0x2040), (0x2054, 0x2054), (0xFE33, 0xFE34), (0xFE4D, 0xFE4F),
  (0xFF3F, 0xFF3F)
]

/-- Zero-width non-joiner and joiner. -/
def isJoiner (c : Char) : Bool := c = '\u200C' || c = '\u200D'

/-- Characters of a name: letters, marks, decimal digits, connectors, joiners, as far as
Unicode 16 has them. -/
def isNameChar (c : Char) : Bool :=
  (isAlphabetic c || isMark c || isDecimalDigit c || covers connectorRanges c.toNat ||
    isJoiner c) && !isRecent c

/-- Characters of the word under a cursor: letters, numbers and `_`. -/
def isCursorChar (c : Char) : Bool := isAlphabetic c || isNumeric c || c = '_'

end StyleCompletion.Text
