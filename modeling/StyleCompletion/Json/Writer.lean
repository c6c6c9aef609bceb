/-
Writing JSON values: on one line without blanks, or indented by two spaces a level.
-/
import StyleCompletion.Json.Quote

namespace StyleCompletion.Json

/-- A text between quotes. -/
def quoteText (s : String) : List Char := quote s.toList

/-! ## On one line -/

mutual

/-- A value on one line. -/
def compactChars : Json → List Char
  | .null => "null".toList
  | .bool true => "true".toList
  | .bool false => "false".toList
  | .number literal => literal.toList
  | .text value => quoteText value
  | .array items => '[' :: compactItems items ++ [']']
  | .object members => '\x7b' :: compactMembers members ++ ['\x7d']

/-- Items with commas between them. -/
def compactItems : List Json → List Char
  | [] => []
  | item :: items => compactChars item ++ compactMoreItems items

/-- Items with a comma before each. -/
def compactMoreItems : List Json → List Char
  | [] => []
  | item :: items => ',' :: compactChars item ++ compactMoreItems items

/-- Members with commas between them. -/
def compactMembers : List (String × Json) → List Char
  | [] => []
  | (key, value) :: members =>
      quoteText key ++ ':' :: compactChars value ++ compactMoreMembers members

/-- Members with a comma before each. -/
def compactMoreMembers : List (String × Json) → List Char
  | [] => []
  | (key, value) :: members =>
      ',' :: quoteText key ++ ':' :: compactChars value ++ compactMoreMembers members

end

/-- A value on one line, without blanks. -/
def compact (value : Json) : String := String.ofList (compactChars value)

/-! ## Indented -/

/-- A new line at the given level. -/
def newLine (level : Nat) : List Char := '\n' :: List.replicate (2 * level) ' '

mutual

/-- A value of which the later lines stand at `level` or deeper. -/
def prettyChars (level : Nat) : Json → List Char
  | .array [] => ['[', ']']
  | .array (item :: items) =>
      '[' :: newLine (level + 1) ++ prettyChars (level + 1) item ++
        prettyMoreItems (level + 1) items ++ newLine level ++ [']']
  | .object [] => ['\x7b', '\x7d']
  | .object ((key, value) :: members) =>
      '\x7b' :: newLine (level + 1) ++ quoteText key ++ ':' :: ' ' ::
        prettyChars (level + 1) value ++ prettyMoreMembers (level + 1) members ++
        newLine level ++ ['\x7d']
  | .null => "null".toList
  | .bool true => "true".toList
  | .bool false => "false".toList
  | .number literal => literal.toList
  | .text value => quoteText value

/-- Items, each on a line of its own after a comma. -/
def prettyMoreItems (level : Nat) : List Json → List Char
  | [] => []
  | item :: items => ',' :: newLine level ++ prettyChars level item ++ prettyMoreItems level items

/-- Members, each on a line of its own after a comma. -/
def prettyMoreMembers (level : Nat) : List (String × Json) → List Char
  | [] => []
  | (key, value) :: members =>
      ',' :: newLine level ++ quoteText key ++ ':' :: ' ' :: prettyChars level value ++
        prettyMoreMembers level members

end

/-- A value over several lines, indented by two spaces a level. -/
def pretty (value : Json) : String := String.ofList (prettyChars 0 value)

end StyleCompletion.Json
