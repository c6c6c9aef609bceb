/-
What is being typed at a cursor, told from the text before it on its line.

Four patterns describe the end of a line prefix: a property value (`color: re`), a
property name (`  backgr`), a class or id selector (`".tit`) and a tag (`"Win`).
They exclude each other, and are tried in this order.

The reference is `classify`.  Its `classify_kind` is `contextKind?`, and its patterns
`PROPERTY_VALUE`, `PROPERTY_NAME`, `CLASS_OR_ID` and `TAG` are the four tests that it tries.
-/
import StyleCompletion.Text.Blank
import StyleCompletion.Text.Word

namespace StyleCompletion

/-- The two kinds of selector that a style names besides tags. -/
inductive SelectorKind where
  | byClass
  | byId
deriving DecidableEq, Repr

/-- The markup attribute that declares selectors of this kind. -/
def SelectorKind.attribute : SelectorKind → String
  | .byClass => "class"
  | .byId => "id"

/-- What a cursor sits in. -/
inductive ContextKind where
  | propertyValue (property : String)
  | propertyName
  | classOrId (selector : SelectorKind)
  | tag
deriving DecidableEq, Repr

/-- A classified cursor. -/
structure Context where
  kind : ContextKind
  linePrefix : String
  /-- The word that the cursor touches. -/
  word : Option String
deriving DecidableEq, Repr

/-! ## An assignment at the end of a line -/

/-- The name before a colon, with blanks allowed on both sides of the colon, read
backwards from the end of the text.  The name is the longest one that ends there. -/
def assignedName? (reversed : List Char) : Option (List Char) :=
  match Text.trimLeft reversed with
  | ':' :: rest =>
      match (Text.trimLeft rest).takeWhile Text.isNameChar with
      | [] => none
      | name => some name.reverse
  | _ => none

/-! ## The four patterns -/

/-- Characters of a value that is being typed. -/
def isValueChar (c : Char) : Bool := Text.isNameChar c || c = '"' || c = '\'' || c = '.'

/-- The property whose value ends the text. -/
def valueProperty? (cs : List Char) : Option (List Char) :=
  assignedName? (cs.reverse.dropWhile isValueChar)

/-- The text is a name, perhaps empty, after blanks. -/
def isPropertyName (cs : List Char) : Bool := (Text.trimLeft cs).all Text.isNameChar

/-- The two characters that open a string. -/
def isQuote (c : Char) : Bool := c = '\'' || c = '"'

/-- The kind of selector that a quote followed by `.` or `#` and a name starts. -/
def selectorKind? : List Char → Option SelectorKind
  | quote :: mark :: name =>
      if isQuote quote && name.all Text.isNameChar then
        if mark = '.' then some .byClass else if mark = '#' then some .byId else none
      else none
  | _ => none

/-- The text is a quote followed by a name, perhaps empty. -/
def isTag : List Char → Bool
  | quote :: name => isQuote quote && name.all Text.isNameChar
  | [] => false

/-- What is being typed at the end of the line prefix `cs`. -/
def contextKind? (cs : List Char) : Option ContextKind :=
  match valueProperty? cs with
  | some property => some (.propertyValue (String.ofList property))
  | none =>
      if isPropertyName cs then some .propertyName
      else match selectorKind? cs with
        | some selector => some (.classOrId selector)
        | none => if isTag cs then some .tag else none

/-- Classifies a line prefix, if a completion can start there. -/
def classify (linePrefix : String) (word : Option String) : Option Context :=
  (contextKind? linePrefix.toList).map fun kind => ⟨kind, linePrefix, word⟩

end StyleCompletion
