/-
Reading JSON texts.

A text is read against a form, which says what its reader asks for.  The first fault
on the way through the text decides: a value of the wrong kind is a fault where it
stands, before anything that follows it is looked at.  `Form.any` asks for nothing.
-/
import StyleCompletion.Json.Number
import StyleCompletion.Json.Quote

namespace StyleCompletion.Json

/-- What a reader asks of a value. -/
inductive Form where
  /-- Any value. -/
  | any
  /-- A text. -/
  | text
  /-- An array whose items all have one form. -/
  | listOf (item : Form)
  /-- An object with these members at most, each once, or an array of their values in
  order, the last ones perhaps missing. -/
  | record (fields : List (String × Form))

namespace Form

/-- The form of the next item of an array, and that of the array after it. -/
def item? : Form → Option (Form × Form)
  | any => some (any, any)
  | listOf item => some (item, listOf item)
  | record ((_, form) :: rest) => some (form, record rest)
  | _ => none

/-- The form of the value under `key`, and that of the object without this member. -/
def member? (key : String) : Form → Option (Form × Form)
  | any => some (any, any)
  | record fields =>
      (fields.lookup key).map fun form => (form, record (fields.filter (·.1 ≠ key)))
  | _ => none

/-- Texts are asked for. -/
def takesText : Form → Bool
  | any | text => true
  | _ => false

/-- Numbers, truth values and null are asked for. -/
def takesScalar : Form → Bool
  | any => true
  | _ => false

/-- Arrays are asked for. -/
def takesArray : Form → Bool
  | text => false
  | _ => true

/-- Objects are asked for. -/
def takesObject : Form → Bool
  | any | record _ => true
  | _ => false

end Form

/-! ## Words and blanks -/

/-- The blanks of the format. -/
def isSpace (c : Char) : Bool := c = ' ' || c = '\n' || c = '\t' || c = '\r'

/-- The text without blanks at its start. -/
def skipSpaces (cs : List Char) : List Char := cs.dropWhile isSpace

/-- Reads the rest of a word. -/
def readWord : List Char → List Char → Except Fault (List Char)
  | [], rest => .ok rest
  | _ :: _, [] => .error .endsEarly
  | w :: word, c :: rest => if c = w then readWord word rest else .error .malformed

/-- Reads a colon after blanks. -/
def readColon (cs : List Char) : Except Fault (List Char) :=
  match skipSpaces cs with
  | ':' :: rest => .ok rest
  | [] => .error .endsEarly
  | _ => .error .malformed

/-- Reads a number, a truth value or null, the first character of which is `c`. -/
def readScalar (c : Char) (rest : List Char) : Except Fault (Json × List Char) :=
  if c = 'n' then (readWord ['u', 'l', 'l'] rest).map fun rest => (.null, rest)
  else if c = 't' then (readWord ['r', 'u', 'e'] rest).map fun rest => (.bool true, rest)
  else if c = 'f' then (readWord ['a', 'l', 's', 'e'] rest).map fun rest => (.bool false, rest)
  else if c = '-' || c.isDigit then
    (readNumber (c :: rest)).map fun (literal, rest) => (.number (String.ofList literal), rest)
  else .error .malformed

/-! ## Values -/

mutual

/-- Reads a value, and gives what follows it.  `depth` is how many arrays and objects
may still be opened. -/
def readValue (fuel depth : Nat) (form : Form) (cs : List Char) :
    Except Fault (Json × List Char) :=
  match fuel with
  | 0 => .error .malformed
  | fuel + 1 =>
      match skipSpaces cs with
      | [] => .error .endsEarly
      | '"' :: rest => do
          let (value, rest) ← readText rest
          if form.takesText then .ok (.text (String.ofList value), rest)
          else .error .wrongShape
      | '[' :: rest =>
          if !form.takesArray then .error .wrongShape
          else match depth with
            | 0 => .error .malformed
            | depth + 1 => do
                let (items, rest) ← readItems fuel depth form true rest
                return (.array items, rest)
      | '\x7b' :: rest =>
          if !form.takesObject then .error .wrongShape
          else match depth with
            | 0 => .error .malformed
            | depth + 1 => do
                let (members, rest) ← readMembers fuel depth form true rest
                return (.object members, rest)
      | c :: rest => do
          let (value, rest) ← readScalar c rest
          if form.takesScalar then .ok (value, rest) else .error .wrongShape

/-- Reads the items of an array up to its end, with a comma before each but the first. -/
def readItems (fuel depth : Nat) (form : Form) (first : Bool) (cs : List Char) :
    Except Fault (List Json × List Char) :=
  match fuel with
  | 0 => .error .malformed
  | fuel + 1 =>
      match skipSpaces cs with
      | [] => .error .endsEarly
      | ']' :: rest => .ok ([], rest)
      | c :: rest =>
          match form.item? with
          | none => .error .malformed
          | some (itemForm, form) => do
              let start ←
                if first then .ok (c :: rest)
                else if c = ',' then
                  match skipSpaces rest with
                  | [] => .error .endsEarly
                  | ']' :: _ => .error .malformed
                  | next => .ok next
                else .error .malformed
              let (item, rest) ← readValue fuel depth itemForm start
              let (items, rest) ← readItems fuel depth form false rest
              return (item :: items, rest)

/-- Reads the members of an object up to its end, with a comma before each but the
first. -/
def readMembers (fuel depth : Nat) (form : Form) (first : Bool) (cs : List Char) :
    Except Fault (List (String × Json) × List Char) :=
  match fuel with
  | 0 => .error .malformed
  | fuel + 1 =>
      match skipSpaces cs with
      | [] => .error .endsEarly
      | '\x7d' :: rest => .ok ([], rest)
      | c :: rest => do
          let start ←
            if first then .ok (c :: rest)
            else if c = ',' then
              match skipSpaces rest with
              | [] => .error .endsEarly
              | next => .ok next
            else .error .malformed
          match start with
          | '"' :: rest => do
              let (key, rest) ← readText rest
              let key := String.ofList key
              match form.member? key with
              | none => .error .wrongShape
              | some (valueForm, form) => do
                  let rest ← readColon rest
                  let (value, rest) ← readValue fuel depth valueForm rest
                  let (members, rest) ← readMembers fuel depth form false rest
                  return ((key, value) :: members, rest)
          | _ => .error .malformed

end

/-! ## Documents -/

/-- How many arrays and objects may be open at once. -/
def depthLimit : Nat := 127

/-- Steps that are enough to read `cs`: each character takes part in at most two. -/
def readerFuel (cs : List Char) : Nat := 2 * cs.length + 2

/-- Only blanks are left. -/
def readEnd (cs : List Char) : Except Fault Unit :=
  if (skipSpaces cs).isEmpty then .ok () else .error .malformed

/-- Reads the value at the start of a text against a form, then what it stands for, then
the end of the text. -/
def decode {α : Type} (form : Form) (ofJson? : Json → Option α) (text : String) :
    Except Fault α := do
  let cs := text.toList
  let (value, rest) ← readValue (readerFuel cs) depthLimit form cs
  let result ← match ofJson? value with
    | some result => .ok result
    | none => .error .wrongShape
  readEnd rest
  return result

/-- The value that a text is. -/
def parse (text : String) : Except Fault Json := decode .any some text

end StyleCompletion.Json
