/-
JSON values.

Members of an object stay in document order and may repeat a key; a number is kept as
it is written.  `Json.fields?` reads a value as a record, the way all settings and
schema entries are given: an object, or an array with the fields in order.
-/

namespace StyleCompletion

/-- A JSON value. -/
inductive Json where
  | null
  | bool (value : Bool)
  | number (literal : String)
  | text (value : String)
  | array (items : List Json)
  | object (members : List (String × Json))

namespace Json

/-- What is wrong with a JSON text. -/
inductive Fault where
  /-- The text breaks a rule of the format. -/
  | malformed
  /-- The text ends inside a value. -/
  | endsEarly
  /-- The text is well formed so far, but it is not what its reader asks for. -/
  | wrongShape
deriving DecidableEq, Repr

/-- The name of a fault's category. -/
def Fault.category : Fault → String
  | .malformed => "Syntax"
  | .endsEarly => "Eof"
  | .wrongShape => "Data"

/-! ## Scalars and lists -/

/-- The text that a value is. -/
def text? : Json → Option String
  | .text value => some value
  | _ => none

/-- The list of texts that a value is. -/
def texts? : Json → Option (List String)
  | .array items => items.mapM text?
  | _ => none

/-- Reads a value that may be null. -/
def nullable? {α : Type} (read : Json → Option α) : Json → Option (Option α)
  | .null => some none
  | value => (read value).map some

/-! ## Records -/

/-- The only member whose key is one of `keys`: `some none` without such a member, and
`none` when there are several. -/
def soleMember? (keys : List String) (members : List (String × Json)) : Option (Option Json) :=
  match members.filter fun member => keys.contains member.1 with
  | [] => some none
  | [member] => some (some member.2)
  | _ => none

/-- Reads a value as a record with the given fields, each known under one or more keys,
and gives the value of each field that is present.  An object may hold other members,
which do not matter, but no field twice; an array holds the fields in order, the last
ones perhaps missing. -/
def fields? (fields : List (List String)) : Json → Option (List (Option Json))
  | .object members => fields.mapM (soleMember? · members)
  | .array items =>
      if items.length ≤ fields.length then
        some (items.map some ++ List.replicate (fields.length - items.length) none)
      else none
  | _ => none

/-- Reads a field that takes a default when it is missing. -/
def fieldOr? {α : Type} (default : α) (read : Json → Option α) : Option Json → Option α
  | none => some default
  | some value => read value

end Json

end StyleCompletion
