/-
The arguments of the command line.

Arguments are read from left to right.  The value of an argument is checked when the next
known argument begins, so an unknown argument is reported before a bad value that stands
right in front of it.  What belongs together is checked at the end: first conflicts, then
what is missing.

The reference is the declaration of `Cli`: its options are the slots, and what it says of an option
(`requires`, `conflicts_with`, `required_unless_present`) is among the demands of its slot.
-/
import StyleCompletion.Path

namespace StyleCompletion.CommandLine

/-- How candidates are printed. -/
inductive Format where
  | json
  | plain
deriving DecidableEq, Repr

/-- Why arguments are not accepted, or what they ask for instead of a completion. -/
inductive UsageError where
  | unknownArgument
  | invalidValue
  | valueValidation
  | tooManyValues
  | argumentConflict
  | missingRequiredArgument
  | displayHelp
  | displayVersion
deriving DecidableEq, Repr

namespace UsageError

/-- The name of a usage error. -/
def kind : UsageError → String
  | unknownArgument => "UnknownArgument"
  | invalidValue => "InvalidValue"
  | valueValidation => "ValueValidation"
  | tooManyValues => "TooManyValues"
  | argumentConflict => "ArgumentConflict"
  | missingRequiredArgument => "MissingRequiredArgument"
  | displayHelp => "DisplayHelp"
  | displayVersion => "DisplayVersion"

/-- The exit code of the program. -/
def exitCode : UsageError → Nat
  | displayHelp | displayVersion => 0
  | _ => 2

end UsageError

/-- The arguments with a value. -/
inductive Slot where
  | document
  | schema
  | config
  | line
  | column
  | offset
  | projectRoot
  | format
deriving DecidableEq, Repr

/-- What an argument that starts with two dashes names. -/
inductive LongName where
  | slot (slot : Slot)
  | help
  | version
deriving DecidableEq, Repr

/-- The argument with this long name. -/
def longName? (name : String) : Option LongName :=
  match name with
  | "schema" => some (.slot .schema)
  | "config" => some (.slot .config)
  | "line" => some (.slot .line)
  | "column" => some (.slot .column)
  | "offset" => some (.slot .offset)
  | "project-root" => some (.slot .projectRoot)
  | "format" => some (.slot .format)
  | "help" => some .help
  | "version" => some .version
  | _ => none

/-! ## Values -/

/-- The value of decimal digits, at least one. -/
def decimal? (digits : List Char) : Option Nat :=
  if digits.isEmpty || !digits.all Char.isDigit then none
  else some (digits.foldl (fun n d => n * 10 + (d.toNat - '0'.toNat)) 0)

/-- A count of at most 64 bits, perhaps with a plus sign. -/
def count? (text : String) : Option Nat :=
  let digits := match text.toList with
    | '+' :: digits => digits
    | digits => digits
  (decimal? digits).filter (· < 0x10000000000000000)

/-- A coordinate of at most 32 bits, perhaps with a sign; zero may have a minus. -/
def coordinate? (text : String) : Option Nat :=
  match text.toList with
  | '-' :: digits => (decimal? digits).filter (· = 0)
  | '+' :: digits => (decimal? digits).filter (· < 0x100000000)
  | digits => (decimal? digits).filter (· < 0x100000000)

/-- A path, which is not empty. -/
def path? (text : String) : Option Path := if text.isEmpty then none else some ⟨text⟩

/-- The format with this name. -/
def format? (text : String) : Option Format :=
  if text = "json" then some .json else if text = "plain" then some .plain else none

/-! ## Collecting -/

/-- The values found so far. -/
structure Values where
  document : Option Path := none
  schema : Option Path := none
  config : Option Path := none
  line : Option Nat := none
  column : Option Nat := none
  offset : Option Nat := none
  projectRoot : Option Path := none
  format : Option Format := none
deriving DecidableEq, Repr

/-- Fills a field that is still empty with a value that can be read. -/
def fill {α : Type} (old : Option α) (read : String → Option α) (unread : UsageError)
    (text : String) : Except UsageError (Option α) :=
  if old.isSome then .error .argumentConflict
  else match read text with
    | some value => .ok (some value)
    | none => .error unread

/-- Takes in the value of an argument, which may be given once. -/
def Values.set (values : Values) (slot : Slot) (text : String) : Except UsageError Values :=
  match slot with
  | .document => do
      return { values with document := ← fill values.document path? .invalidValue text }
  | .schema => do
      return { values with schema := ← fill values.schema path? .invalidValue text }
  | .config => do
      return { values with config := ← fill values.config path? .invalidValue text }
  | .line => do
      return { values with line := ← fill values.line coordinate? .valueValidation text }
  | .column => do
      return { values with column := ← fill values.column coordinate? .valueValidation text }
  | .offset => do
      return { values with offset := ← fill values.offset count? .valueValidation text }
  | .projectRoot => do
      return { values with projectRoot := ← fill values.projectRoot path? .invalidValue text }
  | .format => do
      return { values with format := ← fill values.format format? .invalidValue text }

/-- Where the reading of arguments stands. -/
structure State where
  values : Values := {}
  /-- The last argument, with its value if that was given. -/
  pending : Option (Slot × Option String) := none
  /-- The document was named. -/
  hasDocument : Bool := false
  /-- A `--` was met: what follows names no arguments. -/
  onlyPositional : Bool := false

namespace State

/-- Takes in the argument that is still pending. -/
def settle (state : State) : Except UsageError State :=
  match state.pending with
  | none => .ok state
  | some (_, none) => .error .invalidValue
  | some (slot, some text) => do
      return { state with values := ← state.values.set slot text, pending := none }

/-- Reads `--name` or `--name=value`. -/
def readLong (state : State) (name : String) (value : Option String) :
    Except UsageError State :=
  match longName? name, value with
  | none, _ => .error .unknownArgument
  | some (.slot slot), some value => do
      let state ← state.settle
      return { state with values := ← state.values.set slot value }
  | some (.slot slot), none => do
      return { (← state.settle) with pending := some (slot, none) }
  | some .help, none => do
      let _ ← state.settle
      .error .displayHelp
  | some .version, none => do
      let _ ← state.settle
      .error .displayVersion
  | some _, some _ => .error .tooManyValues

/-- Reads a dash and letters, the first of which decides. -/
def readShort (state : State) (letter : Char) : Except UsageError State :=
  if letter = 'h' then do
    let _ ← state.settle
    .error .displayHelp
  else if letter = 'V' then do
    let _ ← state.settle
    .error .displayVersion
  else .error .unknownArgument

/-- Reads a text that is the value of the pending argument or names the document. -/
def readPlain (state : State) (text : String) : Except UsageError State :=
  match state.pending, state.onlyPositional with
  | some (slot, none), false => .ok { state with pending := some (slot, some text) }
  | _, _ =>
      if state.hasDocument then .error .unknownArgument
      else do
        return { (← state.settle) with pending := some (.document, some text), hasDocument := true }

/-- The text before the first `=` and, if there is one, the text after it. -/
def splitAtEquals (cs : List Char) : String × Option String :=
  match cs.dropWhile (· ≠ '=') with
  | [] => (String.ofList cs, none)
  | _ :: value => (String.ofList (cs.takeWhile (· ≠ '=')), some (String.ofList value))

/-- Reads one argument. -/
def read (state : State) (argument : String) : Except UsageError State :=
  if state.onlyPositional then state.readPlain argument
  else match argument.toList with
    | ['-', '-'] => .ok { state with onlyPositional := true }
    | '-' :: '-' :: rest =>
        let (name, value) := splitAtEquals rest
        state.readLong name value
    | '-' :: letter :: _ => state.readShort letter
    | _ => state.readPlain argument

end State

/-! ## Arguments that go together -/

/-- What an argument asks of the others. -/
structure Demands where
  /-- It must be given. -/
  required : Bool := false
  /-- It must be given unless one of these is, if there are any. -/
  requiredUnless : List Slot := []
  /-- What must be given with it. -/
  requires : List Slot := []
  /-- What may not be given with it. -/
  conflicts : List Slot := []

namespace Slot

/-- The demands of each argument.  A cursor is an offset, or a line and a column. -/
def demands : Slot → Demands
  | document | schema => { required := true }
  | line => { requires := [column], conflicts := [offset] }
  | column => { requires := [line] }
  | offset => { requiredUnless := [line] }
  | config | projectRoot | format => {}

/-- All arguments with a value. -/
def all : List Slot := [document, schema, config, line, column, offset, projectRoot, format]

theorem mem_all (slot : Slot) : slot ∈ all := by
  cases slot <;> decide

/-- The two may not be given together, whichever of them says so. -/
def excludes (slot other : Slot) : Bool :=
  slot.demands.conflicts.contains other || other.demands.conflicts.contains slot

end Slot

/-- Arguments that ask for a completion. -/
structure Arguments where
  document : Path
  schema : Path
  config : Option Path
  line : Option Nat
  column : Option Nat
  offset : Option Nat
  projectRoot : Option Path
  format : Format
deriving DecidableEq, Repr

namespace Values

/-- The argument was given. -/
def gives (values : Values) : Slot → Bool
  | .document => values.document.isSome
  | .schema => values.schema.isSome
  | .config => values.config.isSome
  | .line => values.line.isSome
  | .column => values.column.isSome
  | .offset => values.offset.isSome
  | .projectRoot => values.projectRoot.isSome
  | .format => values.format.isSome

/-- An argument that was given excludes this one. -/
def rulesOut (values : Values) (slot : Slot) : Bool :=
  Slot.all.any fun other => values.gives other && slot.excludes other

/-- The argument is called for, by itself or by one that was given. -/
def callsFor (values : Values) (slot : Slot) : Bool :=
  slot.demands.required ||
    Slot.all.any fun other => values.gives other && other.demands.requires.contains slot

/-- The argument has substitutes, and none of them was given. -/
def lacksSubstitute (values : Values) (slot : Slot) : Bool :=
  !slot.demands.requiredUnless.isEmpty && !slot.demands.requiredUnless.any values.gives

/-- The argument is missing.  One that is ruled out is not missed, even if it is called for. -/
def lacks (values : Values) (slot : Slot) : Bool :=
  !values.gives slot &&
    (values.callsFor slot && !values.rulesOut slot || values.lacksSubstitute slot)

/-- The values as arguments that ask for a completion. -/
def arguments (values : Values) (document schema : Path) : Arguments := {
  document, schema
  config := values.config
  line := values.line
  column := values.column
  offset := values.offset
  projectRoot := values.projectRoot
  format := values.format.getD .json }

/-- The arguments, if they go together and none is missing. -/
def check (values : Values) : Except UsageError Arguments :=
  if Slot.all.any fun slot => values.gives slot && values.rulesOut slot then
    .error .argumentConflict
  else if Slot.all.any values.lacks then .error .missingRequiredArgument
  else match values.document, values.schema with
    | some document, some schema => .ok (values.arguments document schema)
    | _, _ => .error .missingRequiredArgument

end Values

/-- The values of all arguments, taken one by one. -/
def collect (arguments : List String) : Except UsageError Values := do
  let state ← arguments.foldlM State.read {}
  return (← state.settle).values

/-- Reads the arguments of the program, its own name not among them. -/
def parse (arguments : List String) : Except UsageError Arguments := do
  (← collect arguments).check

end StyleCompletion.CommandLine
