/-
Paths, written with `/` between their parts.

A path keeps its text as it was given.  Its components are what the text means: repeated
and trailing slashes do not matter, nor does a `.` that is not the first part.
-/
import StyleCompletion.Text.Search

namespace StyleCompletion

/-- A path as it is written. -/
structure Path where
  text : String
deriving DecidableEq, Repr

/-- A part of a path. -/
inductive Component where
  /-- The start of an absolute path. -/
  | root
  /-- A `.` at the start of a path. -/
  | current
  /-- A `..`. -/
  | parent
  /-- Any other name. -/
  | normal (name : String)
deriving DecidableEq, Repr

/-- How a component is written. -/
def Component.text : Component → String
  | .root => "/"
  | .current => "."
  | .parent => ".."
  | .normal name => name

namespace Path

/-- The texts between slashes, empty ones included. -/
def segments (path : Path) : List String :=
  (path.text.toList.splitOn '/').map String.ofList

/-- A segment that leads nowhere. -/
def isIdle (segment : String) : Bool := segment = "" || segment = "."

/-- The path starts at the root. -/
def isAbsolute (path : Path) : Bool := path.text.toList.head? = some '/'

/-- The component that a segment is. -/
def componentOf (segment : String) : Component :=
  if segment = ".." then .parent else .normal segment

/-- The parts of a path. -/
def components (path : Path) : List Component :=
  let start := if path.isAbsolute then [.root]
    else if path.segments.head? = some "." then [.current] else []
  start ++ (path.segments.filter (!isIdle ·)).map componentOf

/-- The path `next` as seen from `base`.  An absolute `next` stands for itself. -/
def join (base : Path) (next : String) : Path :=
  if next.toList.head? = some '/' then ⟨next⟩
  else if base.text.isEmpty || base.text.toList.getLast? = some '/' then ⟨base.text ++ next⟩
  else ⟨base.text ++ "/" ++ next⟩

/-- The path with these parts. -/
def ofComponents (components : List Component) : Path :=
  components.foldl (fun path component => path.join component.text) ⟨""⟩

/-- The name of the file that a path leads to, unless it ends in a `..`. -/
def fileName? (path : Path) : Option String :=
  match path.components.getLast? with
  | some (.normal name) => some name
  | _ => none

/-! ## Extensions -/

/-- A file name cut at its last dot into stem and extension.  A name without a dot, or
with its only dot at the start, has no extension. -/
def splitName (name : String) : String × Option String :=
  match Text.splitAtLast? '.' name.toList with
  | some (stem, extension) =>
      if name = ".." || stem.isEmpty then (name, none)
      else (String.ofList stem, some (String.ofList extension))
  | none => (name, none)

/-- `path` with the extension of its file replaced, or added to a file without one. -/
def withExtension (path : Path) (extension : String) : Path :=
  match path.segments.reverse.dropWhile isIdle with
  | [] => path
  | name :: before =>
      if name = ".." then path
      else
        let renamed := (splitName name).1 ++ "." ++ extension
        ⟨String.intercalate "/" (renamed :: before).reverse⟩

end Path

end StyleCompletion
