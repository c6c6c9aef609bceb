/-
Files and directories, as a tree in memory.

A path is followed from the root of the tree, which is the working directory.  Nothing is
known of what surrounds the tree: the directories above it hold no names.
-/
import StyleCompletion.Path

namespace StyleCompletion

/-- A file with its bytes, or a directory with its named entries. -/
inductive FileTree where
  | file (bytes : ByteArray)
  | directory (children : List (String × FileTree))

/-- Why a file cannot be read as text. -/
inductive ReadFault where
  | notFound
  | notADirectory
  | isADirectory
  | invalidData
deriving DecidableEq, Repr

/-- The name of a read fault. -/
def ReadFault.kind : ReadFault → String
  | .notFound => "NotFound"
  | .notADirectory => "NotADirectory"
  | .isADirectory => "IsADirectory"
  | .invalidData => "InvalidData"

namespace FileTree

/-- The directory without entries. -/
def empty : FileTree := .directory []

/-! ## Look-up -/

/-- One step up from the first of the nested trees `trail`. -/
def ascend : List FileTree → List FileTree
  | _ :: parent :: above => parent :: above
  | _ => [empty]

/-- Follows one segment of a path.  `trail` lists the tree that is reached and those
around it. -/
def step (trail : List FileTree) (segment : String) : Except ReadFault (List FileTree) :=
  match trail with
  | .directory children :: _ =>
      if Path.isIdle segment then .ok trail
      else if segment = ".." then .ok (ascend trail)
      else match children.lookup segment with
        | some child => .ok (child :: trail)
        | none => .error .notFound
  | _ => .error .notADirectory

/-- Where a path leads, from the root of `tree`. -/
def find (tree : FileTree) (path : Path) : Except ReadFault FileTree :=
  if path.text.isEmpty then .error .notFound
  else do
    let start := if path.isAbsolute then empty else tree
    let trail ← path.segments.foldlM step [start]
    return trail.headD empty

/-! ## Change -/

/-- The names on the way from the root to where a path leads. -/
def namesOf (path : Path) : List String :=
  path.components.foldl (fun names component =>
    match component with
    | .normal name => names ++ [name]
    | .parent => names.dropLast
    | .root | .current => names) []

/-- The entries of a directory; a file has none. -/
def children : FileTree → List (String × FileTree)
  | .directory children => children
  | .file _ => []

/-- Entries with the one under `name` replaced, or added at the end. -/
def putChild (name : String) (child : FileTree) :
    List (String × FileTree) → List (String × FileTree)
  | [] => [(name, child)]
  | (other, old) :: rest =>
      if other = name then (name, child) :: rest else (other, old) :: putChild name child rest

/-- Changes what stands at `names`, with the directories on the way made as needed. -/
def modify (change : Option FileTree → FileTree) : List String → Option FileTree → FileTree
  | [], old => change old
  | name :: names, old =>
      let entries := (old.getD empty).children
      .directory (putChild name (modify change names (entries.lookup name)) entries)

/-- Puts a file with these bytes at a path. -/
def writeFile (tree : FileTree) (path : Path) (bytes : ByteArray) : FileTree :=
  modify (fun _ => .file bytes) (namesOf path) (some tree)

/-- Makes a directory at a path; one that is there stays as it is. -/
def makeDirectory (tree : FileTree) (path : Path) : FileTree :=
  modify (fun old => old.getD empty) (namesOf path) (some tree)

/-- The tree without what stands at `names`. -/
def removeAt : List String → FileTree → FileTree
  | _, .file bytes => .file bytes
  | [], tree => tree
  | [name], .directory children => .directory (children.filter (·.1 ≠ name))
  | name :: names, .directory children =>
      match children.lookup name with
      | some child => .directory (putChild name (removeAt names child) children)
      | none => .directory children

/-- The tree without the file or directory at a path. -/
def remove (tree : FileTree) (path : Path) : FileTree := removeAt (namesOf path) tree

/-! ## The files below a directory -/

mutual

/-- The files of a tree, each by the names on the way to it: the entries of a directory in
order of their names, those of a directory among them in its place. -/
def files : FileTree → List (List String)
  | .file _ => [[]]
  | .directory children =>
      ((filesByChild children).mergeSort fun a b => a.1 ≤ b.1).flatMap Prod.snd

/-- Each entry's name with the files that it holds. -/
def filesByChild : List (String × FileTree) → List (String × List (List String))
  | [] => []
  | (name, child) :: rest => (name, child.files.map (name :: ·)) :: filesByChild rest

end

end FileTree

/-! ## Access by path -/

/-- Files as a program sees them: what each path leads to at the moment. -/
structure FileSystem where
  find : Path → Except ReadFault FileTree

/-- The files of a tree. -/
def FileTree.asFileSystem (tree : FileTree) : FileSystem := ⟨tree.find⟩

namespace FileSystem

/-- The text of the file that a path leads to. -/
def readText (files : FileSystem) (path : Path) : Except ReadFault String := do
  match ← files.find path with
  | .directory _ => .error .isADirectory
  | .file bytes =>
      match String.fromUTF8? bytes with
      | some text => .ok text
      | none => .error .invalidData

/-- A path leads to a file. -/
def isFile (files : FileSystem) (path : Path) : Bool :=
  match files.find path with
  | .ok (.file _) => true
  | _ => false

/-- A path leads to a directory. -/
def isDirectory (files : FileSystem) (path : Path) : Bool :=
  match files.find path with
  | .ok (.directory _) => true
  | _ => false

end FileSystem

end StyleCompletion
