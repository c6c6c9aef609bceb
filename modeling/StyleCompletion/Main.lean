/-
The program: reads the files that a command may look at, runs it and prints its answer.
-/
import StyleCompletion.CommandLine.Run

namespace StyleCompletion.CommandLine

/-- The tree below a directory entry. -/
partial def loadTree (entry : IO.FS.DirEntry) : IO FileTree := do
  if ← entry.path.isDir then
    let children ← (← entry.path.readDir).toList.mapM fun child => do
      return (child.fileName, ← loadTree child)
    return .directory children
  else return .file (← IO.FS.readBinFile entry.path)

/-- What a path leads to. -/
def loadPath (path : Path) : IO (Except ReadFault FileTree) := do
  try
    let entry : IO.FS.DirEntry := ⟨path.text, ""⟩
    if ← entry.path.isDir then return .ok (← loadTree entry)
    else return .ok (.file (← IO.FS.readBinFile path.text))
  catch _ => return .error .notFound

/-- The files at these paths. -/
def loadPaths (paths : List Path) : IO FileSystem := do
  let found ← paths.mapM fun path => return (path, ← loadPath path)
  return ⟨fun path => (found.lookup path).getD (.error .notFound)⟩

/-- The version that the program reports. -/
def version : String := "tss-complete 0.1.0"

/-- How the program is called. -/
def usage : String :=
  "Usage: tss-complete [OPTIONS] --schema <FILE> <DOCUMENT>\n" ++
    "Options: --config <FILE>, --line <LINE> --column <COLUMN>, --offset <OFFSET>,\n" ++
    "--project-root <PATH>, --format <json|plain>, --help, --version"

/-- Runs the program and gives its exit code. -/
def execute (arguments : List String) : IO UInt32 := do
  match parse arguments with
  | .error .displayHelp =>
      IO.println usage
      return 0
  | .error .displayVersion =>
      IO.println version
      return 0
  | .error error =>
      IO.eprintln ("error: " ++ error.kind ++ "\n\n" ++ usage)
      return error.exitCode.toUInt32
  | .ok arguments =>
      let files ← loadPaths arguments.paths
      match (run arguments files).value with
      | .ok text =>
          IO.print text
          return 0
      | .error failure =>
          IO.eprintln ("Error: " ++ failure.message)
          return 1

end StyleCompletion.CommandLine

/-- The entry point of the program. -/
def main (arguments : List String) : IO UInt32 :=
  StyleCompletion.CommandLine.execute arguments
