/-
Where schemas come from, and the store that loads one on demand.

A source may fail, and may answer differently each time it is asked.  A store asks its
source on the first request and again after each failure; the first schema it gets stays.

The reference is `SchemaStore` with `get`, `is_loaded` and `preloaded`, over a `SchemaSource` whose
`load` may be that of a `JsonFile`, of a schema or of any function.
-/
import StyleCompletion.FileTree
import StyleCompletion.Schema.Codec

namespace StyleCompletion

/-- Why there is no schema. -/
inductive SchemaError where
  /-- The schema file cannot be read. -/
  | unreadable (path : Path) (fault : ReadFault)
  /-- The schema text, of a file if a path is given, is no schema. -/
  | invalid (path : Option Path) (fault : Json.Fault)
  /-- The source gave up. -/
  | failed (reason : String)
deriving DecidableEq, Repr

/-- The text of a schema error. -/
def SchemaError.message : SchemaError → String
  | .unreadable path _ => "failed to read schema from " ++ path.text
  | .invalid none _ => "invalid schema JSON"
  | .invalid (some path) _ => "invalid schema JSON in " ++ path.text
  | .failed reason => "schema source failed: " ++ reason

/-- Reads a schema text that is in no file. -/
def Schema.ofText (text : String) : Except SchemaError Schema :=
  (Schema.parse text).mapError (.invalid none)

/-- Reads the schema file at a path. -/
def Schema.ofFile (files : FileSystem) (path : Path) : Except SchemaError Schema := do
  let text ← (files.readText path).mapError (.unreadable path)
  (Schema.parse text).mapError (.invalid (some path))

/-- A source of schemas: what it answers when it is asked for the `n`-th time, from zero,
with the files as they are then. -/
structure SchemaSource where
  load : (n : Nat) → FileSystem → Except SchemaError Schema

namespace SchemaSource

/-- The source that always has this schema. -/
def ofSchema (schema : Schema) : SchemaSource := ⟨fun _ _ => .ok schema⟩

/-- The source that reads a file each time. -/
def ofFile (path : Path) : SchemaSource := ⟨fun _ files => Schema.ofFile files path⟩

/-- The source that gives these answers in turn, and the last one from then on. -/
def ofAttempts (attempts : Array (Except SchemaError Schema)) : SchemaSource where
  load n _ :=
    (attempts[min n (attempts.size - 1)]?).getD (.error (.failed ""))

end SchemaSource

/-- A store: its source, how often the source was asked, and the schema once there is
one. -/
structure SchemaStore where
  source : SchemaSource
  loads : Nat := 0
  schema : Option Schema := none

namespace SchemaStore

/-- A store that has asked for nothing yet. -/
def new (source : SchemaSource) : SchemaStore := { source }

/-- A store that holds `schema` from the start. -/
def preloaded (schema : Schema) : SchemaStore :=
  { source := .ofSchema {}, schema := some schema }

/-- The store has its schema. -/
def isLoaded (store : SchemaStore) : Bool := store.schema.isSome

/-- The event that reports a loaded schema. -/
def loadedEvent (schema : Schema) : Event :=
  .schemaLoaded schema.tags.size schema.properties.size schema.types.size

/-- The schema, loaded now if there is none yet, and the store afterwards. -/
def get (store : SchemaStore) (files : FileSystem) :
    Logged (Except SchemaError Schema × SchemaStore) :=
  match store.schema with
  | some schema => pure (.ok schema, store)
  | none =>
      let asked := { store with loads := store.loads + 1 }
      match store.source.load store.loads files with
      | .error error => pure (.error error, asked)
      | .ok schema =>
          Logged.reporting [loadedEvent schema] (.ok schema, { asked with schema := some schema })

/-- How many of `n` requests, served one after the other, get a schema, and the store
afterwards. -/
def getMany (store : SchemaStore) (files : FileSystem) : Nat → Nat × SchemaStore
  | 0 => (0, store)
  | n + 1 =>
      let (answer, next) := (store.get files).value
      let (successes, last) := next.getMany files n
      (successes + (if answer.isOk then 1 else 0), last)

/-- A store in words. -/
def describe (store : SchemaStore) : String :=
  "SchemaStore \x7b loaded: " ++ (if store.isLoaded then "true" else "false") ++ ", .. \x7d"

end SchemaStore

end StyleCompletion
