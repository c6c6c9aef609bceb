/-
Projects: which files belong to a style document.

The reference is `ProjectLookup` with its functions `companion_markup`, `i18n_strings`,
`assets_dir` and `read_text`, the fields of a `Project`.  `alloy` gives them as `AlloyProject`
does, and `besideMarkup` as `sibling_markup`.
-/
import StyleCompletion.FileTree

namespace StyleCompletion

/-- How a project finds the files that belong to a style document, and reads them. -/
structure Project where
  /-- The markup that a style document belongs to. -/
  companion : Path → Option Path
  /-- The strings file with the localized texts. -/
  strings : FileSystem → Path → Option Path := fun _ _ => none
  /-- The directory that holds the assets. -/
  assets : FileSystem → Path → Option Path := fun _ _ => none
  /-- The text of a file. -/
  readText : FileSystem → Path → Except ReadFault String := FileSystem.readText

namespace Project

/-- A project that knows companions only. -/
def ofCompanion (companion : Path → Option Path) : Project := { companion }

/-- A project in which the markup stands beside the style document. -/
def besideMarkup : Project := ofCompanion fun style => some (style.withExtension "xml")

/-! ## The standard layout -/

/-- The components up to the last `styles`, not included, and those after it. -/
def splitAtStyles? (components : List Component) : Option (List Component × List Component) :=
  Text.splitAtLast? (Component.normal "styles") components

/-- A base directory without the theme that it ends in. -/
def dropTheme (base : List Component) : List Component :=
  match base.reverse with
  | _ :: themes :: above => if themes = .normal "themes" then above.reverse else base
  | _ => base

/-- The view of a style document: under `views` instead of the last `styles`, with the
extension `xml`.  The styles of a theme belong to the views of the application. -/
def viewOf (style : Path) : Option Path :=
  match splitAtStyles? style.components with
  | none => none
  | some (_, []) => none
  | some (base, rest) =>
      let view := Path.ofComponents (dropTheme base ++ [.normal "views"] ++ rest)
      some (view.withExtension "xml")

/-- The places of the strings file for a locale, in order of preference. -/
def stringsPlaces (root : Path) (locale : String) : List Path :=
  [root.join "app", root].map fun base =>
    ((base.join "i18n").join locale).join "strings.xml"

/-- The place of the assets directory. -/
def assetsPlace (root : Path) : Path := (root.join "app").join "assets"

/-- A project laid out in the standard way below `root`. -/
def alloy (root : Path) (locale : String) : Project where
  companion := viewOf
  strings files _ := (stringsPlaces root locale).find? files.isFile
  assets files _ := if files.isDirectory (assetsPlace root) then some (assetsPlace root) else none

/-- The locale of a project that names none. -/
def defaultLocale : String := "en"

/-! ## Projects in memory -/

/-- A project whose three files are fixed and whose texts are held in memory.  Of several
texts for one path the last counts. -/
def inMemory (contents : List (Path × String)) (companion strings assets : Option Path) :
    Project where
  companion _ := companion
  strings _ _ := strings
  assets _ _ := assets
  readText _ path :=
    match contents.reverse.find? fun entry => entry.1.components = path.components with
    | some (_, text) => .ok text
    | none => .error .notFound

end Project

end StyleCompletion
