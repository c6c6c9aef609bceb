/-
Image files by the label under which a style names them.

The label of an image is its path below the assets directory.  Files for other screen
densities, such as `logo@2x.png`, share the label of the plain file.

The reference functions are `image_label` and `is_density`.
-/
import StyleCompletion.Path

namespace StyleCompletion

/-- Extensions of image files, in lower case. -/
def imageExtensions : List String := ["png", "jpg", "jpeg", "gif", "webp", "svg"]

/-- The extension is one of an image file, whatever the case of its ASCII letters. -/
def isImageExtension (extension : String) : Bool :=
  imageExtensions.contains (String.ofList (extension.toList.map Char.toLower))

/-- A density: ASCII digits, at least one, and an `x`. -/
def isDensity (cs : List Char) : Bool :=
  match cs.reverse with
  | 'x' :: digits => !digits.isEmpty && digits.all Char.isDigit
  | _ => false

/-- A stem without the density after its last `@`. -/
def plainStem (stem : List Char) : List Char :=
  match Text.splitAtLast? '@' stem with
  | some (base, density) => if isDensity density then base else stem
  | none => stem

/-- The label of the file reached by `names` from the assets directory, if it is an
image. -/
def imageLabel? (names : List String) : Option String :=
  match names.getLast? with
  | none => none
  | some name =>
      match Path.splitName name with
      | (_, none) => none
      | (stem, some extension) =>
          if isImageExtension extension then
            let directories := names.dropLast.map ("/" ++ ·)
            some (String.join directories ++ "/" ++
              String.ofList (plainStem stem.toList) ++ "." ++ extension)
          else none

end StyleCompletion
