/-
Rules: completions for values that the schema does not list.

A rule says which line prefixes it is for and what it offers there.  Rules are tried in
order, the first one that is for a prefix answers, and it may decline.

The reference is `RuleSet` with `find`, and the two rules `I18nRule` and `ImageRule`.
-/
import StyleCompletion.Candidate
import StyleCompletion.Image
import StyleCompletion.Matching
import StyleCompletion.Project
import StyleCompletion.Schema.Basic
import StyleCompletion.Strings

namespace StyleCompletion

/-- What a rule can look at. -/
structure RuleContext where
  linePrefix : String
  word : Option String
  stylePath : Path
  project : Project
  files : FileSystem
  schema : Schema
  settings : Settings

/-- A named rule: the line prefixes it is for, and its answer, `none` to decline. -/
structure Rule where
  name : String
  applies : String → Bool
  answer : RuleContext → Logged (Option (List Candidate))

/-! ## A quoted value at the end of a line -/

/-- The property name and the text after the opening quote, for a line that ends in a quoted
value of these characters. -/
def quotedAssignment? (isInside : Char → Bool) (cs : List Char) :
    Option (List Char × List Char) :=
  let reversed := cs.reverse
  match reversed.dropWhile isInside with
  | quote :: rest =>
      if isQuote quote then
        (assignedName? rest).map fun name => (name, (reversed.takeWhile isInside).reverse)
      else none
  | [] => none

/-! ## Keys of localized texts -/

/-- Properties whose values are keys of localized texts. -/
def keyProperties : List String :=
  ["textid", "titleid", "messageid", "hintid", "hinttextid", "promptid", "i18n"]

/-- Characters of a key that is being typed. -/
def isKeyChar (c : Char) : Bool := Text.isNameChar c || c = '.' || c = '-'

/-- The line ends in the value of a property for localized texts. -/
def endsInKey (linePrefix : String) : Bool :=
  match quotedAssignment? isKeyChar linePrefix.toList with
  | some (name, _) => keyProperties.contains (String.ofList name)
  | none => false

/-- The candidate for a key, with its text as detail. -/
def keyCandidate (entry : StringEntry) : Candidate :=
  let candidate := Candidate.new (String.ofList entry.key) .text
  match Text.trim (entry.text.getD []) with
  | [] => candidate
  | text => candidate.withDetail (String.ofList text)

@[simp] theorem label_keyCandidate (entry : StringEntry) :
    (keyCandidate entry).label = String.ofList entry.key := by
  simp only [keyCandidate]
  split <;> rfl

/-- The candidates of a strings file that pass the filter. -/
def keyCandidates (text : String) (word : Option String) : List Candidate :=
  ((distinctEntries (stringEntries text.toList)).filter fun entry =>
    accepts (String.ofList entry.key) word).map keyCandidate

/-- Offers the keys of the project's strings file. -/
def Rule.textKey : Rule where
  name := "i18n"
  applies := endsInKey
  answer context :=
    match context.project.strings context.files context.stylePath with
    | none => pure none
    | some path =>
        match context.project.readText context.files path with
        | .error _ => Logged.reporting [.stringsUnreadable] none
        | .ok text => pure (some (keyCandidates text context.word))

/-! ## Image paths -/

/-- Characters of an image path that is being typed. -/
def isImagePathChar (c : Char) : Bool :=
  Text.isNameChar c || c = '.' || c = '/' || c = '@' || c = '-'

/-- The name is one of a property whose value is an image. -/
def namesImage (name : List Char) : Bool :=
  "image".toList.isSuffixOf name || "Image".toList.isSuffixOf name

/-- The image path that is being typed at the end of a line. -/
def typedImagePath? (linePrefix : String) : Option String :=
  match quotedAssignment? isImagePathChar linePrefix.toList with
  | some (name, typed) => if namesImage name then some (String.ofList typed) else none
  | none => none

/-- The candidates for the image files among `files` whose labels hold `typed`. -/
def imageCandidates (files : List (List String)) (typed : String) : List Candidate :=
  let labels := (files.filterMap imageLabel?).filter (candidateMatches · typed)
  (Text.distinct labels).map (Candidate.new · .file)

/-- Offers the images below the project's assets directory. -/
def Rule.image : Rule where
  name := "image"
  applies linePrefix := (typedImagePath? linePrefix).isSome
  answer context :=
    match context.project.assets context.files context.stylePath with
    | none => pure none
    | some assets =>
        match context.files.find assets with
        | .error _ => Logged.reporting [.assetUnreadable] (some [])
        | .ok tree =>
            let typed := (typedImagePath? context.linePrefix).getD ""
            pure (some (imageCandidates tree.files typed))

/-! ## Rule sets -/

/-- A rule for the line prefixes that hold the text `part`. -/
def Rule.onText (name part : String) (answer : RuleContext → Option (List Candidate)) : Rule where
  name := name
  applies linePrefix := Text.occursIn part.toList linePrefix.toList
  answer context := pure (answer context)

/-- Rules in the order in which they are tried. -/
structure RuleSet where
  rules : List Rule

namespace RuleSet

/-- The rules of the library itself. -/
def standard : RuleSet := ⟨[.textKey, .image]⟩

/-- The names of the rules, in order. -/
def names (set : RuleSet) : List String := set.rules.map Rule.name

/-- The first rule for a line prefix.  Others for the same prefix are reported. -/
def find (set : RuleSet) (linePrefix : String) : Logged (Option Rule) :=
  match set.rules.filter (·.applies linePrefix) with
  | [] => pure none
  | first :: others =>
      Logged.reporting (others.map fun other => .ambiguousRules first.name other.name linePrefix)
        (some first)

/-- A rule set in words. -/
def describe (set : RuleSet) : String := Text.quotedList set.names

end RuleSet

end StyleCompletion
