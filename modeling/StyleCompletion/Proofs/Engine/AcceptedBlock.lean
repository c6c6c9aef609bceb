/-
Completing again after a block was accepted.

The candidate of a property whose value is a block inserts the opening of the block, an empty
indented line and the closing brace, and puts the caret on the indented line.  A request at
that caret offers the properties of the block, whatever stands before and after it: the line
of the caret holds blanks only, so nothing is filtered and the context is a property name, and
the line above opens the block with the name of the property.
-/
import StyleCompletion.Proofs.Block.Below
import StyleCompletion.Proofs.Engine.PropertyName
import StyleCompletion.Proofs.Text.Runs

namespace StyleCompletion

/-- The request at the caret after `candidate` was accepted between two texts. -/
def Request.afterAccepting (before after : String) (candidate : Candidate) (path : Path) :
    Request :=
  let document := TextDocument.ofText (before ++ candidate.text ++ after)
  let caret := candidate.cursor.getD (Text.size candidate.text)
  { document := document.view
    path
    position := document.positionAt (Text.size before + caret) }

/-! ## The candidate of a block -/

/-- The candidate offered for a property with a block as its value. -/
theorem eq_blockCandidate_of_mem {schema : Schema} {word : Option String} {settings : Settings}
    {candidate : Candidate} {type : String}
    (hmem : candidate ∈ offerAllProperties schema word settings)
    (htype : schema.propertyType candidate.label = some type)
    (hobject : settings.isObjectType type = true) :
    candidate = blockCandidate settings candidate.label := by
  obtain ⟨⟨name, info⟩, hentry, rfl⟩ := List.mem_map.mp hmem
  rw [label_propertyCandidate] at htype ⊢
  have hinfo := schema.properties.get?_of_mem (List.mem_filter.mp hentry).1
  have hknown : info.type = some type := by
    simpa [Schema.propertyType, Schema.property, hinfo] using htype
  simp [propertyCandidate, hknown, hobject]

/-- What the template of a block has before the caret. -/
def openedBlock (head : String) (settings : Settings) : List Char :=
  head.toList ++ '\x7b' :: '\n' :: settings.indent.toList

theorem toList_blockTemplate (head : String) (settings : Settings) :
    (blockTemplate head settings).1.toList = openedBlock head settings ++ ['\n', '\x7d'] := by
  show (head ++ "\x7b\n" ++ settings.indent ++ "\n\x7d").toList = _
  simp [openedBlock]

/-- The caret is in the text of the template. -/
theorem min_blockTemplate (head : String) (settings : Settings) :
    min (blockTemplate head settings).2 (Text.size (blockTemplate head settings).1) =
      Text.byteLength (openedBlock head settings) := by
  have hcaret : (blockTemplate head settings).2 = Text.byteLength (openedBlock head settings) := by
    show Text.size (head ++ "\x7b\n" ++ settings.indent) = _
    simp [Text.size, openedBlock]
  rw [hcaret, Text.size, toList_blockTemplate, Text.byteLength_append]
  omega

/-- The inserted text is a line that opens the block, an indented line and a brace. -/
theorem toList_text_blockCandidate (settings : Settings) (name : String) :
    (blockCandidate settings name).text.toList =
      name.toList ++ [':', ' ', '\x7b'] ++ '\n' :: (settings.indent.toList ++ ['\n', '\x7d']) := by
  show (blockTemplate (name ++ ": ") settings).1.toList = _
  simp [toList_blockTemplate, openedBlock]

/-- The caret stands at the end of the indented line. -/
theorem cursor_blockCandidate {settings : Settings} {name : String}
    (hsize : Text.size (blockCandidate settings name).text < 0x100000000) :
    (blockCandidate settings name).cursor =
      some (Text.byteLength (name.toList ++ [':', ' ', '\x7b'] ++ ['\n']) +
        Text.byteLength settings.indent.toList) := by
  have hopened : Text.byteLength (openedBlock (name ++ ": ") settings) =
      Text.byteLength (name.toList ++ [':', ' ', '\x7b'] ++ ['\n']) +
        Text.byteLength settings.indent.toList := by
    simp [openedBlock, Nat.add_assoc]
  have hle : Text.byteLength (openedBlock (name ++ ": ") settings) ≤
      Text.size (blockCandidate settings name).text :=
    min_blockTemplate (name ++ ": ") settings ▸ Nat.min_le_right ..
  show some (Text.saturate (min (blockTemplate (name ++ ": ") settings).2
    (Text.size (blockTemplate (name ++ ": ") settings).1))) = _
  rw [min_blockTemplate, Text.saturate_of_lt (by omega), hopened]

/-! ## A line of blanks -/

theorem isPropertyName_of_isBlank {cs : List Char} (h : ∀ c ∈ cs, Text.isBlank c = true) :
    isPropertyName cs = true := by
  rw [isPropertyName, Text.trimLeft_of_isBlank h]
  rfl

/-- A cursor behind a character of no word and before another touches no word. -/
theorem CursorLine.word?_eq_none {before after : List Char}
    (hbefore : Text.StopsAt Text.isCursorChar before)
    (hafter : ∀ c, after.head? = some c → Text.isCursorChar c = false) :
    CursorLine.word? ⟨before, after⟩ = none := by
  have hwordBefore : CursorLine.wordBefore ⟨before, after⟩ = [] := by
    have hnone : ∀ c ∈ ([] : List Char), Text.isCursorChar c = true := by simp
    have hrun := Text.takeWhile_reverse_run hbefore hnone
    rw [List.append_nil] at hrun
    rw [wordBefore, hrun]
    rfl
  have hwordAfter : CursorLine.wordAfter ⟨before, after⟩ = [] := by
    cases after with
    | nil => rfl
    | cons c after => simp [wordAfter, hafter c rfl]
  rw [word?, hwordBefore, hwordAfter]
  rfl

/-- On a line of blanks a cursor touches no word. -/
theorem CursorLine.word?_of_isBlank {cursor : CursorLine}
    (hbefore : ∀ c ∈ cursor.before, Text.isBlank c = true)
    (hafter : ∀ c ∈ cursor.after, Text.isBlank c = true) : cursor.word? = none :=
  CursorLine.word?_eq_none
    (fun c hc => Text.isCursorChar_of_isBlank (hbefore c (List.mem_of_getLast? hc)))
    (fun c hc => Text.isCursorChar_of_isBlank (hafter c (List.mem_of_head? hc)))

/-- A cut through blanks leaves blanks on both sides. -/
theorem CursorLine.isBlank_ofColumn {cs : List Char} (h : ∀ c ∈ cs, Text.isBlank c = true)
    (column : Nat) :
    (∀ c ∈ (ofColumn cs column).before, Text.isBlank c = true) ∧
      ∀ c ∈ (ofColumn cs column).after, Text.isBlank c = true := by
  rw [← Text.takeBytes_append_dropBytes column cs] at h
  exact ⟨fun c hc => h c (List.mem_append_left _ hc), fun c hc => h c (List.mem_append_right _ hc)⟩

/-! ## The lines of the block -/

/-- A place where a block for the property `name` can stand: the name can be read back, the
indent is one of blanks, and only blanks stand between the start of the line and the name. -/
structure BlockSite (settings : Settings) (name before blanks : String) : Prop where
  name_ne : name ≠ ""
  name_solid : ∀ c ∈ name.toList, Text.isBlank c = false ∧ c ≠ '\x7d'
  indent_blank : ∀ c ∈ settings.indent.toList, Text.isBlank c = true ∧ c ≠ '\n'
  before_ends : before = "" ∨ before.toList.getLast? = some '\n'
  blanks_blank : ∀ c ∈ blanks.toList, Text.isBlank c = true ∧ c ≠ '\n'

/-- Each condition on the characters of a text is checked along the text. -/
instance (settings : Settings) (name before blanks : String) :
    Decidable (BlockSite settings name before blanks) :=
  decidable_of_iff
    (name ≠ "" ∧ (name.toList.all fun c => !Text.isBlank c && c != '\x7d') = true ∧
      (settings.indent.toList.all fun c => Text.isBlank c && c != '\n') = true ∧
      (before = "" ∨ before.toList.getLast? = some '\n') ∧
      (blanks.toList.all fun c => Text.isBlank c && c != '\n') = true)
    (by
      simp only [List.all_eq_true, Bool.and_eq_true, Bool.not_eq_true', bne_iff_ne]
      constructor
      · rintro ⟨hname, hsolid, hindent, hbefore, hblanks⟩
        exact ⟨hname, hsolid, hindent, hbefore, hblanks⟩
      · rintro ⟨hname, hsolid, hindent, hbefore, hblanks⟩
        exact ⟨hname, hsolid, hindent, hbefore, hblanks⟩)

/-- The document after the block was accepted. -/
def blockDocument (settings : Settings) (name before blanks after : String) : TextDocument :=
  .ofText (before ++ blanks ++ (blockCandidate settings name).text ++ after)

/-- The line that opens the block. -/
def openingLine (blanks name : String) : List Char :=
  blanks.toList ++ (name.toList ++ [':', ' ', '\x7b'])

theorem stripReturn_openingLine (blanks name : String) :
    TextDocument.stripReturn (openingLine blanks name) = openingLine blanks name := by
  have hlast : (openingLine blanks name).getLast? = some '\x7b' := by simp [openingLine]
  exact TextDocument.stripReturn_of_getLast? (by simp [hlast])

namespace BlockSite

variable {settings : Settings} {name before blanks : String}

theorem isLine_opening (site : BlockSite settings name before blanks) (after : String) :
    IsLine (blockDocument settings name before blanks after).text.toList
      before.toList (openingLine blanks name)
      ('\n' :: (settings.indent.toList ++ ('\n' :: '\x7d' :: after.toList))) where
  text_eq := by
    show (before ++ blanks ++ (blockCandidate settings name).text ++ after).toList = _
    simp [toList_text_blockCandidate, openingLine]
  starts := by simpa using site.before_ends
  no_feed := by
    have hname : '\n' ∉ name.toList := fun hmem =>
      absurd (site.name_solid _ hmem).1 (by decide)
    have hblanks : '\n' ∉ blanks.toList := fun hmem => (site.blanks_blank _ hmem).2 rfl
    simp [openingLine, hblanks, hname]
  stops := .inr rfl

/-- The caret's line holds the indent. -/
theorem isLine_caret (site : BlockSite settings name before blanks) (after : String) :
    IsLine (blockDocument settings name before blanks after).text.toList
      (before.toList ++ (openingLine blanks name ++ ['\n'])) settings.indent.toList
      ('\n' :: '\x7d' :: after.toList) :=
  (site.isLine_opening after).next (fun hmem => (site.indent_blank _ hmem).2 rfl) (.inr rfl)

/-- The number of the caret's line is one more than that of the line that opens the block. -/
theorem count_feed (site : BlockSite settings name before blanks) :
    (before.toList ++ (openingLine blanks name ++ ['\n'])).count '\n' =
      before.toList.count '\n' + 1 :=
  (site.isLine_opening "").count_feed_next

theorem position_afterAccepting (site : BlockSite settings name before blanks) {after : String}
    (hsize : (blockDocument settings name before blanks after).byteLength < 0x100000000)
    (path : Path) :
    (Request.afterAccepting (before ++ blanks) after (blockCandidate settings name)
      path).position =
        ⟨before.toList.count '\n' + 1, Text.byteLength settings.indent.toList⟩ := by
  have hinserted : Text.size (blockCandidate settings name).text < 0x100000000 := by
    simp only [blockDocument, TextDocument.byteLength, TextDocument.ofText, Text.size,
      String.toList_append, Text.byteLength_append] at hsize ⊢
    omega
  have hoffset : Text.size (before ++ blanks) +
      (Text.byteLength (name.toList ++ [':', ' ', '\x7b'] ++ ['\n']) +
        Text.byteLength settings.indent.toList) =
      Text.byteLength (before.toList ++ (openingLine blanks name ++ ['\n'])) +
        Text.byteLength settings.indent.toList := by
    simp [Text.size, openingLine, Nat.add_assoc]
  show (blockDocument settings name before blanks after).positionAt (_ + Option.getD _ _) = _
  rw [cursor_blockCandidate hinserted, Option.getD_some, hoffset, ← site.count_feed]
  exact TextDocument.positionAt_in_line (site.isLine_caret after) (Nat.le_refl _) hsize

/-- The caret's line is shown as the indent, without a carriage return at its end. -/
theorem lineText_caret (site : BlockSite settings name before blanks) (after : String) :
    (blockDocument settings name before blanks after).view.lineText
      (before.toList.count '\n' + 1) =
        some (String.ofList (TextDocument.stripReturn settings.indent.toList)) := by
  show TextDocument.lineText _ _ = _
  rw [← site.count_feed, TextDocument.lineText,
    TextDocument.lineChars_count (site.isLine_caret after)]
  rfl

theorem isBlank_of_mem_caret (site : BlockSite settings name before blanks) :
    ∀ c ∈ TextDocument.stripReturn settings.indent.toList, Text.isBlank c = true :=
  fun c hmem => (site.indent_blank c ((TextDocument.stripReturn_isPrefix _).subset hmem)).1

/-- The line above the caret opens the block. -/
theorem hasRole_opening (site : BlockSite settings name before blanks) (after : String) :
    (blockDocument settings name before blanks after).view.HasRole
      (before.toList.count '\n') (.opens name.toList) := by
  refine ⟨String.ofList (openingLine blanks name), ?_, ?_⟩
  · show TextDocument.lineText _ _ = _
    rw [TextDocument.lineText, TextDocument.lineChars_count (site.isLine_opening after),
      stripReturn_openingLine]
    rfl
  · rw [String.toList_ofList]
    exact lineRole_opening (fun c hc => (site.blanks_blank c hc).1)
      (by simpa using site.name_ne) site.name_solid

/-- The search for the block around the caret finds the block that was accepted. -/
theorem resolveParent_caret (site : BlockSite settings name before blanks) (after : String) :
    resolveParent (blockDocument settings name before blanks after).view
      (before.toList.count '\n' + 1) = pure (some name) := by
  rw [resolveParent_below_opening (site.isLine_opening after)
    (fun c hc => (site.indent_blank c hc).1) (.inr rfl) (site.hasRole_opening after)
    (Nat.le_succ _) (Nat.le_add_right ..), String.ofList_toList]

end BlockSite

/-! ## The answer at the caret -/

/-- A request at the caret after a block was accepted is answered with the properties of the
block, all of them and in their order, whatever stands before and after the block. -/
theorem Engine.complete_afterAccepting_block {engine : Engine} {schema : Schema}
    {word : Option String} {candidate : Candidate} {type : String} {info : TypeInfo}
    {before blanks after : String}
    (hrules : engine.rules = .standard)
    (hschema : engine.store.schema = some schema)
    (hcandidate : candidate ∈ offerAllProperties schema word engine.settings)
    (htype : schema.propertyType candidate.label = some type)
    (hobject : type ∈ engine.settings.objectTypes)
    (hinfo : schema.typeInfo type = some info)
    (hchildren : info.properties ≠ [])
    (site : BlockSite engine.settings candidate.label before blanks)
    (hsize : Text.size (before ++ blanks ++ candidate.text ++ after) < 0x100000000)
    (files : FileSystem) (path : Path) :
    (engine.complete files
      (Request.afterAccepting (before ++ blanks) after candidate path)).value.1 =
        .ok (info.properties.map flatCandidate) := by
  have hblock := eq_blockCandidate_of_mem hcandidate htype
    (by simpa [Settings.isObjectType] using hobject)
  generalize candidate.label = name at hblock htype site
  subst hblock
  generalize hrequest : Request.afterAccepting (before ++ blanks) after
    (blockCandidate engine.settings name) path = request
  have hdocument : request.document =
      (blockDocument engine.settings name before blanks after).view := by
    rw [← hrequest]
    rfl
  have hposition : request.position = _ := hrequest ▸ site.position_afterAccepting hsize path
  have hline : request.document.lineText request.position.line =
      some (String.ofList (TextDocument.stripReturn engine.settings.indent.toList)) := by
    rw [hdocument, hposition]
    exact site.lineText_caret after
  -- Around the caret there are blanks only: a property name is due and no word is typed.
  obtain ⟨hleft, hright⟩ := CursorLine.isBlank_ofColumn site.isBlank_of_mem_caret
    request.position.column
  have hparent : (resolveParent request.document request.position.line).value = some name := by
    rw [hdocument, hposition, site.resolveParent_caret]
    rfl
  have hnested := Schema.nestedProperties_of_children htype hinfo hchildren
  have hall : info.properties.filter (accepts · none) = info.properties :=
    List.filter_eq_self.mpr (fun _ _ => rfl)
  rw [Engine.value_complete_of_loaded hschema,
    Workspace.value_complete_of_isPropertyName hrules hline
      (by rw [String.toList_ofList]; exact isPropertyName_of_isBlank hleft),
    hparent, value_offerProperties_of_nested (by rw [hnested]; rfl), String.toList_ofList,
    CursorLine.word?_of_isBlank hleft hright, Option.map_none, hall]

/-- A schema with one property that has a block, under a name with a colon in it. -/
def panelSchema : Schema where
  properties := .ofList [("width", {}), ("ui:font", { type := some "Font" })]
  types := .ofList [("Font", { properties := ["size", "family", "size"] })]

/-- An engine with that schema. -/
def panelEngine : Engine where
  project := .ofCompanion fun _ => none
  store := .preloaded panelSchema

/-- The block may be accepted below one that is open and above one that is closed. -/
theorem Engine.complete_panelEngine :
    blockCandidate {} "ui:font" ∈
      offerAllProperties panelSchema (some "FONT") panelEngine.settings ∧
    BlockSite panelEngine.settings "ui:font" "é: \x7b\r\n" " \t" ∧
    (panelEngine.complete FileTree.empty.asFileSystem
      (Request.afterAccepting ("é: \x7b\r\n" ++ " \t") "\n\x7d a: \x7b\n"
        (blockCandidate {} "ui:font") ⟨"panel.tss"⟩)).value.1 =
          .ok (["size", "family", "size"].map flatCandidate) := by
  have hcandidate : blockCandidate {} "ui:font" ∈
      offerAllProperties panelSchema (some "FONT") panelEngine.settings := by decide
  have site : BlockSite panelEngine.settings "ui:font" "é: \x7b\r\n" " \t" := by decide
  exact ⟨hcandidate, site, Engine.complete_afterAccepting_block rfl rfl hcandidate rfl
    (by decide) rfl (by decide) site (by decide) _ _⟩

end StyleCompletion
