/-
Blocks that narrow the candidates, and where they are opened.

Inside a block whose properties are known only those are offered.  The context of a cursor is
read off the text before it, but the search for a block reads the cursor's line to its end.  So
a block that is opened to the right of the cursor narrows the candidates as well.  That is the
one exception: unless the cursor's line itself opens the block, the block is opened on an
earlier line.
-/
import StyleCompletion.Proofs.Block.Opening
import StyleCompletion.Proofs.Block.Search
import StyleCompletion.Proofs.Engine.PropertyName

namespace StyleCompletion

/-! ## Narrowing -/

/-- The search from the cursor's line is decided by line `n`, which opens the block `parent`,
and the schema knows the properties `nested` of that block. -/
structure Request.NarrowedBy (request : Request) (schema : Schema) (n : Nat) (parent : String)
    (nested : List String) : Prop where
  found : NearestRole request.document
    (min (request.position.line + 1) request.document.lineCount) n (.opens parent.toList)
  known : (schema.nestedProperties parent).value = some nested

/-- The block `parent`, which line `n` opens, is opened before the cursor: on an earlier line,
or by the text before the cursor on its line. -/
def Request.OpenedBeforeCursor (request : Request) (n : Nat) (parent : String) : Prop :=
  n < request.position.line ∨
    n = request.position.line ∧ ∃ line, request.document.lineText n = some line ∧
      BlockReading (CursorLine.ofColumn line.toList request.position.column).before parent.toList

section

variable {request : Request} {schema : Schema} {n : Nat} {line parent : String}
  {nested : List String}

/-- A block narrows the candidates from some line exactly when the search finds it and the
schema knows its properties. -/
theorem Request.exists_narrowedBy_iff :
    (∃ n, request.NarrowedBy schema n parent nested) ↔
      (resolveParent request.document request.position.line).value = some parent ∧
        (schema.nestedProperties parent).value = some nested := by
  rw [resolveParent, value_parentAbove_eq_some_iff]
  constructor
  · rintro ⟨n, hnarrowed⟩
    exact ⟨⟨n, hnarrowed.found⟩, hnarrowed.known⟩
  · rintro ⟨⟨n, hfound⟩, hknown⟩
    exact ⟨n, hfound, hknown⟩

/-- No block is opened by a property name. -/
theorem not_blockReading_of_isPropertyName {cs name : List Char} (h : isPropertyName cs = true) :
    ¬BlockReading cs name :=
  fun hreading => notMem_of_isPropertyName h (by decide) (by decide) hreading.brace_mem

/-- At a property name only an earlier line can have opened a block before the cursor. -/
theorem Request.openedBeforeCursor_iff
    (hline : request.document.lineText request.position.line = some line)
    (hname : isPropertyName
      (CursorLine.ofColumn line.toList request.position.column).before = true) :
    request.OpenedBeforeCursor n parent ↔ n < request.position.line := by
  constructor
  · rintro (hlt | ⟨rfl, other, hother, hreading⟩)
    · exact hlt
    · rw [hline] at hother
      obtain rfl := Option.some.inj hother
      exact absurd hreading (not_blockReading_of_isPropertyName hname)
  · exact .inl

/-- A block that is not opened on an earlier line is opened on the cursor's own. -/
theorem Request.NarrowedBy.opens_of_not_lt (h : request.NarrowedBy schema n parent nested)
    (hline : request.document.lineText request.position.line = some line)
    (hlate : ¬n < request.position.line) :
    request.position.line < request.document.lineCount ∧
      lineRole line.toList = .opens parent.toList := by
  have hlt := h.found.lt
  obtain rfl : n = request.position.line := by omega
  obtain ⟨text, htext, hrole⟩ := h.found.hasRole
  rw [hline] at htext
  obtain rfl := Option.some.inj htext
  exact ⟨by omega, hrole⟩

/-- A block that the cursor's line opens narrows the candidates, wherever on the line the
cursor stands. -/
theorem Request.narrowedBy_line
    (hline : request.document.lineText request.position.line = some line)
    (hcount : request.position.line < request.document.lineCount)
    (hrole : lineRole line.toList = .opens parent.toList)
    (hknown : (schema.nestedProperties parent).value = some nested) :
    request.NarrowedBy schema request.position.line parent nested := by
  refine ⟨?_, hknown⟩
  rw [Nat.min_eq_left hcount]
  exact DocumentView.HasRole.nearestRole ⟨line, hline, hrole⟩

end

/-! ## Where the block is opened -/

/-- At a property name, a block that narrows the candidates is opened before the cursor, unless
the cursor's line itself opens it.  In that case, and in no other, the candidates are narrowed
by a block that is opened to the right of the cursor. -/
theorem Workspace.complete_narrowed_by_block {schema : Schema} {line parent : String}
    {nested : List String} (workspace : Workspace) (files : FileSystem) (request : Request)
    (hrules : workspace.rules = .standard)
    (hline : request.document.lineText request.position.line = some line)
    (hkind : contextKind? (CursorLine.ofColumn line.toList request.position.column).before =
      some .propertyName)
    (hknown : (schema.nestedProperties parent).value = some nested) :
    ((resolveParent request.document request.position.line).value = some parent →
      (∃ n, request.NarrowedBy schema n parent nested) ∧
      (workspace.complete schema files request).value =
        (nested.filter (accepts · ((CursorLine.ofColumn line.toList
          request.position.column).word?.map String.ofList))).map flatCandidate) ∧
    ((∃ n, request.NarrowedBy schema n parent nested ∧ ¬request.OpenedBeforeCursor n parent) ↔
      request.position.line < request.document.lineCount ∧
        lineRole line.toList = .opens parent.toList) := by
  have hname := contextKind?_eq_propertyName_iff.mp hkind
  refine ⟨fun hparent => ⟨Request.exists_narrowedBy_iff.mpr ⟨hparent, hknown⟩, ?_⟩, ?_, ?_⟩
  · rw [value_complete_of_isPropertyName hrules hline hname, hparent,
      value_offerProperties_of_nested hknown]
  · rintro ⟨n, hnarrowed, hlate⟩
    rw [Request.openedBeforeCursor_iff hline hname] at hlate
    exact hnarrowed.opens_of_not_lt hline hlate
  · rintro ⟨hcount, hrole⟩
    refine ⟨request.position.line, Request.narrowedBy_line hline hcount hrole hknown, ?_⟩
    rw [Request.openedBeforeCursor_iff hline hname]
    exact Nat.lt_irrefl _

/-- A schema with one property that has a block. -/
def fontSchema : Schema where
  properties := .ofList [("font", { type := some "Font" }), ("width", {})]
  types := .ofList [("Font", { properties := ["fontSize", "fontFamily"] })]

/-- A cursor before all text of a document whose one line opens a block. -/
def beforeFont : Request where
  document := (TextDocument.ofText "  font: \x7b").view
  path := ⟨"index.tss"⟩
  position := ⟨0, 0⟩

/-- A workspace without files. -/
def bareWorkspace : Workspace where
  project := .ofCompanion fun _ => none

/-- Before the block only its properties are offered, though no block is opened before the
cursor. -/
theorem Workspace.complete_beforeFont :
    contextKind? (CursorLine.ofColumn "  font: \x7b".toList 0).before = some .propertyName ∧
    (∃ n, beforeFont.NarrowedBy fontSchema n "font" ["fontSize", "fontFamily"] ∧
      ¬beforeFont.OpenedBeforeCursor n "font") ∧
    (bareWorkspace.complete fontSchema FileTree.empty.asFileSystem beforeFont).value =
      ["fontSize", "fontFamily"].map flatCandidate := by
  have hkind : contextKind? (CursorLine.ofColumn "  font: \x7b".toList 0).before =
      some .propertyName := by decide
  have hknown : (fontSchema.nestedProperties "font").value = some ["fontSize", "fontFamily"] := by
    decide
  have hnarrowed := Workspace.complete_narrowed_by_block bareWorkspace
    FileTree.empty.asFileSystem beforeFont rfl rfl hkind hknown
  exact ⟨hkind, hnarrowed.2.mpr ⟨by decide, by decide⟩, (hnarrowed.1 (by decide)).2⟩

/-- Not every block that narrows the candidates at a property name is opened before the
cursor. -/
theorem Request.not_forall_openedBeforeCursor :
    ¬∀ (request : Request) (schema : Schema) (line parent : String) (nested : List String)
        (n : Nat),
      request.document.lineText request.position.line = some line →
      contextKind? (CursorLine.ofColumn line.toList request.position.column).before =
        some .propertyName →
      request.NarrowedBy schema n parent nested →
      request.OpenedBeforeCursor n parent := by
  intro hall
  have hline : beforeFont.document.lineText 0 = some "  font: \x7b" := rfl
  have hnarrowed : beforeFont.NarrowedBy fontSchema 0 "font" ["fontSize", "fontFamily"] :=
    Request.narrowedBy_line hline (by decide) (by decide) (by decide)
  rcases hall beforeFont fontSchema _ _ _ 0 hline (by decide) hnarrowed with
    hearlier | ⟨-, line, htext, hreading⟩
  · exact absurd hearlier (by decide)
  · -- The text before the cursor is empty.
    obtain rfl := Option.some.inj (hline.symm.trans htext)
    exact absurd hreading.brace_mem (by decide)

end StyleCompletion
