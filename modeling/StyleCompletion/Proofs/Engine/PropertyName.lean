/-
Requests at a property name.

A line prefix is a property name when it holds blanks and then a name.  Such a prefix has
no colon, no quote and no brace, so it is in no other context, none of the rules of the
library is for it, and the request is answered with the properties for the block around the
cursor.
-/
import StyleCompletion.Engine
import StyleCompletion.Proofs.Text.Classes

namespace StyleCompletion

/-! ## The prefix -/

/-- A character that is neither a blank nor part of a name is in no property name. -/
theorem notMem_of_isPropertyName {cs : List Char} (h : isPropertyName cs = true) {c : Char}
    (hblank : Text.isBlank c = false) (hname : Text.isNameChar c = false) : c ∉ cs := by
  intro hmem
  have hall := List.all_eq_true.mp h c (Text.mem_trimLeft hmem hblank)
  rw [hname] at hall
  exact absurd hall (by simp)

/-- Without a colon there is no assignment. -/
theorem assignedName?_eq_none_of_notMem {cs : List Char} (h : ':' ∉ cs) :
    assignedName? cs = none := by
  unfold assignedName?
  split
  · next rest htrim =>
      have hmem : ':' ∈ Text.trimLeft cs := by rw [htrim]; simp
      exact absurd (List.dropWhile_subset Text.isBlank hmem) h
  · rfl

theorem valueProperty?_eq_none_of_notMem {cs : List Char} (h : ':' ∉ cs) :
    valueProperty? cs = none := by
  apply assignedName?_eq_none_of_notMem
  intro hmem
  exact h (List.mem_reverse.mp (List.dropWhile_subset isValueChar hmem))

/-- The context of a prefix is a property name exactly when the prefix has the form of
one. -/
theorem contextKind?_eq_propertyName_iff {cs : List Char} :
    contextKind? cs = some .propertyName ↔ isPropertyName cs = true := by
  constructor
  · intro h
    unfold contextKind? at h
    split at h
    · exact absurd h (by simp)
    · split at h
      · next hname => exact hname
      · split at h
        · exact absurd h (by simp)
        · split at h <;> exact absurd h (by simp)
  · -- The pattern for values is tried first, but it needs a colon.
    intro h
    have hcolon : ':' ∉ cs := notMem_of_isPropertyName h (by decide) (by decide)
    simp [contextKind?, valueProperty?_eq_none_of_notMem hcolon, h]

/-! ## The rules -/

/-- Without a quote there is no quoted value. -/
theorem quotedAssignment?_eq_none {isInside : Char → Bool} {cs : List Char}
    (h : ∀ c ∈ cs, isQuote c = false) : quotedAssignment? isInside cs = none := by
  simp only [quotedAssignment?]
  split
  · next quote rest hdrop =>
      have hmem : quote ∈ cs.reverse.dropWhile isInside := by rw [hdrop]; simp
      have hquote := h quote (List.mem_reverse.mp (List.dropWhile_subset isInside hmem))
      simp [hquote]
  · rfl

/-- The rules of the library are for quoted values only. -/
theorem RuleSet.find_standard_of_no_quote {linePrefix : String}
    (h : ∀ c ∈ linePrefix.toList, isQuote c = false) :
    RuleSet.standard.find linePrefix = pure none := by
  have hkey : Rule.textKey.applies linePrefix = false := by
    simp [Rule.textKey, endsInKey, quotedAssignment?_eq_none h]
  have himage : Rule.image.applies linePrefix = false := by
    simp [Rule.image, typedImagePath?, quotedAssignment?_eq_none h]
  simp [RuleSet.find, RuleSet.standard, hkey, himage]

theorem isQuote_eq_false_of_isPropertyName {cs : List Char} (h : isPropertyName cs = true) :
    ∀ c ∈ cs, isQuote c = false := by
  intro c hmem
  rw [Bool.eq_false_iff]
  intro hquote
  simp only [isQuote, Bool.or_eq_true, decide_eq_true_eq] at hquote
  rcases hquote with rfl | rfl
  · exact notMem_of_isPropertyName h (by decide) (by decide) hmem
  · exact notMem_of_isPropertyName h (by decide) (by decide) hmem

/-! ## The answer -/

/-- An engine that has its schema answers as its workspace does. -/
theorem Engine.value_complete_of_loaded {engine : Engine} {schema : Schema}
    (hschema : engine.store.schema = some schema) (files : FileSystem) (request : Request) :
    (engine.complete files request).value.1 =
      .ok (engine.toWorkspace.complete schema files request).value := by
  simp [Engine.complete, SchemaStore.get, hschema]

/-- The children of a property are those that its type declares. -/
theorem Schema.nestedProperties_of_children {schema : Schema} {parent type : String}
    {info : TypeInfo} (htype : schema.propertyType parent = some type)
    (hinfo : schema.typeInfo type = some info) (hchildren : info.properties ≠ []) :
    schema.nestedProperties parent = pure (some info.properties) := by
  simp [Schema.nestedProperties, htype, hinfo, hchildren]

/-- In a block that is known to hold certain properties only those are offered. -/
theorem value_offerProperties_of_nested {schema : Schema} {parent : String}
    {nested : List String} (hnested : (schema.nestedProperties parent).value = some nested)
    (word : Option String) (settings : Settings) :
    (offerProperties schema (some parent) word settings).value =
      (nested.filter (accepts · word)).map flatCandidate := by
  simp [offerProperties, hnested]

/-- With the rules of the library, a request at a property name is answered with the
properties for the block around the cursor. -/
theorem Workspace.value_complete_of_isPropertyName {workspace : Workspace} {schema : Schema}
    {files : FileSystem} {request : Request} {line : String}
    (hrules : workspace.rules = .standard)
    (hline : request.document.lineText request.position.line = some line)
    (hname : isPropertyName
      (CursorLine.ofColumn line.toList request.position.column).before = true) :
    (workspace.complete schema files request).value =
      (offerProperties schema
        (resolveParent request.document request.position.line).value
        ((CursorLine.ofColumn line.toList request.position.column).word?.map String.ofList)
        workspace.settings).value := by
  have hfind : RuleSet.standard.find (String.ofList
      (CursorLine.ofColumn line.toList request.position.column).before) = pure none :=
    RuleSet.find_standard_of_no_quote (by simpa using isQuote_eq_false_of_isPropertyName hname)
  have hkind := contextKind?_eq_propertyName_iff.mpr hname
  simp [Workspace.complete, hline, Workspace.answerByRule, hrules, hfind, classify, hkind,
    Workspace.offer]

end StyleCompletion
