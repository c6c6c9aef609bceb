/-
Completing again after a property was accepted.

The candidate of a property with a plain value inserts the name, a colon and a space, and puts the
caret behind them.  A request at that caret offers the values that the schema lists for the
property, whatever stands on the lines before and after: the line up to the caret assigns to the
name and has no quote, so the context is the value of that property and no rule is for it, and the
caret touches no word.
-/
import StyleCompletion.Proofs.Document.Joined
import StyleCompletion.Proofs.Engine.AcceptedBlock
import StyleCompletion.Proofs.Rule.Library

namespace StyleCompletion

/-! ## The candidate of a plain value -/

/-- `candidate` is offered for a property with a plain value: for one that a block holds, or for
one of the schema whose type, as far as it is known, is no block. -/
inductive OfferedFlat (schema : Schema) (settings : Settings) (candidate : Candidate) : Prop where
  | inBlock {parent : String} {nested : List String} {word : Option String}
      (hnested : (schema.nestedProperties parent).value = some nested)
      (hmem : candidate ∈ (offerProperties schema (some parent) word settings).value)
  | atTop {word : Option String}
      (hmem : candidate ∈ offerAllProperties schema word settings)
      (hplain : ∀ type, schema.propertyType candidate.label = some type →
        type ∉ settings.objectTypes)

theorem OfferedFlat.eq_flatCandidate {schema : Schema} {settings : Settings}
    {candidate : Candidate} (h : OfferedFlat schema settings candidate) :
    candidate = flatCandidate candidate.label := by
  cases h with
  | inBlock hnested hmem =>
      rw [value_offerProperties_of_nested hnested] at hmem
      obtain ⟨name, -, rfl⟩ := List.mem_map.mp hmem
      rfl
  | atTop hmem hplain =>
      obtain ⟨⟨name, info⟩, hentry, rfl⟩ := List.mem_map.mp hmem
      rw [label_propertyCandidate] at hplain ⊢
      have hinfo := schema.properties.get?_of_mem (List.mem_filter.mp hentry).1
      have hknown : schema.propertyType name = info.type := by
        simp [Schema.propertyType, Schema.property, hinfo]
      rw [hknown] at hplain
      rw [propertyCandidate]
      split
      · next type htype => simp [Settings.isObjectType, hplain type htype]
      · rfl

/-- The inserted text is the name, a colon and a space, with the caret after them. -/
theorem cursor_flatCandidate {name : String}
    (hsize : Text.size (flatCandidate name).text < 0x100000000) :
    (flatCandidate name).cursor = some (Text.byteLength (name.toList ++ [':', ' '])) := by
  show some (Text.saturate (Text.size (flatCandidate name).text)) = _
  rw [Text.saturate_of_lt hsize]
  show some (Text.byteLength (name ++ ": ").toList) = _
  simp

/-! ## A cursor in a line of a document -/

/-- A request behind `front` on a line of a document reads `front` before the cursor, and after
it the rest of the line without its end. -/
theorem Request.cursor?_of_isLine {document : TextDocument} {path : Path}
    {before front back after : List Char}
    (hline : IsLine document.text.toList before (front ++ back) after)
    (hfront : front.getLast? ≠ some '\r') :
    Request.cursor? ⟨document.view, path, ⟨before.count '\n', Text.byteLength front⟩⟩ =
      some ⟨front, TextDocument.stripReturn back⟩ := by
  have htext := TextDocument.lineText_of_isLine hline
  rw [TextDocument.stripReturn_append hfront] at htext
  rw [Request.cursor?_of_line htext, String.toList_ofList, CursorLine.ofColumn,
    Text.takeBytes_byteLength_append, Text.dropBytes_byteLength_append]

/-! ## A line that ends in an assignment -/

/-- With the rules of the library, a request behind an assignment and without a quote before it is
answered with the values of the property. -/
theorem Workspace.value_complete_of_valueProperty? {workspace : Workspace} {schema : Schema}
    {files : FileSystem} {request : Request} {cursor : CursorLine} {name : List Char}
    (hrules : workspace.rules = .standard)
    (hcursor : request.cursor? = some cursor)
    (hquote : ∀ c ∈ cursor.before, isQuote c = false)
    (hname : valueProperty? cursor.before = some name) :
    (workspace.complete schema files request).value =
      ((schema.valuesOf (String.ofList name)).filter
        (accepts · (cursor.word?.map String.ofList))).map (Candidate.new · .value) := by
  have hfind : workspace.rules.find (String.ofList cursor.before) = pure none := by
    rw [hrules]
    exact RuleSet.find_standard_of_no_quote (by simpa using hquote)
  have hkind : contextKind? cursor.before = some (.propertyValue (String.ofList name)) := by
    rw [contextKind?, hname]
  rw [Workspace.value_complete_of_no_rule hcursor hfind hkind]
  exact value_offerValues ..

/-- A place where a plain value of the property `name` can be completed: the name can be read
back, only blanks stand between the start of the line and the name, and no word follows. -/
structure ValueSite (name before blanks after : String) : Prop where
  name_ne : name ≠ ""
  name_letters : ∀ c ∈ name.toList, Text.isNameChar c = true
  before_ends : before = "" ∨ before.toList.getLast? = some '\n'
  blanks_blank : ∀ c ∈ blanks.toList, Text.isBlank c = true ∧ c ≠ '\n'
  after_stops : ∀ c, after.toList.head? = some c → Text.isCursorChar c = false

/-- Each condition on the characters of a text is checked along the text. -/
instance (name before blanks after : String) : Decidable (ValueSite name before blanks after) :=
  decidable_of_iff
    (name ≠ "" ∧ name.toList.all Text.isNameChar = true ∧
      (before = "" ∨ before.toList.getLast? = some '\n') ∧
      (blanks.toList.all fun c => Text.isBlank c && c != '\n') = true ∧
      (after.toList.head?.all fun c => !Text.isCursorChar c) = true)
    (by
      simp only [List.all_eq_true, Bool.and_eq_true, bne_iff_ne, Option.all_eq_true,
        Bool.not_eq_true']
      constructor
      · rintro ⟨hname, hletters, hbefore, hblanks, hafter⟩
        exact ⟨hname, hletters, hbefore, hblanks, hafter⟩
      · rintro ⟨hname, hletters, hbefore, hblanks, hafter⟩
        exact ⟨hname, hletters, hbefore, hblanks, hafter⟩)

/-- The document after the property was accepted. -/
def valueDocument (name before blanks after : String) : TextDocument :=
  .ofText (before ++ blanks ++ (flatCandidate name).text ++ after)

/-- The line up to the caret. -/
def assignmentLine (blanks name : String) : List Char :=
  blanks.toList ++ (name.toList ++ [':', ' '])

namespace ValueSite

variable {name before blanks after : String}

theorem mem_assignmentLine (site : ValueSite name before blanks after) {c : Char}
    (hc : c ∈ assignmentLine blanks name) :
    Text.isBlank c = true ∨ Text.isNameChar c = true ∨ c = ':' := by
  simp only [assignmentLine, List.mem_append, List.mem_cons, List.not_mem_nil, or_false] at hc
  rcases hc with hc | hc | rfl | rfl
  · exact .inl (site.blanks_blank c hc).1
  · exact .inr (.inl (site.name_letters c hc))
  · exact .inr (.inr rfl)
  · exact .inl (by decide)

theorem feed_notMem (site : ValueSite name before blanks after) :
    '\n' ∉ assignmentLine blanks name := by
  have hblanks : '\n' ∉ blanks.toList := fun hmem => (site.blanks_blank _ hmem).2 rfl
  have hname : '\n' ∉ name.toList := Text.notMem_of_forall site.name_letters (by decide)
  simp [assignmentLine, hblanks, hname]

/-- The caret's line goes on with the text after the caret, up to a line feed. -/
theorem exists_isLine (site : ValueSite name before blanks after) :
    ∃ back rest, IsLine (valueDocument name before blanks after).text.toList
        before.toList (assignmentLine blanks name ++ back) rest ∧
      after.toList = back ++ rest := by
  have htext : (valueDocument name before blanks after).text.toList =
      before.toList ++ (assignmentLine blanks name ++ after.toList) := by
    show (before ++ blanks ++ (name ++ ": ") ++ after).toList = _
    simp [assignmentLine]
  rw [htext]
  exact exists_isLine_of_start (by simpa using site.before_ends) site.feed_notMem _

theorem isQuote_eq_false (site : ValueSite name before blanks after) :
    ∀ c ∈ assignmentLine blanks name, isQuote c = false := by
  intro c hc
  rw [Bool.eq_false_iff]
  intro hquote
  rcases site.mem_assignmentLine hc with hblank | hletter | rfl
  · exact absurd hblank (by simp [isBlank_of_isQuote hquote])
  · exact absurd hletter (by simp [isNameChar_of_isQuote hquote])
  · exact absurd hquote (by decide)

/-- The line up to the caret assigns to the name: before the name there are blanks only. -/
theorem valueProperty?_eq (site : ValueSite name before blanks after) :
    valueProperty? (assignmentLine blanks name) = some name.toList := by
  have hreading : AssignmentReading (assignmentLine blanks name) blanks.toList name.toList :=
    @AssignmentReading.intro blanks.toList name.toList [] [' '] (by simpa using site.name_ne)
      site.name_letters (by simp) (List.forall_mem_singleton.mpr (by decide))
  have hwhole : Text.StopsAt Text.isNameChar blanks.toList := fun c hc =>
    Text.isNameChar_of_isBlank (site.blanks_blank c (List.mem_of_getLast? hc)).1
  exact valueProperty?_eq_some_iff.mpr
    ⟨_, [], (List.append_nil _).symm, ⟨_, hreading, hwhole⟩, by simp⟩

theorem position_afterAccepting (site : ValueSite name before blanks after)
    (hsize : (valueDocument name before blanks after).byteLength < 0x100000000) (path : Path) :
    (Request.afterAccepting (before ++ blanks) after (flatCandidate name) path).position =
      ⟨before.toList.count '\n', Text.byteLength (assignmentLine blanks name)⟩ := by
  obtain ⟨back, rest, hline, -⟩ := site.exists_isLine
  have hinserted : Text.size (flatCandidate name).text < 0x100000000 := by
    simp only [valueDocument, TextDocument.byteLength, TextDocument.ofText, Text.size,
      String.toList_append, Text.byteLength_append] at hsize ⊢
    omega
  have hoffset : Text.size (before ++ blanks) + Text.byteLength (name.toList ++ [':', ' ']) =
      Text.byteLength before.toList + Text.byteLength (assignmentLine blanks name) := by
    simp [Text.size, assignmentLine, Nat.add_assoc]
  show (valueDocument name before blanks after).positionAt (_ + Option.getD _ _) = _
  rw [cursor_flatCandidate hinserted, Option.getD_some, hoffset]
  exact TextDocument.positionAt_in_line hline (by simp) hsize

/-- The request at the caret reads the assignment before it, and touches no word. -/
theorem exists_cursor? (site : ValueSite name before blanks after)
    (hsize : (valueDocument name before blanks after).byteLength < 0x100000000) (path : Path) :
    ∃ shown, (Request.afterAccepting (before ++ blanks) after (flatCandidate name) path).cursor? =
        some ⟨assignmentLine blanks name, shown⟩ ∧
      CursorLine.word? ⟨assignmentLine blanks name, shown⟩ = none := by
  obtain ⟨back, rest, hline, hafter⟩ := site.exists_isLine
  have hlast : (assignmentLine blanks name).getLast? = some ' ' := by simp [assignmentLine]
  refine ⟨TextDocument.stripReturn back, ?_, CursorLine.word?_eq_none ?_ ?_⟩
  · have hcursor : Request.cursor? ⟨(valueDocument name before blanks after).view, path, _⟩ = _ :=
      Request.cursor?_of_isLine hline (by simp [hlast])
    rwa [← site.position_afterAccepting hsize path] at hcursor
  · intro c hc
    rw [hlast] at hc
    rw [← Option.some.inj hc]
    decide
  · -- What is shown after the caret is a start of the text after it.
    intro c hc
    obtain ⟨left, hleft⟩ :=
      (TextDocument.stripReturn_isPrefix back).trans (List.prefix_append back rest)
    apply site.after_stops
    rw [hafter, ← hleft, List.head?_append, hc, Option.some_or]

end ValueSite

/-! ## The answer at the caret -/

/-- A request at the caret after a property with a plain value was accepted is answered with the
values that the schema lists for the property, all of them and in their order, and with nothing
when it knows none, whatever stands on the lines before and after. -/
theorem Engine.complete_afterAccepting_property {engine : Engine} {schema : Schema}
    {candidate : Candidate} {before blanks after : String}
    (hrules : engine.rules = .standard)
    (hschema : engine.store.schema = some schema)
    (hoffered : OfferedFlat schema engine.settings candidate)
    (site : ValueSite candidate.label before blanks after)
    (hsize : Text.size (before ++ blanks ++ candidate.text ++ after) < 0x100000000)
    (files : FileSystem) (path : Path) :
    (engine.complete files
      (Request.afterAccepting (before ++ blanks) after candidate path)).value.1 =
        .ok ((schema.valuesOf candidate.label).map (Candidate.new · .value)) := by
  have hflat := hoffered.eq_flatCandidate
  generalize candidate.label = name at hflat site ⊢
  subst hflat
  obtain ⟨shown, hcursor, hword⟩ := site.exists_cursor? hsize path
  have hall : (schema.valuesOf name).filter (accepts · none) = schema.valuesOf name :=
    List.filter_eq_self.mpr (fun _ _ => rfl)
  rw [Engine.value_complete_of_loaded hschema,
    Workspace.value_complete_of_valueProperty? hrules hcursor site.isQuote_eq_false
      site.valueProperty?_eq, hword, Option.map_none, String.ofList_toList, hall]

/-- A schema that lists values for a property, and names one in a block that it does not know. -/
def labelTextSchema : Schema where
  properties := .ofList [("font", { type := some "Font" }),
    ("größe", { type := some "Number", values := some ["12dp", "größe", "12dp"] })]
  types := .ofList [("Font", { properties := ["größe", "weight"] })]

/-- An engine with that schema. -/
def labelTextEngine : Engine where
  project := .ofCompanion fun _ => none
  store := .preloaded labelTextSchema

/-- The values of one property are listed between carriage returns, and the other one, accepted
in a block at the end of the text, has none. -/
theorem Engine.complete_labelTextEngine :
    (flatCandidate "größe" ∈
        offerAllProperties labelTextSchema (some "GRÖ") labelTextEngine.settings ∧
      ValueSite "größe" "é\n" "\r \t" "\r\n\x7d" ∧
      (labelTextEngine.complete FileTree.empty.asFileSystem
        (Request.afterAccepting ("é\n" ++ "\r \t") "\r\n\x7d" (flatCandidate "größe")
          ⟨"label.tss"⟩)).value.1 =
            .ok (["12dp", "größe", "12dp"].map (Candidate.new · .value))) ∧
    flatCandidate "weight" ∈
        (offerProperties labelTextSchema (some "font") none labelTextEngine.settings).value ∧
      ValueSite "weight" "font: \x7b\n" "\t" "" ∧
      (labelTextEngine.complete FileTree.empty.asFileSystem
        (Request.afterAccepting ("font: \x7b\n" ++ "\t") "" (flatCandidate "weight")
          ⟨"label.tss"⟩)).value.1 = .ok [] := by
  have htop : flatCandidate "größe" ∈
      offerAllProperties labelTextSchema (some "GRÖ") labelTextEngine.settings := by
    decide +kernel
  have htopSite : ValueSite "größe" "é\n" "\r \t" "\r\n\x7d" := by decide +kernel
  have hblock : flatCandidate "weight" ∈
      (offerProperties labelTextSchema (some "font") none labelTextEngine.settings).value := by
    decide +kernel
  have hblockSite : ValueSite "weight" "font: \x7b\n" "\t" "" := by decide +kernel
  have hplain : ∀ type, labelTextSchema.propertyType "größe" = some type →
      type ∉ labelTextEngine.settings.objectTypes := by
    rintro type htype
    obtain rfl : "Number" = type := Option.some.inj htype
    decide
  exact ⟨⟨htop, htopSite, Engine.complete_afterAccepting_property rfl rfl (.atTop htop hplain)
      htopSite (by decide +kernel) _ _⟩,
    hblock, hblockSite, Engine.complete_afterAccepting_property rfl rfl
      (.inBlock rfl hblock) hblockSite (by decide +kernel) _ _⟩

end StyleCompletion
