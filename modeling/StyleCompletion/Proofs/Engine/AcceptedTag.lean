/-
Accepting a tag behind its opening quote.

A tag is completed behind either of the two quotes.  The candidate of a tag inserts its name, a
closing quote and the opening of a block, and the closing quote is always the double one.  So the
line opens the block of the quote that was typed, the name and a double quote, and that is what
the search for the block around the caret finds: the quotes are a pair exactly when the one that
was typed is double.
-/
import StyleCompletion.Proofs.Engine.AcceptedProperty
import StyleCompletion.Proofs.Engine.EveryOffset

namespace StyleCompletion

/-! ## The line of the caret -/

/-- The line of the caret after `candidate` was accepted behind `front`: the number of line feeds
before the caret. -/
def Candidate.caretLine (candidate : Candidate) (front : String) : Nat :=
  let caret := candidate.cursor.getD (Text.size candidate.text)
  (front.toList ++ Text.takeBytes caret candidate.text.toList).count '\n'

/-- In a document of a size that positions can tell, that is the line of the position of the
caret. -/
theorem Request.line_afterAccepting {candidate : Candidate} {front after : String}
    (hcaret : candidate.cursor.getD (Text.size candidate.text) ≤ Text.size candidate.text)
    (hsize : Text.size (front ++ candidate.text ++ after) < 0x100000000) (path : Path) :
    (Request.afterAccepting front after candidate path).position.line =
      candidate.caretLine front := by
  have htext : (front ++ candidate.text ++ after).toList =
      front.toList ++ (candidate.text.toList ++ after.toList) := by simp
  have hdocument : (TextDocument.ofText (front ++ candidate.text ++ after)).byteLength <
      0x100000000 := hsize
  have hoffset : Text.size front + candidate.cursor.getD (Text.size candidate.text) ≤
      (TextDocument.ofText (front ++ candidate.text ++ after)).byteLength := by
    show _ ≤ Text.byteLength (front ++ candidate.text ++ after).toList
    rw [htext, Text.byteLength_append, Text.byteLength_append]
    exact Nat.add_le_add_left (Nat.le_trans hcaret (Nat.le_add_right ..)) _
  refine (TextDocument.line_positionAt hdocument hoffset).trans ?_
  show (Text.takeBytes _ (front ++ candidate.text ++ after).toList).count '\n' = _
  rw [htext, Text.size, Text.takeBytes_add_append, Text.takeBytes_append_of_le _ hcaret,
    Candidate.caretLine]

/-! ## The candidate of a tag -/

/-- What the candidate of a tag inserts before the caret. -/
def openedTag (settings : Settings) (name : String) : List Char :=
  openedBlock (name ++ "\": ") settings

theorem toList_text_tagCandidate (settings : Settings) (name : String) (info : TagInfo) :
    (tagCandidate settings name info).text.toList = openedTag settings name ++ ['\n', '\x7d'] := by
  have htext : (tagCandidate settings name info).text =
      (blockTemplate (name ++ "\": ") settings).1 := by
    simp only [tagCandidate]
    split <;> rfl
  rw [htext, toList_blockTemplate, openedTag]

/-- The caret stands behind the indent, or as far before it as a caret can be told. -/
theorem cursor_tagCandidate (settings : Settings) (name : String) (info : TagInfo) :
    (tagCandidate settings name info).cursor =
      some (Text.saturate (Text.byteLength (openedTag settings name))) := by
  have hcursor : (tagCandidate settings name info).cursor =
      some (Text.saturate (min (blockTemplate (name ++ "\": ") settings).2
        (Text.size (blockTemplate (name ++ "\": ") settings).1))) := by
    simp only [tagCandidate]
    split <;> rfl
  rw [hcursor, min_blockTemplate, openedTag]

/-- The caret is in the inserted text. -/
theorem cursor_tagCandidate_le (settings : Settings) (name : String) (info : TagInfo) :
    (tagCandidate settings name info).cursor.getD
        (Text.size (tagCandidate settings name info).text) ≤
      Text.size (tagCandidate settings name info).text := by
  have hle : Text.saturate (Text.byteLength (openedTag settings name)) ≤
      Text.byteLength (openedTag settings name) := Nat.min_le_left ..
  rw [cursor_tagCandidate, Option.getD_some, Text.size, toList_text_tagCandidate,
    Text.byteLength_append]
  omega

/-- The caret is on the line where the tag is, or on one of those that the indent takes. -/
theorem caretLine_tagCandidate (settings : Settings) {name : String} (info : TagInfo)
    (hname : '\n' ∉ name.toList) (front : String) :
    front.toList.count '\n' ≤ (tagCandidate settings name info).caretLine front ∧
      (tagCandidate settings name info).caretLine front ≤
        front.toList.count '\n' + 1 + settings.indent.toList.count '\n' := by
  have hle : Text.saturate (Text.byteLength (openedTag settings name)) ≤
      Text.byteLength (openedTag settings name) := Nat.min_le_left ..
  have hcaret : (tagCandidate settings name info).caretLine front = front.toList.count '\n' +
      (Text.takeBytes (Text.saturate (Text.byteLength (openedTag settings name)))
        (openedTag settings name)).count '\n' := by
    rw [Candidate.caretLine, cursor_tagCandidate, Option.getD_some, toList_text_tagCandidate,
      Text.takeBytes_append_of_le _ hle, List.count_append]
  generalize Text.saturate (Text.byteLength (openedTag settings name)) = caret at hcaret
  have hcut := congrArg (List.count '\n')
    (Text.takeBytes_append_dropBytes caret (openedTag settings name))
  have hopened : (openedTag settings name).count '\n' = settings.indent.toList.count '\n' + 1 := by
    simp [openedTag, openedBlock, List.count_append, List.count_eq_zero.mpr hname]
  rw [List.count_append] at hcut
  omega

/-! ## The line of the tag -/

/-- A place where a tag is being typed: behind a quote that starts its line stand letters of names
only. -/
structure TagSite (before : String) (quote : Char) (typed : String) : Prop where
  before_ends : before = "" ∨ before.toList.getLast? = some '\n'
  quote_opens : isQuote quote = true
  typed_letters : ∀ c ∈ typed.toList, Text.isNameChar c = true

/-- Each condition on the characters of a text is checked along the text. -/
instance (before : String) (quote : Char) (typed : String) :
    Decidable (TagSite before quote typed) :=
  decidable_of_iff
    ((before = "" ∨ before.toList.getLast? = some '\n') ∧ isQuote quote = true ∧
      typed.toList.all Text.isNameChar = true)
    (by
      rw [List.all_eq_true]
      exact ⟨fun ⟨hbefore, hquote, hletters⟩ => ⟨hbefore, hquote, hletters⟩,
        fun ⟨hbefore, hquote, hletters⟩ => ⟨hbefore, hquote, hletters⟩⟩)

/-- The request behind what is typed of a tag. -/
def Request.behindTag (before : String) (quote : Char) (typed after : String) (path : Path) :
    Request where
  document := (TextDocument.ofText (before ++ String.singleton quote ++ typed ++ after)).view
  path
  position := ⟨before.toList.count '\n', Text.size (String.singleton quote ++ typed)⟩

/-- The document after a tag was accepted in place of what was typed of it. -/
def tagDocument (before : String) (quote : Char) (candidate : Candidate) (after : String) :
    TextDocument :=
  .ofText (before ++ String.singleton quote ++ candidate.text ++ after)

/-- A name between two quotes. -/
def between (opening : Char) (name : String) (closing : Char) : String :=
  String.singleton opening ++ name ++ String.singleton closing

namespace TagSite

variable {before typed : String} {quote : Char}

theorem quote_ne (site : TagSite before quote typed) {c : Char} (hc : isQuote c = false) :
    quote ≠ c := by
  rintro rfl
  exact absurd site.quote_opens (by simp [hc])

/-- What belongs neither to quotes nor to names is not on the line before the cursor. -/
theorem notMem_of_not_isQuote (site : TagSite before quote typed) {c : Char}
    (hquote : isQuote c = false) (hletter : Text.isNameChar c = false) :
    c ∉ quote :: typed.toList := by
  intro hmem
  rcases List.mem_cons.mp hmem with heq | hmem
  · exact site.quote_ne hquote heq.symm
  · exact Text.notMem_of_forall site.typed_letters hletter hmem

theorem exists_cursor? (site : TagSite before quote typed) (after : String) (path : Path) :
    ∃ shown, (Request.behindTag before quote typed after path).cursor? =
      some ⟨quote :: typed.toList, shown⟩ := by
  have hbefore : before.toList = [] ∨ before.toList.getLast? = some '\n' := by
    simpa using site.before_ends
  obtain ⟨back, rest, hline, -⟩ := exists_isLine_of_start hbefore
    (site.notMem_of_not_isQuote (by decide) (by decide)) after.toList
  have htext : (TextDocument.ofText
      (before ++ String.singleton quote ++ typed ++ after)).text.toList =
        before.toList ++ (quote :: typed.toList ++ after.toList) := by
    show (before ++ String.singleton quote ++ typed ++ after).toList = _
    simp
  have hcolumn : Text.size (String.singleton quote ++ typed) =
      Text.byteLength (quote :: typed.toList) := by
    simp [Text.size]
  have hreturn : (quote :: typed.toList).getLast? ≠ some '\r' := fun hlast =>
    site.notMem_of_not_isQuote (by decide) (by decide) (List.mem_of_getLast? hlast)
  rw [← htext] at hline
  rw [Request.behindTag, hcolumn]
  exact ⟨_, Request.cursor?_of_isLine hline hreturn⟩

/-- Behind the quote the tags are offered that hold the word at the cursor. -/
theorem complete_behindTag (site : TagSite before quote typed) {engine : Engine} {schema : Schema}
    (hrules : engine.rules = .standard) (hschema : engine.store.schema = some schema)
    (after : String) (files : FileSystem) (path : Path) :
    (engine.complete files (Request.behindTag before quote typed after path)).value.1 =
      .ok (offerTags schema (Request.behindTag before quote typed after path).word?
        engine.settings) := by
  obtain ⟨shown, hcursor⟩ := site.exists_cursor? after path
  have hfind : engine.rules.find (String.ofList (quote :: typed.toList)) = pure none := by
    rw [hrules]
    exact RuleSet.find_standard_of_no_colon
      (by simpa using site.notMem_of_not_isQuote (by decide) (by decide))
  have hkind : contextKind? (quote :: typed.toList) = some .tag :=
    contextKind?_of_reading (by decide) (.tag site.quote_opens site.typed_letters)
  rw [Engine.value_complete_of_loaded hschema,
    Workspace.value_complete_of_no_rule hcursor hfind hkind, Request.word?_of_cursor? hcursor]
  rfl

/-- The line of the tag after it was accepted. -/
theorem isLine_tag (site : TagSite before quote typed) {settings : Settings} {name : String}
    (info : TagInfo) (hname : '\n' ∉ name.toList) (after : String) :
    IsLine (tagDocument before quote (tagCandidate settings name info) after).text.toList
      before.toList (quote :: (name.toList ++ ['"', ':', ' ', '\x7b']))
      ('\n' :: (settings.indent.toList ++ ('\n' :: '\x7d' :: after.toList))) where
  text_eq := by
    show (before ++ String.singleton quote ++ (tagCandidate settings name info).text ++
      after).toList = _
    simp [toList_text_tagCandidate, openedTag, openedBlock]
  starts := by simpa using site.before_ends
  no_feed := by
    have hquote : quote ≠ '\n' := site.quote_ne (by decide)
    simp [hquote.symm, hname]
  stops := .inr rfl

theorem lineText_tag (site : TagSite before quote typed) {settings : Settings} {name : String}
    (info : TagInfo) (hname : '\n' ∉ name.toList) (after : String) :
    (tagDocument before quote (tagCandidate settings name info) after).lineText
      (before.toList.count '\n') = some (between quote name '"' ++ ": \x7b") := by
  have hlast : (quote :: (name.toList ++ ['"', ':', ' ', '\x7b'])).getLast? = some '\x7b' := by
    simp [List.getLast?_cons]
  rw [TextDocument.lineText_of_isLine (site.isLine_tag info hname after),
    TextDocument.stripReturn_of_getLast? (by simp [hlast]), between]
  simp [← String.toList_inj]

/-- The line opens the block of the tag between the two quotes. -/
theorem hasRole_tag (site : TagSite before quote typed) {settings : Settings} {name : String}
    (info : TagInfo) (hsolid : ∀ c ∈ name.toList, Text.isBlank c = false ∧ c ≠ '\x7d')
    (after : String) :
    (tagDocument before quote (tagCandidate settings name info) after).view.HasRole
      (before.toList.count '\n') (.opens (between quote name '"').toList) := by
  have hfeed : '\n' ∉ name.toList := fun hmem => absurd (hsolid _ hmem).1 (by decide)
  have hquotes : ∀ c ∈ (between quote name '"').toList, Text.isBlank c = false ∧ c ≠ '\x7d' := by
    intro c hc
    simp only [between, String.toList_append, String.toList_singleton, List.mem_append,
      List.mem_singleton] at hc
    rcases hc with (rfl | hc) | rfl
    · exact ⟨isBlank_of_isQuote site.quote_opens, site.quote_ne (by decide)⟩
    · exact hsolid c hc
    · decide
  have hnone : ∀ c ∈ ([] : List Char), Text.isBlank c = true := by simp
  have hrole := lineRole_opening hnone (by simp [between]) hquotes
  refine ⟨_, site.lineText_tag info hfeed after, ?_⟩
  rw [String.toList_append]
  exact hrole

/-- The search for the block around the caret finds that block. -/
theorem resolveParent_caret (site : TagSite before quote typed) {settings : Settings}
    {name : String} (info : TagInfo)
    (hsolid : ∀ c ∈ name.toList, Text.isBlank c = false ∧ c ≠ '\x7d')
    (hindent : ∀ c ∈ settings.indent.toList, Text.isBlank c = true) (after : String) :
    resolveParent (tagDocument before quote (tagCandidate settings name info) after).view
      ((tagCandidate settings name info).caretLine (before ++ String.singleton quote)) =
        pure (some (between quote name '"')) := by
  have hfeed : '\n' ∉ name.toList := fun hmem => absurd (hsolid _ hmem).1 (by decide)
  have hcount : (before ++ String.singleton quote).toList.count '\n' =
      before.toList.count '\n' := by
    have hquote : quote ≠ '\n' := site.quote_ne (by decide)
    simp [List.count_append, hquote]
  have hcaret := caretLine_tagCandidate settings info hfeed
    (before ++ String.singleton quote)
  rw [hcount] at hcaret
  rw [resolveParent_below_opening (site.isLine_tag info hfeed after) hindent (.inr rfl)
    (site.hasRole_tag info hsolid after) hcaret.1 hcaret.2, String.ofList_toList]

end TagSite

/-! ## The closing quote -/

/-- After `candidate` was accepted behind `quote`, its name is between that quote and `closing`:
so it stands on the line, and so it is found from the caret. -/
structure TagClosedBy (closing : Char) (before : String) (quote : Char) (candidate : Candidate)
    (after : String) : Prop where
  line_eq : '\n' ∉ candidate.label.toList →
    (tagDocument before quote candidate after).lineText (before.toList.count '\n') =
      some (between quote candidate.label closing ++ ": \x7b")
  parent_eq : (∀ c ∈ candidate.label.toList, Text.isBlank c = false ∧ c ≠ '\x7d') →
    resolveParent (tagDocument before quote candidate after).view
      (candidate.caretLine (before ++ String.singleton quote)) =
        pure (some (between quote candidate.label closing))

theorem TagSite.tagClosedBy_iff {before typed : String} {quote closing : Char}
    (site : TagSite before quote typed) {settings : Settings} {name : String} (info : TagInfo)
    (hname : '\n' ∉ name.toList)
    (hindent : ∀ c ∈ settings.indent.toList, Text.isBlank c = true) (after : String) :
    TagClosedBy closing before quote (tagCandidate settings name info) after ↔
      closing = '"' := by
  constructor
  · intro hclosed
    have hline := hclosed.line_eq (by simpa using hname)
    rw [label_tagCandidate, site.lineText_tag info hname after] at hline
    have hchars := congrArg String.toList (Option.some.inj hline)
    simpa [between] using hchars.symm
  · rintro rfl
    refine ⟨fun _ => ?_, fun hsolid => ?_⟩
    · rw [label_tagCandidate]
      exact site.lineText_tag info hname after
    · rw [label_tagCandidate] at hsolid ⊢
      exact site.resolveParent_caret info hsolid hindent after

/-- Behind either quote the tags are offered that hold the word at the cursor.  Whichever quote was
typed, accepting a tag closes its name with a double quote: so the name stands on its line, and so
it is found from the line of the caret. -/
theorem Engine.complete_tag_closed_by_iff {engine : Engine} {schema : Schema}
    {before typed : String} {quote : Char}
    (hrules : engine.rules = .standard)
    (hschema : engine.store.schema = some schema)
    (hindent : ∀ c ∈ engine.settings.indent.toList, Text.isBlank c = true)
    (site : TagSite before quote typed) (after : String) (files : FileSystem) (path : Path) :
    ∃ candidates,
      (engine.complete files (Request.behindTag before quote typed after path)).value.1 =
        .ok candidates ∧
      candidates = offerTags schema (Request.behindTag before quote typed after path).word?
        engine.settings ∧
      ∀ candidate ∈ candidates,
        (Text.size (before ++ String.singleton quote ++ candidate.text ++ after) < 0x100000000 →
          (Request.afterAccepting (before ++ String.singleton quote) after candidate
            path).position.line = candidate.caretLine (before ++ String.singleton quote)) ∧
        ('\n' ∉ candidate.label.toList → ∀ closing,
          TagClosedBy closing before quote candidate after ↔ closing = '"') := by
  refine ⟨_, site.complete_behindTag hrules hschema after files path, rfl, ?_⟩
  intro candidate hmem
  obtain ⟨⟨name, info⟩, -, rfl⟩ := List.mem_map.mp hmem
  refine ⟨fun hsize => Request.line_afterAccepting (cursor_tagCandidate_le ..) hsize path, ?_⟩
  intro hname closing
  rw [label_tagCandidate] at hname
  exact site.tagClosedBy_iff info hname hindent after

/-- An engine whose schema has two tags. -/
def windowEngine : Engine where
  project := .ofCompanion fun _ => none
  store := .preloaded { tags := .ofList [("Window", {}), ("ScrollView", {})] }

/-- The indent of the default settings is blank. -/
theorem isBlank_of_mem_tab : ∀ c ∈ ({} : Settings).indent.toList, Text.isBlank c = true :=
  List.all_eq_true.mp (by decide)

/-- Behind a single quote the tag gets two quotes that are no pair, and the block around the
caret is found under both of them. -/
theorem Engine.complete_windowEngine :
    TagSite "é\n" '\'' "wIN" ∧
    ((windowEngine.complete FileTree.empty.asFileSystem
        (Request.behindTag "é\n" '\'' "wIN" "\r\n" ⟨"index.tss"⟩)).value.1 =
          .ok [tagCandidate {} "Window" {}] ∧
      TagClosedBy '"' "é\n" '\'' (tagCandidate {} "Window" {}) "\r\n" ∧
      ¬TagClosedBy '\'' "é\n" '\'' (tagCandidate {} "Window" {}) "\r\n") := by
  have site : TagSite "é\n" '\'' "wIN" := by decide +kernel
  have hrules : windowEngine.rules = .standard := rfl
  obtain ⟨candidates, hanswer, hcandidates, hall⟩ := Engine.complete_tag_closed_by_iff
    hrules rfl isBlank_of_mem_tab site "\r\n" FileTree.empty.asFileSystem ⟨"index.tss"⟩
  have hword : candidates = [tagCandidate {} "Window" {}] := by
    rw [hcandidates]
    decide +kernel
  subst hword
  have hclosed := (hall _ (List.mem_singleton.mpr rfl)).2 (by decide)
  exact ⟨site, hanswer, (hclosed _).mpr rfl, fun h => absurd ((hclosed _).mp h) (by decide)⟩

/-- The quote that was opened is not always the one that closes the name. -/
theorem Engine.not_forall_tag_closed_by_quote :
    ¬∀ (engine : Engine) (before typed after : String) (quote : Char) (files : FileSystem)
      (path : Path) (candidates : List Candidate),
      engine.rules = .standard →
      (∀ c ∈ engine.settings.indent.toList, Text.isBlank c = true) →
      TagSite before quote typed →
      (engine.complete files (Request.behindTag before quote typed after path)).value.1 =
        .ok candidates →
      ∀ candidate ∈ candidates, TagClosedBy quote before quote candidate after := by
  intro h
  have site : TagSite "" '\'' "Win" := by decide +kernel
  have hrules : windowEngine.rules = .standard := rfl
  have hanswer := site.complete_behindTag hrules rfl "" FileTree.empty.asFileSystem ⟨"index.tss"⟩
  have hmem : tagCandidate {} "Window" {} ∈
      offerTags { tags := .ofList [("Window", {}), ("ScrollView", {})] }
        (Request.behindTag "" '\'' "Win" "" ⟨"index.tss"⟩).word? windowEngine.settings := by
    decide +kernel
  have hclosed := h windowEngine "" "Win" "" '\'' FileTree.empty.asFileSystem ⟨"index.tss"⟩ _ rfl
    isBlank_of_mem_tab site hanswer _ hmem
  have hdouble := (site.tagClosedBy_iff {} (by decide) isBlank_of_mem_tab "").mp hclosed
  exact absurd hdouble (by decide)

end StyleCompletion
