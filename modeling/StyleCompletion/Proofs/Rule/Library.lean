/-
The rules of the library.

Both rules are for a quoted value that ends the line prefix.  They read the name before it and
the text after its quote in the same way, and differ in the names that they are for and in the
characters that may stand in the quotes.  No name is one for both, so no prefix is, and it makes
no difference which rule is tried first.  A prefix for a rule is in the context of a value or in
none, so a rule that declines leaves the request to the values of the name that it is for.
-/
import StyleCompletion.Proofs.Context.Patterns
import StyleCompletion.Proofs.Engine.Course
import StyleCompletion.Proofs.Engine.Reports

namespace StyleCompletion

/-! ## What the rules read -/

/-- The rules of the library. -/
inductive LibraryRule where
  | textKey
  | image
deriving DecidableEq, Repr

namespace LibraryRule

/-- The rule itself. -/
def rule : LibraryRule → Rule
  | textKey => .textKey
  | image => .image

/-- The names of the properties that the rule is for. -/
def IsFor : LibraryRule → String → Prop
  | textKey, key => key ∈ keyProperties
  | image, key => "image".toList <:+ key.toList ∨ "Image".toList <:+ key.toList

/-- Characters that may stand in the quotes. -/
def isInside : LibraryRule → Char → Bool
  | textKey => isKeyChar
  | image => isImagePathChar

/-- Characters that may stand in the quotes, but not in a value without quotes. -/
def beyondValues : LibraryRule → List Char
  | textKey => ['-']
  | image => ['/', '@', '-']

/-- The text holds one of these characters. -/
def GoesBeyond (own : LibraryRule) (typed : String) : Prop :=
  ∃ c ∈ typed.toList, c ∈ own.beyondValues

instance (own : LibraryRule) (typed : String) : Decidable (own.GoesBeyond typed) :=
  decidable_of_iff (typed.toList.any own.beyondValues.contains = true)
    (by simp [GoesBeyond, List.any_eq_true])

/-- The rule reads the line prefix as the value `typed` of the property `key`. -/
structure Reads (own : LibraryRule) (linePrefix key typed : String) : Prop where
  quoted : QuotedReading linePrefix.toList key.toList typed.toList
  isFor : own.IsFor key
  inside : ∀ c ∈ typed.toList, own.isInside c = true

variable {own other : LibraryRule} {linePrefix key typed : String}

/-- Inside the quotes stand the characters of names, the dot and those listed. -/
theorem isInside_iff {c : Char} :
    own.isInside c = true ↔ Text.isNameChar c = true ∨ c = '.' ∨ c ∈ own.beyondValues := by
  cases own with
  | textKey => simp [isInside, isKeyChar, beyondValues, or_assoc]
  | image => simp [isInside, isImagePathChar, beyondValues, or_assoc]

/-- What holds of each character listed, for each rule, holds of all of them. -/
theorem forall_mem_beyondValues {p : Char → Bool}
    (h : (textKey.beyondValues ++ image.beyondValues).all p = true) {c : Char}
    (hc : c ∈ own.beyondValues) : p c = true := by
  rw [List.all_append, Bool.and_eq_true, List.all_eq_true, List.all_eq_true] at h
  cases own with
  | textKey => exact h.1 c hc
  | image => exact h.2 c hc

theorem isValueChar_of_mem_beyondValues {c : Char} (hc : c ∈ own.beyondValues) :
    isValueChar c = false := by
  have h := forall_mem_beyondValues (p := fun c => !isValueChar c) (by decide) hc
  simpa using h

/-- In the quotes, a character that is not one of a value is one of those listed. -/
theorem isValueChar_eq_false_iff {c : Char} (hc : own.isInside c = true) :
    isValueChar c = false ↔ c ∈ own.beyondValues := by
  constructor
  · intro hvalue
    rcases isInside_iff.mp hc with hname | rfl | hmem
    · simp [isValueChar, hname] at hvalue
    · exact absurd hvalue (by decide)
    · exact hmem
  · exact isValueChar_of_mem_beyondValues

/-- Nothing that could end the quoted text or the assignment stands inside the quotes. -/
theorem of_isInside {c : Char} (hc : own.isInside c = true) :
    isQuote c = false ∧ Text.isBlank c = false ∧ c ≠ ':' := by
  rcases isInside_iff.mp hc with hname | rfl | hmem
  · refine ⟨?_, ?_, ?_⟩
    · exact Text.excludes_symm (p := isQuote) (fun _ => isNameChar_of_isQuote) hname
    · exact Text.excludes_symm (p := Text.isBlank) (fun _ => Text.isNameChar_of_isBlank) hname
    · rintro rfl
      exact absurd hname (by decide)
  · decide
  · have h := forall_mem_beyondValues
      (p := fun c => !isQuote c && !Text.isBlank c && c ≠ ':') (by decide) hmem
    simpa [and_assoc] using h

theorem isInside_of_isQuote {c : Char} (hc : isQuote c = true) : own.isInside c = false :=
  Text.excludes_symm (p := own.isInside) (fun _ hinside => (of_isInside hinside).1) hc

theorem quotedAssignment?_iff {name text : List Char} :
    quotedAssignment? own.isInside linePrefix.toList = some (name, text) ↔
      QuotedReading linePrefix.toList name text ∧ ∀ c ∈ text, own.isInside c = true :=
  quotedAssignment?_eq_some_iff (fun _ => isInside_of_isQuote)

theorem endsInKey_iff :
    endsInKey linePrefix = true ↔ ∃ name text,
      quotedAssignment? isKeyChar linePrefix.toList = some (name, text) ∧
        String.ofList name ∈ keyProperties := by
  rw [endsInKey]
  cases quotedAssignment? isKeyChar linePrefix.toList with
  | none => simp
  | some pair =>
      obtain ⟨name, text⟩ := pair
      constructor
      · intro hkey
        exact ⟨name, text, rfl, List.contains_iff_mem.mp hkey⟩
      · rintro ⟨_, _, hpair, hkey⟩
        obtain ⟨rfl, rfl⟩ := Prod.mk.inj (Option.some.inj hpair)
        exact List.contains_iff_mem.mpr hkey

theorem isSome_typedImagePath?_iff :
    (typedImagePath? linePrefix).isSome = true ↔ ∃ name text,
      quotedAssignment? isImagePathChar linePrefix.toList = some (name, text) ∧
        namesImage name = true := by
  rw [typedImagePath?]
  cases quotedAssignment? isImagePathChar linePrefix.toList with
  | none => simp
  | some pair =>
      obtain ⟨name, text⟩ := pair
      rw [Option.isSome_ite]
      constructor
      · intro himage
        exact ⟨name, text, rfl, himage⟩
      · rintro ⟨_, _, hpair, himage⟩
        obtain ⟨rfl, rfl⟩ := Prod.mk.inj (Option.some.inj hpair)
        exact himage

theorem applies_iff_quotedAssignment? :
    own.rule.applies linePrefix = true ↔ ∃ name text,
      quotedAssignment? own.isInside linePrefix.toList = some (name, text) ∧
        own.IsFor (String.ofList name) := by
  cases own with
  | textKey => exact endsInKey_iff
  | image =>
      have hnames (name : List Char) :
          image.IsFor (String.ofList name) ↔ namesImage name = true := by
        rw [IsFor, String.toList_ofList (l := name), namesImage, Bool.or_eq_true,
          List.isSuffixOf_iff_suffix, List.isSuffixOf_iff_suffix]
      simp only [hnames]
      exact isSome_typedImagePath?_iff

/-- A rule is for the prefixes that it reads. -/
theorem applies_iff :
    own.rule.applies linePrefix = true ↔ ∃ key typed, own.Reads linePrefix key typed := by
  rw [applies_iff_quotedAssignment?]
  constructor
  · rintro ⟨name, text, hquoted, hfor⟩
    obtain ⟨hreading, hinside⟩ := quotedAssignment?_iff.mp hquoted
    exact ⟨String.ofList name, String.ofList text, by simpa using hreading, hfor,
      by simpa using hinside⟩
  · rintro ⟨key, typed, hreading, hfor, hinside⟩
    exact ⟨key.toList, typed.toList, quotedAssignment?_iff.mpr ⟨hreading, hinside⟩,
      by simpa using hfor⟩

/-! ## No prefix for both rules -/

/-- No name is one for both rules. -/
theorem eq_of_isFor (h : own.IsFor key) (hother : other.IsFor key) : own = other := by
  have hkeys : ∀ key ∈ keyProperties,
      ¬("image".toList <:+ key.toList ∨ "Image".toList <:+ key.toList) := by decide
  cases own <;> cases other
  · rfl
  · exact absurd hother (hkeys key h)
  · exact absurd h (hkeys key hother)
  · rfl

/-- No prefix is one for both rules. -/
theorem eq_of_applies (h : own.rule.applies linePrefix = true)
    (hother : other.rule.applies linePrefix = true) : own = other := by
  obtain ⟨key, typed, hreads⟩ := applies_iff.mp h
  obtain ⟨key', typed', hreads'⟩ := applies_iff.mp hother
  -- What stands in the quotes does not matter: the quote that is open is the same one.
  have hkey := (hreads.quoted.unique hreads'.quoted).1
  rw [← String.toList_inj.mp hkey] at hreads'
  exact eq_of_isFor hreads.isFor hreads'.isFor

end LibraryRule

namespace RuleSet

variable {set : RuleSet} {linePrefix : String}

/-- One rule for a prefix is found, and none is passed over. -/
theorem find_of_filter_eq_singleton {rule : Rule}
    (h : set.rules.filter (·.applies linePrefix) = [rule]) :
    set.find linePrefix = pure (some rule) := by
  rw [find, h]
  rfl

theorem find_of_filter_eq_nil (h : set.rules.filter (·.applies linePrefix) = []) :
    set.find linePrefix = pure none := by
  rw [find, h]

/-- Where at most one rule is for a prefix, the order of the rules makes no difference. -/
theorem find_perm {other : RuleSet} (hperm : other.rules.Perm set.rules)
    (honly : (set.rules.filter (·.applies linePrefix)).length ≤ 1) :
    other.find linePrefix = set.find linePrefix := by
  have hfilter := hperm.filter (·.applies linePrefix)
  -- Nothing and a single rule are the lists that another order leaves as they are.
  rcases Nat.le_one_iff_eq_zero_or_eq_one.mp honly with hnone | hone
  · have hnil := List.length_eq_zero_iff.mp hnone
    rw [hnil, List.perm_nil] at hfilter
    rw [find_of_filter_eq_nil hfilter, find_of_filter_eq_nil hnil]
  · obtain ⟨rule, hrule⟩ := List.length_eq_one_iff.mp hone
    rw [hrule, List.perm_singleton] at hfilter
    rw [find_of_filter_eq_singleton hfilter, find_of_filter_eq_singleton hrule]

/-- Where at most one rule is for a prefix, the choice reports nothing. -/
theorem events_find_eq_nil (honly : (set.rules.filter (·.applies linePrefix)).length ≤ 1) :
    (set.find linePrefix).events = [] := by
  rcases Nat.le_one_iff_eq_zero_or_eq_one.mp honly with hnone | hone
  · rw [find_of_filter_eq_nil (List.length_eq_zero_iff.mp hnone), Logged.events_pure]
  · obtain ⟨rule, hrule⟩ := List.length_eq_one_iff.mp hone
    rw [find_of_filter_eq_singleton hrule, Logged.events_pure]

/-- Of the rules of the library only one is for a prefix that it applies to. -/
theorem filter_standard_of_applies {own : LibraryRule} (h : own.rule.applies linePrefix = true) :
    standard.rules.filter (·.applies linePrefix) = [own.rule] := by
  have hothers : ∀ other : LibraryRule, other ≠ own → other.rule.applies linePrefix = false := by
    intro other hne
    rw [Bool.eq_false_iff]
    intro hother
    exact hne (LibraryRule.eq_of_applies hother h)
  cases own with
  | textKey =>
      have hkey : Rule.textKey.applies linePrefix = true := h
      have himage : Rule.image.applies linePrefix = false := hothers .image (by decide)
      simp [standard, hkey, himage, LibraryRule.rule]
  | image =>
      have hkey : Rule.textKey.applies linePrefix = false := hothers .textKey (by decide)
      have himage : Rule.image.applies linePrefix = true := h
      simp [standard, hkey, himage, LibraryRule.rule]

theorem filter_standard_of_not_applies
    (h : ∀ own : LibraryRule, own.rule.applies linePrefix = false) :
    standard.rules.filter (·.applies linePrefix) = [] := by
  have hkey : Rule.textKey.applies linePrefix = false := h .textKey
  have himage : Rule.image.applies linePrefix = false := h .image
  simp [standard, hkey, himage]

theorem length_filter_standard_le_one (linePrefix : String) :
    (standard.rules.filter (·.applies linePrefix)).length ≤ 1 := by
  by_cases h : ∃ own : LibraryRule, own.rule.applies linePrefix = true
  · obtain ⟨own, happlies⟩ := h
    rw [filter_standard_of_applies happlies]
    exact Nat.le_refl 1
  · have hnone (own : LibraryRule) : own.rule.applies linePrefix = false :=
      Bool.eq_false_iff.mpr (fun happlies => h ⟨own, happlies⟩)
    rw [filter_standard_of_not_applies hnone]
    exact Nat.zero_le 1

/-- The rules of the library are for assignments, so without a colon there is none. -/
theorem find_standard_of_no_colon (h : ':' ∉ linePrefix.toList) :
    standard.find linePrefix = pure none := by
  apply find_of_filter_eq_nil
  apply filter_standard_of_not_applies
  intro own
  rw [Bool.eq_false_iff]
  intro happlies
  obtain ⟨key, typed, hreads⟩ := LibraryRule.applies_iff.mp happlies
  exact h hreads.quoted.colon_mem

end RuleSet

/-! ## The warning about rules -/

/-- What warns of several rules for one prefix is no event for debugging. -/
theorem Event.IsQuiet.message_ne {event : Event} (h : event.IsQuiet) :
    event.message ≠ "more than one completion rule matches" := by
  cases event with
  | ambiguousRules chosen ignored linePrefix =>
      rcases h with h | h
      · exact absurd h (by simp [level])
      · exact absurd h (by simp [level])
  | _ =>
      rw [message]
      decide

/-- A completion with the rules of the library never warns that several rules are for one
prefix. -/
theorem Workspace.complete_never_warns {workspace : Workspace}
    (hrules : workspace.rules = .standard) (schema : Schema) (files : FileSystem)
    (request : Request) :
    (workspace.complete schema files request).OnlyReports fun event =>
      event.message ≠ "more than one completion rule matches" := by
  apply workspace.complete_onlyReports (fun _ => Event.IsQuiet.message_ne)
  · -- Choosing a rule could warn, but has nothing to choose from.
    intro linePrefix event hevent
    rw [hrules, RuleSet.events_find_eq_nil (RuleSet.length_filter_standard_le_one _)] at hevent
    exact absurd hevent (by simp)
  · intro rule hrule context
    rw [hrules] at hrule
    exact RuleSet.standard_onlyReports (fun _ => Event.IsQuiet.message_ne) hrule context

theorem SchemaStore.get_onlyReports {P : Event → Prop}
    (hloaded : ∀ schema : Schema, P (loadedEvent schema)) (store : SchemaStore)
    (files : FileSystem) : (store.get files).OnlyReports P := by
  rw [get]
  split
  · exact Logged.onlyReports_pure _
  · split
    · exact Logged.onlyReports_pure _
    · exact Logged.onlyReports_reporting (hloaded _) _

/-- Neither does an engine with these rules, whose store reports only what it loads. -/
theorem Engine.complete_never_warns (engine : Engine) (hrules : engine.rules = .standard)
    (files : FileSystem) (request : Request) :
    (engine.complete files request).OnlyReports fun event =>
      event.message ≠ "more than one completion rule matches" := by
  have hloaded (schema : Schema) :
      (SchemaStore.loadedEvent schema).message ≠ "more than one completion rule matches" := by
    rw [SchemaStore.loadedEvent, Event.message]
    decide
  refine (engine.store.get_onlyReports hloaded files).bind ?_
  split
  split
  · exact Logged.onlyReports_pure _
  · refine (Workspace.complete_never_warns ?_ _ _ _).bind (Logged.onlyReports_pure _)
    exact hrules

/-- No prefix is one for both rules of the library.  So the rule that is found does not depend on
their order, and no completion with them warns that several rules are for one prefix. -/
theorem RuleSet.standard_is_unambiguous :
    (∀ linePrefix,
      ¬(Rule.textKey.applies linePrefix = true ∧ Rule.image.applies linePrefix = true)) ∧
    (∀ linePrefix,
      RuleSet.find ⟨[.image, .textKey]⟩ linePrefix = RuleSet.standard.find linePrefix) ∧
    ∀ engine : Engine, engine.rules = .standard → ∀ files request,
      ∀ event ∈ (engine.complete files request).events,
        event.message ≠ "more than one completion rule matches" := by
  refine ⟨?_, ?_, ?_⟩
  · rintro linePrefix ⟨hkey, himage⟩
    have hsame := @LibraryRule.eq_of_applies .textKey .image linePrefix hkey himage
    exact absurd hsame (by decide)
  · intro linePrefix
    exact find_perm (List.Perm.swap ..) (length_filter_standard_le_one linePrefix)
  · intro engine hrules files request
    exact engine.complete_never_warns hrules files request

/-- An engine whose project has neither texts nor assets, and whose schema has values for both
kinds of names. -/
def plainEngine : Engine where
  project := .ofCompanion fun _ => none
  store := .preloaded {
    properties := .ofList [
      ("backgroundImage", { values := some ["none", "logo.png"] }),
      ("textid", { values := some ["title"] })] }

/-- The request at the end of a line. -/
def atEndOf (line : String) : Request :=
  ⟨.ofLines #[line], ⟨"label.tss"⟩, ⟨0, Text.size line⟩⟩

/-- With the path of an image in the quotes the rule for images is the only one, and nothing
warns. -/
theorem RuleSet.standard_is_unambiguous_at_image :
    Rule.image.applies "backgroundImage: \"lo" = true ∧
    Rule.textKey.applies "backgroundImage: \"lo" = false ∧
    plainEngine.rules = .standard ∧
    ∀ event ∈ (plainEngine.complete FileTree.empty.asFileSystem
        (atEndOf "backgroundImage: \"lo")).events,
      event.message ≠ "more than one completion rule matches" := by
  obtain ⟨hone, -, hquiet⟩ := standard_is_unambiguous
  have himage : Rule.image.applies "backgroundImage: \"lo" = true := by decide
  refine ⟨himage, ?_, rfl, hquiet plainEngine rfl _ _⟩
  rw [Bool.eq_false_iff]
  intro hkey
  exact hone _ ⟨hkey, himage⟩

/-! ## The context of a prefix for a rule -/

namespace LibraryRule.Reads

variable {own : LibraryRule} {linePrefix key typed : String}

theorem linePrefix_ne (h : own.Reads linePrefix key typed) : linePrefix ≠ "" := by
  rintro rfl
  exact absurd h.quoted.colon_mem (by decide)

theorem all_isValueChar_iff (h : own.Reads linePrefix key typed) :
    typed.toList.all isValueChar = true ↔ ¬own.GoesBeyond typed := by
  rw [List.all_eq_true]
  constructor
  · rintro hall ⟨c, hmem, hbeyond⟩
    have hvalue := isValueChar_of_mem_beyondValues hbeyond
    rw [hall c hmem] at hvalue
    exact absurd hvalue (by simp)
  · intro hnone c hmem
    rw [← Bool.not_eq_false]
    intro hvalue
    exact hnone ⟨c, hmem, (isValueChar_eq_false_iff (h.inside c hmem)).mp hvalue⟩

/-- A prefix for a rule is in the context of a value of the property that the rule reads, unless
what is typed could not be typed without a quote; then it is in none. -/
theorem contextKind?_eq (h : own.Reads linePrefix key typed) :
    contextKind? linePrefix.toList =
      if own.GoesBeyond typed then none else some (.propertyValue key) := by
  have hseparate : ∀ c ∈ typed.toList, Text.isBlank c = false ∧ c ≠ ':' :=
    fun c hc => (of_isInside (h.inside c hc)).2
  rw [contextKind?_of_colon_mem h.quoted.colon_mem, h.quoted.valueProperty?_eq hseparate]
  by_cases hbeyond : own.GoesBeyond typed
  · rw [if_pos hbeyond, if_neg (fun hall => h.all_isValueChar_iff.mp hall hbeyond)]
    rfl
  · rw [if_neg hbeyond, if_pos (h.all_isValueChar_iff.mpr hbeyond), Option.map_some,
      String.ofList_toList]

theorem classify_eq (h : own.Reads linePrefix key typed) (word : Option String) :
    classify linePrefix word =
      if own.GoesBeyond typed then none
      else some ⟨.propertyValue key, linePrefix, word⟩ := by
  rw [classify, h.contextKind?_eq]
  split <;> rfl

end LibraryRule.Reads

/-! ## A rule that declines -/

/-- The values that the schema lists for a property. -/
def Schema.valuesOf (schema : Schema) (property : String) : List String :=
  ((schema.property property).bind PropertyInfo.values).getD []

theorem value_offerValues (schema : Schema) (property : String) (word : Option String) :
    (offerValues schema property word).value =
      ((schema.valuesOf property).filter (accepts · word)).map (Candidate.new · .value) := by
  rw [offerValues, Schema.valuesOf]
  cases schema.property property with
  | none => rfl
  | some info => rfl

/-- Where a line is cut at the cursor, the context is that of the text before the cursor. -/
theorem Request.context?_of_linePrefix_ne {request : Request} (h : request.linePrefix ≠ "") :
    request.context? = classify request.linePrefix request.word? := by
  have hcursor : request.cursor? ≠ none := by
    intro hnone
    apply h
    rw [linePrefix, hnone]
    rfl
  obtain ⟨cursor, hcursor⟩ := Option.ne_none_iff_exists'.mp hcursor
  rw [context?, hcursor, Option.bind_some]

/-- With the rules of the library, a request with a prefix for a rule goes to that rule and gets
no answer if it declines. -/
theorem Workspace.ruleAnswer?_of_declined {workspace : Workspace}
    (hrules : workspace.rules = .standard) {schema : Schema} {files : FileSystem}
    {request : Request} {own : LibraryRule}
    (happlies : own.rule.applies request.linePrefix = true)
    (hdeclined : (own.rule.answer (workspace.ruleContext schema files request)).value = none) :
    workspace.ruleAnswer? schema files request = none := by
  have hfind : workspace.rules.find request.linePrefix = pure (some own.rule) := by
    rw [hrules]
    exact RuleSet.find_of_filter_eq_singleton (RuleSet.filter_standard_of_applies happlies)
  rw [ruleAnswer?_eq_bind, rule?, hfind]
  cases request.cursor? with
  | none => rfl
  | some cursor => exact hdeclined

/-- A rule takes over values of the names that it is for and nothing else: a prefix for it is in
the context of a value of the name that it reads, or, if the text after the quote holds a
character that no plain value holds, in no context.  So where the rule declines, the values that
the schema lists for that name are offered, as far as they hold the word, or nothing. -/
theorem LibraryRule.takes_over_own_values (own : LibraryRule) {linePrefix : String}
    (happlies : own.rule.applies linePrefix = true) :
    ∃ key typed, own.Reads linePrefix key typed ∧
      (∀ word, classify linePrefix word =
        if own.GoesBeyond typed then none
        else some ⟨.propertyValue key, linePrefix, word⟩) ∧
      ∀ (engine : Engine) (files : FileSystem) (schema : Schema) (request : Request),
        engine.rules = .standard →
        (engine.store.get files).value.1 = .ok schema →
        request.linePrefix = linePrefix →
        (own.rule.answer (engine.ruleContext schema files request)).value = none →
        (engine.complete files request).value.1 = .ok
          (if own.GoesBeyond typed then []
          else ((schema.valuesOf key).filter (accepts · request.word?)).map
            (Candidate.new · .value)) := by
  obtain ⟨key, typed, hreads⟩ := applies_iff.mp happlies
  refine ⟨key, typed, hreads, hreads.classify_eq, ?_⟩
  rintro engine files schema request hrules hschema rfl hdeclined
  have hanswer := Workspace.ruleAnswer?_of_declined hrules happlies hdeclined
  have hcontext := Request.context?_of_linePrefix_ne hreads.linePrefix_ne
  rw [hreads.classify_eq] at hcontext
  rw [Engine.value_complete, hschema, Except.map, Workspace.value_complete, hanswer]
  -- No rule answers, so the context of the prefix decides.
  by_cases hbeyond : own.GoesBeyond typed
  · rw [if_pos hbeyond] at hcontext
    rw [if_pos hbeyond, hcontext]
  · rw [if_neg hbeyond] at hcontext
    rw [if_neg hbeyond, hcontext, ← value_offerValues]
    rfl

/-- Without assets the rule for images declines.  A word in the quotes then chooses among the
values of the property, and a path in them among none. -/
theorem LibraryRule.takes_over_backgroundImage :
    LibraryRule.image.rule.applies "backgroundImage: \"lo" = true ∧
    (plainEngine.complete FileTree.empty.asFileSystem (atEndOf "backgroundImage: \"lo")).value.1 =
      .ok [Candidate.new "logo.png" .value] ∧
    LibraryRule.image.rule.applies "backgroundImage: '/lo" = true ∧
    (plainEngine.complete FileTree.empty.asFileSystem (atEndOf "backgroundImage: '/lo")).value.1 =
      .ok [] := by
  have hword : LibraryRule.image.rule.applies "backgroundImage: \"lo" = true := by decide
  have hpath : LibraryRule.image.rule.applies "backgroundImage: '/lo" = true := by decide
  refine ⟨hword, ?_, hpath, ?_⟩
  · obtain ⟨key, typed, -, hclassify, hdeclined⟩ := takes_over_own_values .image hword
    have hkind : classify "backgroundImage: \"lo" none =
        some ⟨.propertyValue "backgroundImage", "backgroundImage: \"lo", none⟩ := by decide
    rw [hclassify, Option.ite_none_left_eq_some] at hkind
    obtain ⟨hplain, hcontext⟩ := hkind
    obtain rfl : key = "backgroundImage" := by simpa using hcontext
    rw [hdeclined plainEngine _ _ (atEndOf "backgroundImage: \"lo") rfl rfl (by decide) rfl,
      if_neg hplain]
    exact congrArg Except.ok (by decide)
  · obtain ⟨key, typed, -, hclassify, hdeclined⟩ := takes_over_own_values .image hpath
    have hkind : classify "backgroundImage: '/lo" none = none := by decide
    rw [hclassify, ite_eq_left_iff] at hkind
    have hbeyond : image.GoesBeyond typed :=
      Classical.byContradiction (fun hplain => absurd (hkind hplain) (by simp))
    rw [hdeclined plainEngine _ _ (atEndOf "backgroundImage: '/lo") rfl rfl (by decide) rfl,
      if_pos hbeyond]

end StyleCompletion
