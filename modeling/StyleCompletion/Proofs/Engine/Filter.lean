/-
The filter on what is offered.

Every list of candidates is a full list of which those are kept whose labels hold the typed
text.  For image paths that is the whole path after the quote, for all else the word under the
cursor.  Where duplicates are removed it makes no difference whether the filter comes first.
So a request that takes the course of another one, with filters that let less pass, is answered
with a part of its candidates, in the same order.
-/
import Mathlib.Data.List.Basic
import StyleCompletion.Proofs.Engine.Course
import StyleCompletion.Proofs.Engine.Reports
import StyleCompletion.Proofs.Text.Distinct

namespace StyleCompletion

/-! ## Lists for a context -/

/-- The candidates whose labels pass the filter for a word. -/
def keepAccepted (word : Option String) (candidates : List Candidate) : List Candidate :=
  candidates.filter fun candidate => accepts candidate.label word

/-- A filter on names before the candidates are made is one on their labels afterwards. -/
theorem map_filter_accepts {α : Type} {name : α → String} {f : α → Candidate}
    (hlabel : ∀ x, (f x).label = name x) (xs : List α) (word : Option String) :
    (xs.filter fun x => accepts (name x) word).map f =
      keepAccepted word ((xs.filter fun x => accepts (name x) none).map f) := by
  have hall : (xs.filter fun x => accepts (name x) none) = xs :=
    List.filter_eq_self.mpr (fun _ _ => rfl)
  rw [hall, keepAccepted, List.filter_map]
  simp only [Function.comp_def, hlabel]

section

variable (schema : Schema) (settings : Settings) (word : Option String)

theorem offerTags_eq_keepAccepted :
    offerTags schema word settings = keepAccepted word (offerTags schema none settings) :=
  map_filter_accepts (fun _ => label_tagCandidate ..) _ word

theorem offerAllProperties_eq_keepAccepted :
    offerAllProperties schema word settings =
      keepAccepted word (offerAllProperties schema none settings) :=
  map_filter_accepts (fun _ => label_propertyCandidate ..) _ word

theorem value_offerProperties_eq_keepAccepted (parent : Option String) :
    (offerProperties schema parent word settings).value =
      keepAccepted word (offerProperties schema parent none settings).value := by
  cases parent with
  | none => exact offerAllProperties_eq_keepAccepted schema settings word
  | some parent =>
      simp only [offerProperties, Logged.value_bind]
      split
      · exact map_filter_accepts (fun _ => rfl) _ word
      · exact offerAllProperties_eq_keepAccepted schema settings word

theorem value_offerValues_eq_keepAccepted (property : String) :
    (offerValues schema property word).value =
      keepAccepted word (offerValues schema property none).value := by
  rw [offerValues, offerValues]
  split
  · rfl
  · exact map_filter_accepts (fun _ => rfl) _ word

theorem value_offerSelectors_eq_keepAccepted (project : Project) (files : FileSystem)
    (style : Path) (kind : SelectorKind) :
    (offerSelectors project files style kind word).value =
      keepAccepted word (offerSelectors project files style kind none).value := by
  rw [offerSelectors, offerSelectors]
  split
  · rfl
  · split
    · rfl
    · exact map_filter_accepts (fun _ => rfl) _ word

/-- What is offered for a word is what is offered without one, less what does not pass. -/
theorem Workspace.value_offer_eq_keepAccepted (workspace : Workspace) (files : FileSystem)
    (request : Request) (kind : ContextKind) (linePrefix : String) :
    (workspace.offer schema files request ⟨kind, linePrefix, word⟩).value =
      keepAccepted word (workspace.offer schema files request ⟨kind, linePrefix, none⟩).value := by
  cases kind with
  | propertyValue property => exact value_offerValues_eq_keepAccepted schema word property
  | propertyName => exact value_offerProperties_eq_keepAccepted schema _ word _
  | classOrId selector => exact value_offerSelectors_eq_keepAccepted word _ _ _ selector
  | tag => exact offerTags_eq_keepAccepted schema _ word

end

/-! ## Lists of rules -/

theorem keyCandidates_eq_keepAccepted (text : String) (word : Option String) :
    keyCandidates text word = keepAccepted word (keyCandidates text none) :=
  map_filter_accepts (fun _ => label_keyCandidate _) _ word

theorem imageCandidates_eq_filter (files : List (List String)) (typed : String) :
    imageCandidates files typed =
      (imageCandidates files "").filter fun candidate =>
        candidateMatches candidate.label typed := by
  have hall : (files.filterMap imageLabel?).filter (candidateMatches · "") =
      files.filterMap imageLabel? := List.filter_eq_self.mpr (fun _ _ => rfl)
  simp only [imageCandidates, hall, Text.distinct_filter, List.filter_map]
  rfl

/-! ## Stricter filters -/

/-- What passes the filter for `later` passes the one for `word`. -/
def IsStricter (later word : Option String) : Prop :=
  ∀ label, accepts label later = true → accepts label word = true

theorem IsStricter.keepAccepted_sublist {later word : Option String} (h : IsStricter later word)
    (candidates : List Candidate) :
    (keepAccepted later candidates).Sublist (keepAccepted word candidates) :=
  List.monotone_filter_right candidates (fun candidate => h candidate.label)

/-- With a stricter word the rule for text keys gives a part of its answer, or declines as
before. -/
theorem Rule.rel_answer_textKey (context : RuleContext) (linePrefix : String)
    {word : Option String} (h : IsStricter word context.word) :
    Option.Rel List.Sublist (Rule.textKey.answer { context with linePrefix, word }).value
      (Rule.textKey.answer context).value := by
  simp only [Rule.textKey]
  split
  · exact .none
  · split
    · exact .none
    · next text _ =>
        rw [keyCandidates_eq_keepAccepted text word,
          keyCandidates_eq_keepAccepted text context.word]
        exact .some (h.keepAccepted_sublist _)

theorem imageCandidates_sublist {later typed : String}
    (h : ∀ label, candidateMatches label later = true → candidateMatches label typed = true)
    (files : List (List String)) :
    (imageCandidates files later).Sublist (imageCandidates files typed) := by
  rw [imageCandidates_eq_filter files later, imageCandidates_eq_filter files typed]
  exact List.monotone_filter_right _ (fun candidate => h candidate.label)

/-- The image path that a prefix ends in, empty if there is none. -/
def typedPath (linePrefix : String) : String := (typedImagePath? linePrefix).getD ""

/-- With a stricter path the rule for images gives a part of its answer, or declines as
before. -/
theorem Rule.rel_answer_image (context : RuleContext) {linePrefix : String}
    (word : Option String)
    (h : context.project.assets context.files context.stylePath ≠ none →
      ∀ label, candidateMatches label (typedPath linePrefix) = true →
        candidateMatches label (typedPath context.linePrefix) = true) :
    Option.Rel List.Sublist (Rule.image.answer { context with linePrefix, word }).value
      (Rule.image.answer context).value := by
  simp only [Rule.image]
  split
  · exact .none
  · next assets hassets =>
      have hstricter := h (by simp [hassets])
      split
      · exact .some (List.Sublist.refl _)
      · exact .some (imageCandidates_sublist hstricter _)

/-- `later` takes the course of `request`, and its filters let at most as much pass. -/
structure Workspace.Tightens (workspace : Workspace) (files : FileSystem)
    (later request : Request) : Prop where
  path_eq : later.path = request.path
  rule_eq : workspace.rule? later = workspace.rule? request
  kind_eq : later.kind? = request.kind?
  parent_eq : resolveParent later.document later.position.line =
    resolveParent request.document request.position.line
  word_stricter : IsStricter later.word? request.word?
  /-- The filter by paths counts only where there are assets to choose from. -/
  path_stricter : workspace.project.assets files request.path ≠ none →
    ∀ label, candidateMatches label (typedPath later.linePrefix) = true →
      candidateMatches label (typedPath request.linePrefix) = true

namespace Workspace.Tightens

variable {workspace : Workspace} {files : FileSystem} {later request : Request}

theorem rule?_mem (hrules : workspace.rules = .standard) {rule : Rule}
    (h : workspace.rule? request = some rule) : rule = .textKey ∨ rule = .image := by
  obtain ⟨cursor, -, hfind⟩ := Option.bind_eq_some_iff.mp h
  have hmem := RuleSet.mem_of_value_find hfind
  rw [hrules, RuleSet.standard] at hmem
  simpa using hmem

/-- Both requests are answered by the rule or both are declined, and the later answer is a part
of the other one. -/
theorem rel_ruleAnswer? (h : workspace.Tightens files later request)
    (hrules : workspace.rules = .standard) (schema : Schema) :
    Option.Rel List.Sublist (workspace.ruleAnswer? schema files later)
      (workspace.ruleAnswer? schema files request) := by
  have hcontext : workspace.ruleContext schema files later =
      { workspace.ruleContext schema files request with
        linePrefix := later.linePrefix, word := later.word? } := by
    simp [ruleContext, h.path_eq]
  rw [ruleAnswer?_eq_bind, ruleAnswer?_eq_bind, h.rule_eq, hcontext]
  cases hrule : workspace.rule? request with
  | none => exact .none
  | some rule =>
      rcases rule?_mem hrules hrule with rfl | rfl
      · exact Rule.rel_answer_textKey _ _ h.word_stricter
      · exact Rule.rel_answer_image _ _ h.path_stricter

theorem isSome_ruleAnswer? (h : workspace.Tightens files later request)
    (hrules : workspace.rules = .standard) (schema : Schema) :
    (workspace.ruleAnswer? schema files later).isSome =
      (workspace.ruleAnswer? schema files request).isSome := by
  have hanswers := h.rel_ruleAnswer? hrules schema
  generalize workspace.ruleAnswer? schema files later = narrow at hanswers
  generalize workspace.ruleAnswer? schema files request = wide at hanswers
  cases hanswers <;> rfl

/-- The candidates of the later request are a part of those of the other one, in their order. -/
theorem value_complete_sublist (h : workspace.Tightens files later request)
    (hrules : workspace.rules = .standard) (schema : Schema) :
    (workspace.complete schema files later).value.Sublist
      (workspace.complete schema files request).value := by
  have hanswers := h.rel_ruleAnswer? hrules schema
  rw [value_complete, value_complete, Request.context?_eq_map, Request.context?_eq_map,
    h.kind_eq]
  generalize workspace.ruleAnswer? schema files later = narrow at hanswers
  generalize workspace.ruleAnswer? schema files request = wide at hanswers
  cases hanswers with
  | some hsublist => exact hsublist
  | none =>
      cases request.kind? with
      | none => exact List.Sublist.refl _
      | some kind =>
          -- Without a word both requests are offered the same.
          have hsame : workspace.offer schema files later ⟨kind, later.linePrefix, none⟩ =
              workspace.offer schema files request ⟨kind, request.linePrefix, none⟩ :=
            offer_congr _ _ h.path_eq (fun _ => h.parent_eq)
          simp only [Option.map_some]
          rw [value_offer_eq_keepAccepted, hsame, value_offer_eq_keepAccepted schema request.word?]
          exact h.word_stricter.keepAccepted_sublist _

end Workspace.Tightens

/-! ## Equal filters -/

namespace Workspace

variable {workspace : Workspace} {files : FileSystem} {request other : Request}

theorem Tightens.of_eq (hpath : request.path = other.path)
    (hrule : workspace.rule? request = workspace.rule? other)
    (hkind : request.kind? = other.kind?)
    (hparent : resolveParent request.document request.position.line =
      resolveParent other.document other.position.line)
    (hword : request.word? = other.word?)
    (htyped : workspace.project.assets files other.path ≠ none →
      typedPath request.linePrefix = typedPath other.linePrefix) :
    workspace.Tightens files request other := by
  refine ⟨hpath, hrule, hkind, hparent, ?_, ?_⟩
  · intro label haccepts
    rwa [← hword]
  · intro hassets label hmatches
    rwa [← htyped hassets]

/-- Two requests with one course and the same filters are offered the same. -/
theorem value_complete_congr (hrules : workspace.rules = .standard)
    (hpath : request.path = other.path)
    (hrule : workspace.rule? request = workspace.rule? other)
    (hkind : request.kind? = other.kind?)
    (hparent : resolveParent request.document request.position.line =
      resolveParent other.document other.position.line)
    (hword : request.word? = other.word?)
    (htyped : workspace.project.assets files other.path ≠ none →
      typedPath request.linePrefix = typedPath other.linePrefix)
    (schema : Schema) :
    (workspace.complete schema files request).value =
      (workspace.complete schema files other).value := by
  have hthere : workspace.Tightens files request other :=
    .of_eq hpath hrule hkind hparent hword htyped
  have hback : workspace.Tightens files other request :=
    .of_eq hpath.symm hrule.symm hkind.symm hparent.symm hword.symm
      (fun hassets => (htyped (hpath ▸ hassets)).symm)
  exact (hthere.value_complete_sublist hrules schema).antisymm
    (hback.value_complete_sublist hrules schema)

end Workspace

end StyleCompletion
