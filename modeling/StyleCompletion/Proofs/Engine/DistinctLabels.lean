/-
Candidates under distinct labels.

Every list that is offered comes about in its own way: tags and properties are the names of a
dictionary, selectors are collected without duplicates, the keys of a strings file are kept at
their first entry only, and images are told apart by their labels after those have been made, as
several files can share one.  Each of these lists has distinct labels before the filter, and the
filter only takes candidates away.  The values of a property and the properties in a block are
offered as the schema lists them and can come twice.
-/
import StyleCompletion.Proofs.Engine.Filter
import StyleCompletion.Proofs.Schema.RepeatedNames
import StyleCompletion.Proofs.Strings.ReadBack

namespace StyleCompletion

/-- No two of the candidates have one label. -/
def DistinctLabels (candidates : List Candidate) : Prop :=
  (candidates.map Candidate.label).Nodup

namespace DistinctLabels

theorem nil : DistinctLabels [] := List.nodup_nil

theorem of_map_label_eq {candidates : List Candidate} {labels : List String}
    (hlabels : candidates.map Candidate.label = labels) (h : labels.Nodup) :
    DistinctLabels candidates := by
  rwa [DistinctLabels, hlabels]

/-- A filter leaves distinct labels distinct. -/
theorem filter {candidates : List Candidate} (h : DistinctLabels candidates)
    (p : Candidate → Bool) : DistinctLabels (candidates.filter p) :=
  (List.filter_sublist.map Candidate.label).nodup h

end DistinctLabels

/-! ## Lists for a context -/

section

variable (schema : Schema) (settings : Settings) (word : Option String)

theorem distinctLabels_offerTags : DistinctLabels (offerTags schema word settings) := by
  rw [offerTags_eq_keepAccepted]
  exact (DistinctLabels.of_map_label_eq (map_label_offerTags schema settings)
    schema.tags.nodup).filter _

theorem map_label_offerAllProperties :
    (offerAllProperties schema none settings).map Candidate.label = schema.properties.keys := by
  simp [offerAllProperties, Dictionary.keys]

theorem distinctLabels_offerAllProperties :
    DistinctLabels (offerAllProperties schema word settings) := by
  rw [offerAllProperties_eq_keepAccepted]
  exact (DistinctLabels.of_map_label_eq (map_label_offerAllProperties schema settings)
    schema.properties.nodup).filter _

/-- Where no properties are known for the block, all of them are offered. -/
theorem value_offerProperties_of_top {parent : Option String}
    (h : ∀ name, parent = some name → (schema.nestedProperties name).value = none) :
    (offerProperties schema parent word settings).value =
      offerAllProperties schema word settings := by
  cases parent with
  | none => rfl
  | some name =>
      simp only [offerProperties, Logged.value_bind, h name rfl]
      rfl

theorem distinctLabels_offerSelectors (project : Project) (files : FileSystem) (style : Path)
    (kind : SelectorKind) :
    DistinctLabels (offerSelectors project files style kind word).value := by
  rw [value_offerSelectors_eq_keepAccepted]
  apply DistinctLabels.filter
  rw [offerSelectors]
  split
  · exact .nil
  · split
    · exact .nil
    · -- The labels are the selectors, and these are collected without duplicates.
      next markup _ =>
        have hselectors : (selectors markup kind).Nodup := Text.nodup_distinct _
        refine .of_map_label_eq ?_ hselectors
        simp [Candidate.new, Candidate.withDetail, Function.comp_def]

end

/-! ## Lists of rules -/

theorem distinctLabels_keyCandidates (text : String) (word : Option String) :
    DistinctLabels (keyCandidates text word) := by
  rw [keyCandidates_eq_keepAccepted]
  apply DistinctLabels.filter
  have hlabels : (keyCandidates text none).map Candidate.label =
      ((stringEntries text.toList).map StringEntry.key).eraseDups.map String.ofList := by
    rw [← map_key_distinctEntries]
    simp [keyCandidates]
  refine .of_map_label_eq hlabels ?_
  rw [← Text.distinct_eq_eraseDups]
  exact List.Pairwise.map String.ofList (fun _ _ hne heq => hne (String.ofList_injective heq))
    (Text.nodup_distinct _)

/-- Whatever files share a label, it is offered once. -/
theorem distinctLabels_imageCandidates (files : List (List String)) (typed : String) :
    DistinctLabels (imageCandidates files typed) := by
  have hlabels : (imageCandidates files typed).map Candidate.label =
      Text.distinct ((files.filterMap imageLabel?).filter (candidateMatches · typed)) := by
    simp [imageCandidates, Candidate.new, Function.comp_def]
  exact .of_map_label_eq hlabels (Text.nodup_distinct _)

theorem Rule.distinctLabels_answer {rule : Rule} (hrule : rule = .textKey ∨ rule = .image)
    {context : RuleContext} {candidates : List Candidate}
    (h : (rule.answer context).value = some candidates) : DistinctLabels candidates := by
  rcases hrule with rfl | rfl
  · simp only [Rule.textKey] at h
    split at h
    · exact absurd h (by simp)
    · split at h
      · exact absurd h (by simp [Logged.reporting])
      · obtain rfl := Option.some.inj h
        exact distinctLabels_keyCandidates _ _
  · simp only [Rule.image] at h
    split at h
    · exact absurd h (by simp)
    · split at h
      · obtain rfl := Option.some.inj h
        exact .nil
      · obtain rfl := Option.some.inj h
        exact distinctLabels_imageCandidates _ _

/-! ## Requests -/

namespace Request

/-- The block around the cursor, if there is one, is not known to hold certain properties, so that
all of them may stand there. -/
def TakesAllProperties (request : Request) (schema : Schema) : Prop :=
  ∀ parent, (resolveParent request.document request.position.line).value = some parent →
    (schema.nestedProperties parent).value = none

end Request

namespace Workspace

/-- The request is answered by a rule of the library, or with tags, with selectors, or with all
properties of the schema. -/
inductive ListsByName (workspace : Workspace) (schema : Schema) (files : FileSystem)
    (request : Request) : Prop where
  | rule {rule : Rule} (hrule : rule = .textKey ∨ rule = .image)
      (hfound : workspace.rule? request = some rule)
      (hanswer : (rule.answer (workspace.ruleContext schema files request)).value.isSome = true)
  | tag (hkind : request.kind? = some .tag)
  | selector {selector : SelectorKind} (hkind : request.kind? = some (.classOrId selector))
  | property (hkind : request.kind? = some .propertyName)
      (hall : request.TakesAllProperties schema)

variable {workspace : Workspace} {schema : Schema} {files : FileSystem} {request : Request}

/-- A rule of the library that answers gives distinct labels. -/
theorem distinctLabels_ruleAnswer? (hrules : workspace.rules = .standard)
    {candidates : List Candidate}
    (h : workspace.ruleAnswer? schema files request = some candidates) :
    DistinctLabels candidates := by
  rw [ruleAnswer?_eq_bind] at h
  obtain ⟨rule, hrule, hanswer⟩ := Option.bind_eq_some_iff.mp h
  exact Rule.distinctLabels_answer (Tightens.rule?_mem hrules hrule) hanswer

/-- What is offered for a context in which names are listed has distinct labels. -/
theorem ListsByName.distinctLabels_offer (h : workspace.ListsByName schema files request)
    (hanswer : workspace.ruleAnswer? schema files request = none) {context : Context}
    (hcontext : request.context? = some context) :
    DistinctLabels (workspace.offer schema files request context).value := by
  have hkind : request.kind? = some context.kind := by
    rw [Request.kind?, hcontext, Option.map_some]
  cases h with
  | rule hrule hfound hsome =>
      -- The rule does not answer after all.
      rw [ruleAnswer?_eq_bind, hfound, Option.bind_some] at hanswer
      rw [hanswer] at hsome
      exact absurd hsome (by simp)
  | tag htag =>
      have hcase : context.kind = .tag := Option.some.inj (hkind.symm.trans htag)
      rw [offer, hcase]
      exact distinctLabels_offerTags _ _ _
  | @selector selector hselector =>
      have hcase : context.kind = .classOrId selector :=
        Option.some.inj (hkind.symm.trans hselector)
      rw [offer, hcase]
      exact distinctLabels_offerSelectors _ _ _ _ _
  | property hproperty hall =>
      have hcase : context.kind = .propertyName := Option.some.inj (hkind.symm.trans hproperty)
      rw [offer, hcase]
      simp only [Logged.value_bind]
      rw [value_offerProperties_of_top schema workspace.settings context.word hall]
      exact distinctLabels_offerAllProperties _ _ _

theorem ListsByName.distinctLabels_complete (h : workspace.ListsByName schema files request)
    (hrules : workspace.rules = .standard) :
    DistinctLabels (workspace.complete schema files request).value := by
  rw [value_complete]
  cases hanswer : workspace.ruleAnswer? schema files request with
  | some candidates => exact distinctLabels_ruleAnswer? hrules hanswer
  | none =>
      cases hcontext : request.context? with
      | none => exact .nil
      | some context => exact h.distinctLabels_offer hanswer hcontext

end Workspace

/-- Nothing is suggested twice: whatever text the schema is read from, and whatever the settings,
the project and the files are, a request that a rule of the library answers, or that is answered
with tags, with selectors or with all properties, gets candidates under distinct labels. -/
theorem Engine.complete_suggests_nothing_twice {engine : Engine}
    (hrules : engine.rules = .standard) {files : FileSystem} {text : String} {schema : Schema}
    (htext : Schema.ofText text = .ok schema)
    (hstore : (engine.store.get files).value.1 = Schema.ofText text) {request : Request}
    (hlists : engine.ListsByName schema files request) :
    ∃ candidates, (engine.complete files request).value.1 = .ok candidates ∧
      (candidates.map Candidate.label).Nodup := by
  refine ⟨_, ?_, hlists.distinctLabels_complete hrules⟩
  rw [Engine.value_complete, hstore, htext]
  rfl

/-- A schema document with a tag that comes twice. -/
def doubledDocument : Json :=
  .object [("tags", .object [("View", .object []), ("Label", .object []), ("View", .object [])])]

/-- The schema that it is read as. -/
def doubledSchema : Schema := { tags := .ofList [("View", {}), ("Label", {})] }

/-- An engine with this schema, a strings file in which a key comes twice and a view in which a
class does. -/
def doubledEngine : Engine where
  project := .inMemory
    [(⟨"strings.xml"⟩, cartStrings),
      (⟨"view.xml"⟩, "<View class=\"box big\"/><View class=\"box\"/>")]
    (some ⟨"view.xml"⟩) (some ⟨"strings.xml"⟩) none
  store := .preloaded doubledSchema

/-- The tag, the class and the key are each suggested once. -/
theorem Engine.complete_doubledEngine :
    Schema.ofText doubledDocument.compact = .ok doubledSchema ∧
    ∀ line ∈ ["\"", "\".", "textid: \""], ∃ candidates,
      (doubledEngine.complete FileTree.empty.asFileSystem (atEndOf line)).value.1 =
        .ok candidates ∧ (candidates.map Candidate.label).Nodup := by
  have hparse : Json.parse doubledDocument.compact = .ok doubledDocument :=
    Json.parse_compact (by simp [doubledDocument, Json.depthLimit])
  have htext : Schema.ofText doubledDocument.compact = .ok doubledSchema :=
    (Schema.ofText_eq_ok_iff hparse).mpr rfl
  have hstore : (doubledEngine.store.get FileTree.empty.asFileSystem).value.1 =
      Schema.ofText doubledDocument.compact := htext.symm
  have hlists (line : String)
      (h : doubledEngine.ListsByName doubledSchema FileTree.empty.asFileSystem (atEndOf line)) :
      ∃ candidates, (doubledEngine.complete FileTree.empty.asFileSystem (atEndOf line)).value.1 =
        .ok candidates ∧ (candidates.map Candidate.label).Nodup :=
    Engine.complete_suggests_nothing_twice rfl htext hstore h
  have htag : (atEndOf "\"").kind? = some .tag := by decide
  have hselector : (atEndOf "\".").kind? = some (.classOrId .byClass) := by decide
  have hkey : doubledEngine.rule? (atEndOf "textid: \"") = some .textKey := rfl
  simp only [List.forall_mem_cons]
  exact ⟨htext, hlists _ (.tag htag), hlists _ (.selector hselector),
    hlists _ (.rule (.inl rfl) hkey rfl), by simp⟩

end StyleCompletion
