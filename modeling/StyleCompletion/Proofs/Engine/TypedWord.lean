/-
Typing a word, and moving in it.

While letters and digits of ASCII or `_` are typed at the end of a line, a request keeps its
course: its rule, its context and the block around it stay.  Only the typed text grows, and
with it the filter lets less pass, so the list of candidates gets shorter and never gains one.
In the middle of such a word the cursor touches the whole word wherever it stands, so moving it
there changes nothing, unless image paths are offered, which are filtered up to the cursor.
-/
import StyleCompletion.Proofs.Engine.Filter
import StyleCompletion.Proofs.Engine.LinesRead
import StyleCompletion.Proofs.Engine.WordAtEnd
import StyleCompletion.Proofs.Text.Lowercase

namespace StyleCompletion

/-! ## The course of the request -/

section

variable {request later : Request} {before after rest word : List Char}
  (hrequest : request.cursor? = some ⟨before, after⟩)
  (hlater : later.cursor? = some ⟨before ++ word, rest⟩)
  (hword : ∀ c ∈ word, Text.isAsciiWord c = true)

include hrequest hlater hword

theorem Request.kind?_of_append : later.kind? = request.kind? := by
  have hcontext : contextKind? (before ++ word) = contextKind? before := contextKind?_append hword
  simp only [kind?, context?, classify, linePrefix_of_cursor? hlater,
    linePrefix_of_cursor? hrequest, hlater, hrequest, Option.bind_some, String.toList_ofList,
    hcontext, Option.map_map, Function.comp_def]

theorem Workspace.rule?_of_append {workspace : Workspace}
    (hrules : workspace.rules = .standard) :
    workspace.rule? later = workspace.rule? request := by
  have hfind : (RuleSet.standard.find (String.ofList (before ++ word))).value =
      (RuleSet.standard.find (String.ofList before)).value :=
    RuleSet.value_find_standard_append hword
  rw [rule?, rule?, Request.linePrefix_of_cursor? hlater, Request.linePrefix_of_cursor? hrequest,
    hlater, hrequest, Option.bind_some, Option.bind_some, hrules, hfind]

theorem Request.typedImagePath?_of_append :
    typedImagePath? later.linePrefix =
      (typedImagePath? request.linePrefix).map (· ++ String.ofList word) := by
  rw [linePrefix_of_cursor? hlater, linePrefix_of_cursor? hrequest]
  exact typedImagePath?_append hword

end

/-! ## Typing at the end of a line -/

/-- A longer word under the cursor lets less pass. -/
theorem CursorLine.isStricter_word? {cursor later : CursorLine} {more : List Char}
    (h : later.wordBefore ++ later.wordAfter = (cursor.wordBefore ++ cursor.wordAfter) ++ more)
    (hsigma : 'Σ' ∉ cursor.wordBefore ++ cursor.wordAfter) (hmore : 'Σ' ∉ more) :
    IsStricter (later.word?.map String.ofList) (cursor.word?.map String.ofList) := by
  intro label
  rw [word?, word?, h]
  generalize cursor.wordBefore ++ cursor.wordAfter = typed at hsigma
  cases typed with
  | nil =>
      intro _
      rfl
  | cons c rest =>
      intro hlater
      have hwhole : candidateMatches label
          (String.ofList (c :: rest) ++ String.ofList more) = true := by
        rw [← String.ofList_append]
        exact hlater
      exact candidateMatches_of_append (by simpa using hsigma) (by simpa using hmore) hwhole

/-- What is typed after the quote ends the text. -/
theorem suffix_of_quotedAssignment? {isInside : Char → Bool} {cs name typed : List Char}
    (h : quotedAssignment? isInside cs = some (name, typed)) : typed <:+ cs := by
  simp only [quotedAssignment?] at h
  split at h
  · rw [Option.ite_none_right_eq_some, Option.map_eq_some_iff] at h
    obtain ⟨-, found, -, hpair⟩ := h
    obtain ⟨-, rfl⟩ := Prod.mk.inj hpair
    rw [← List.reverse_prefix, List.reverse_reverse]
    exact List.takeWhile_prefix isInside
  · exact absurd h (by simp)

theorem suffix_of_typedImagePath? {linePrefix typed : String}
    (h : typedImagePath? linePrefix = some typed) : typed.toList <:+ linePrefix.toList := by
  rw [typedImagePath?] at h
  split at h
  · next name path hquoted =>
      rw [Option.ite_none_right_eq_some, Option.some.injEq] at h
      obtain ⟨-, rfl⟩ := h
      rw [String.toList_ofList]
      exact suffix_of_quotedAssignment? hquoted
  · exact absurd h (by simp)

/-- A longer image path lets less pass. -/
theorem candidateMatches_typedPath_of_append {linePrefix later : String} {more : List Char}
    (h : typedImagePath? later = (typedImagePath? linePrefix).map (· ++ String.ofList more))
    (hsigma : 'Σ' ∉ linePrefix.toList) (hmore : 'Σ' ∉ more) {label : String}
    (hlater : candidateMatches label (typedPath later) = true) :
    candidateMatches label (typedPath linePrefix) = true := by
  rw [typedPath, h] at hlater
  rw [typedPath]
  cases htyped : typedImagePath? linePrefix with
  | none => rfl
  | some typed =>
      rw [htyped, Option.map_some, Option.getD_some] at hlater
      have hpath : 'Σ' ∉ typed.toList := fun hmem =>
        hsigma ((suffix_of_typedImagePath? htyped).mem hmem)
      exact candidateMatches_of_append hpath (by simpa using hmore) hlater

/-- At the end of a line the whole of it stands before the cursor. -/
theorem Request.cursor?_of_size_le {request : Request} {line : String}
    (hline : request.document.lineText request.position.line = some line)
    (hend : Text.size line ≤ request.position.column) :
    request.cursor? = some ⟨line.toList, []⟩ := by
  rw [cursor?_of_line hline, CursorLine.ofColumn, Text.takeBytes_of_byteLength_le hend,
    Text.dropBytes_of_byteLength_le hend]

/-- `later` is `request` after `typed` has been typed at the end of its line, which was `line`
before.  Nothing is said of the lines below. -/
structure Request.TypedAtEnd (request later : Request) (line typed : String) : Prop where
  path_eq : later.path = request.path
  line_eq : later.position.line = request.position.line
  lineCount_eq : later.document.lineCount = request.document.lineCount
  above_eq : ∀ n < request.position.line,
    later.document.lineText n = request.document.lineText n
  text_before : request.document.lineText request.position.line = some line
  text_after : later.document.lineText request.position.line = some (line ++ typed)
  at_end : Text.size line ≤ request.position.column
  at_end_after : Text.size (line ++ typed) ≤ later.position.column

namespace Request.TypedAtEnd

variable {request later : Request} {line typed : String}

theorem cursor?_eq (h : request.TypedAtEnd later line typed) :
    request.cursor? = some ⟨line.toList, []⟩ :=
  cursor?_of_size_le h.text_before h.at_end

theorem cursor?_after_eq (h : request.TypedAtEnd later line typed) :
    later.cursor? = some ⟨line.toList ++ typed.toList, []⟩ := by
  have hline : later.document.lineText later.position.line = some (line ++ typed) := by
    rw [h.line_eq, h.text_after]
  rw [cursor?_of_size_le hline h.at_end_after, String.toList_append]

/-- The line that is typed in says of blocks what it said before. -/
theorem resolveParent_eq (h : request.TypedAtEnd later line typed)
    (htyped : ∀ c ∈ typed.toList, Text.isAsciiWord c = true) :
    resolveParent later.document later.position.line =
      resolveParent request.document request.position.line := by
  rw [h.line_eq]
  apply resolveParent_congr (by rw [h.lineCount_eq])
  intro k hk
  rw [DocumentView.role?, DocumentView.role?]
  rcases Nat.lt_or_eq_of_le hk with hlt | rfl
  · rw [h.above_eq k hlt]
  · have hopen : '\x7b' ∉ typed.toList := Text.notMem_of_forall htyped rfl
    have hclose : '\x7d' ∉ typed.toList := Text.notMem_of_forall htyped rfl
    rw [h.text_before, h.text_after, Option.map_some, Option.map_some, String.toList_append,
      lineRole_append hopen hclose]

/-- What is typed makes the word and the image path longer, and changes nothing else. -/
theorem tightens (h : request.TypedAtEnd later line typed) (hsigma : 'Σ' ∉ line.toList)
    (htyped : ∀ c ∈ typed.toList, Text.isAsciiWord c = true) {workspace : Workspace}
    (hrules : workspace.rules = .standard) (files : FileSystem) :
    workspace.Tightens files later request := by
  have hbefore := h.cursor?_eq
  have hafter := h.cursor?_after_eq
  have hmore : 'Σ' ∉ typed.toList := Text.notMem_of_forall htyped (by decide)
  have himage := typedImagePath?_of_append hbefore hafter htyped
  refine ⟨h.path_eq, Workspace.rule?_of_append hbefore hafter htyped hrules,
    kind?_of_append hbefore hafter htyped, h.resolveParent_eq htyped, ?_, ?_⟩
  · rw [word?_of_cursor? hbefore, word?_of_cursor? hafter]
    refine CursorLine.isStricter_word? ?_ ?_ hmore
    · rw [CursorLine.wordBefore_append htyped]
      simp [CursorLine.wordAfter]
    · simp only [CursorLine.wordAfter, List.takeWhile_nil, List.append_nil]
      intro hmem
      have hline := (List.takeWhile_prefix _).mem (List.mem_reverse.mp hmem)
      exact hsigma (List.mem_reverse.mp hline)
  · intro _ label
    refine candidateMatches_typedPath_of_append himage ?_ hmore
    rwa [linePrefix_of_cursor? hbefore, String.toList_ofList]

end Request.TypedAtEnd

/-- Letters, digits and `_` typed at the end of a line leave the context, the block around the
cursor and the rule as they are, and whether that rule answers; of the candidates they take
some away, and the others stay in their order. -/
theorem Engine.complete_narrows_while_typing {engine : Engine} (hrules : engine.rules = .standard)
    {files : FileSystem} {schema : Schema}
    (hschema : (engine.store.get files).value.1 = .ok schema)
    {request later : Request} {line typed : String} (h : request.TypedAtEnd later line typed)
    (hsigma : 'Σ' ∉ line.toList) (htyped : ∀ c ∈ typed.toList, Text.isAsciiWord c = true) :
    (∃ candidates remaining,
      (engine.complete files request).value.1 = .ok candidates ∧
      (engine.complete files later).value.1 = .ok remaining ∧
      remaining.Sublist candidates) ∧
    later.kind? = request.kind? ∧
    resolveParent later.document later.position.line =
      resolveParent request.document request.position.line ∧
    engine.rule? later = engine.rule? request ∧
    (engine.ruleAnswer? schema files later).isSome =
      (engine.ruleAnswer? schema files request).isSome := by
  have htightens : engine.Tightens files later request := h.tightens hsigma htyped hrules files
  refine ⟨⟨_, _, ?_, ?_, htightens.value_complete_sublist hrules schema⟩, htightens.kind_eq,
    htightens.parent_eq, htightens.rule_eq, htightens.isSome_ruleAnswer? hrules schema⟩
  · rw [Engine.value_complete, hschema]
    rfl
  · rw [Engine.value_complete, hschema]
    rfl

/-- A name in the block of `font`, with the cursor at its end. -/
def nameInFont (line : String) : Request :=
  ⟨.ofLines #["font: \x7b", line], ⟨"label.tss"⟩, ⟨1, Text.size line⟩⟩

/-- The labels that a request is answered with. -/
def Engine.labels? (engine : Engine) (files : FileSystem) (request : Request) :
    Option (List String) :=
  (engine.complete files request).value.1.toOption.map fun candidates =>
    candidates.map Candidate.label

/-- `fo` is in both names of the block, and `fontS` in the first one only. -/
theorem Engine.complete_typing_fontSize :
    (nameInFont "  fo").TypedAtEnd (nameInFont "  fontS") "  fo" "ntS" ∧
    (∃ candidates remaining,
      (labelEngine.complete FileTree.empty.asFileSystem (nameInFont "  fo")).value.1 =
        .ok candidates ∧
      (labelEngine.complete FileTree.empty.asFileSystem (nameInFont "  fontS")).value.1 =
        .ok remaining ∧
      remaining.Sublist candidates) ∧
    labelEngine.labels? FileTree.empty.asFileSystem (nameInFont "  fo") =
      some ["fontSize", "fontFamily"] ∧
    labelEngine.labels? FileTree.empty.asFileSystem (nameInFont "  fontS") =
      some ["fontSize"] := by
  have htyped : (nameInFont "  fo").TypedAtEnd (nameInFont "  fontS") "  fo" "ntS" := by
    constructor <;> decide
  have hword : ∀ c ∈ "ntS".toList, Text.isAsciiWord c = true := List.all_eq_true.mp (by decide)
  refine ⟨htyped, ?_, by decide, by decide⟩
  exact (Engine.complete_narrows_while_typing rfl rfl htyped (by decide) hword).1

/-! ## Moving in a word -/

/-- The cursor touches the same word wherever it stands in it. -/
theorem CursorLine.word?_within {inside : List Char}
    (hinside : ∀ c ∈ inside, Text.isAsciiWord c = true) (left right : List Char) :
    CursorLine.word? ⟨left, inside ++ right⟩ = CursorLine.word? ⟨left ++ inside, right⟩ := by
  rw [word?, word?, wordAfter_append hinside, wordBefore_append hinside, List.append_assoc]
  rfl

theorem Request.cursor?_at_byteLength {document : DocumentView} {path : Path} {n : Nat}
    {line : String} (hline : document.lineText n = some line) {left right : List Char}
    (hsplit : line.toList = left ++ right) :
    Request.cursor? ⟨document, path, ⟨n, Text.byteLength left⟩⟩ = some ⟨left, right⟩ := by
  rw [cursor?_of_line hline, hsplit, CursorLine.ofColumn, Text.takeBytes_byteLength_append,
    Text.dropBytes_byteLength_append]

/-- Between two cursors with only letters, digits and `_` of ASCII between them there is no
difference in what is offered, unless image paths are, from a directory of assets. -/
theorem Engine.complete_same_within_word {engine : Engine} (hrules : engine.rules = .standard)
    {files : FileSystem} {document : DocumentView} {path : Path} {n : Nat} {line : String}
    (hline : document.lineText n = some line) {left inside right : List Char}
    (hsplit : line.toList = left ++ (inside ++ right))
    (hinside : ∀ c ∈ inside, Text.isAsciiWord c = true)
    (himage : ¬(Rule.image.applies (String.ofList left) = true ∧
      (engine.project.assets files path).isSome = true)) :
    (engine.complete files ⟨document, path, ⟨n, Text.byteLength left⟩⟩).value.1 =
      (engine.complete files ⟨document, path, ⟨n, Text.byteLength (left ++ inside)⟩⟩).value.1 := by
  have hcursor : Request.cursor? ⟨document, path, ⟨n, Text.byteLength left⟩⟩ =
      some ⟨left, inside ++ right⟩ := Request.cursor?_at_byteLength hline hsplit
  have hmoved : Request.cursor? ⟨document, path, ⟨n, Text.byteLength (left ++ inside)⟩⟩ =
      some ⟨left ++ inside, right⟩ :=
    Request.cursor?_at_byteLength hline (by rw [hsplit, List.append_assoc])
  rw [Engine.value_complete, Engine.value_complete]
  congr 1
  funext schema
  refine Workspace.value_complete_congr hrules ?_ ?_ ?_ ?_ ?_ ?_ schema
  · rfl
  · exact (Workspace.rule?_of_append hcursor hmoved hinside hrules).symm
  · exact (Request.kind?_of_append hcursor hmoved hinside).symm
  · rfl
  · rw [Request.word?_of_cursor? hcursor, Request.word?_of_cursor? hmoved,
      CursorLine.word?_within hinside]
  · intro hassets
    -- There are assets, so no image path is being typed at either cursor.
    have hnone : typedImagePath? (String.ofList left) = none := by
      rw [← Option.not_isSome_iff_eq_none]
      intro htyped
      exact himage ⟨htyped, Option.isSome_iff_ne_none.mpr hassets⟩
    rw [typedPath, typedPath, Request.typedImagePath?_of_append hcursor hmoved hinside,
      Request.linePrefix_of_cursor? hcursor, hnone]
    rfl

/-- Before and behind `ef` in `left`, the value is matched as a whole. -/
theorem Engine.complete_within_left :
    (labelEngine.complete FileTree.empty.asFileSystem
        ⟨.ofLines #["align: left"], ⟨"label.tss"⟩, ⟨0, 8⟩⟩).value.1 =
      (labelEngine.complete FileTree.empty.asFileSystem
        ⟨.ofLines #["align: left"], ⟨"label.tss"⟩, ⟨0, 10⟩⟩).value.1 ∧
    labelEngine.labels? FileTree.empty.asFileSystem
        ⟨.ofLines #["align: left"], ⟨"label.tss"⟩, ⟨0, 8⟩⟩ = some ["left"] := by
  have hsplit : "align: left".toList = "align: l".toList ++ ("ef".toList ++ "t".toList) := by
    decide
  have hinside : ∀ c ∈ "ef".toList, Text.isAsciiWord c = true := List.all_eq_true.mp (by decide)
  refine ⟨?_, by decide⟩
  exact Engine.complete_same_within_word rfl rfl hsplit hinside (by decide)

end StyleCompletion
