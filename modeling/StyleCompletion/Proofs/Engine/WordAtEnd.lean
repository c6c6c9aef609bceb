/-
A word at the end of a line prefix.

The patterns for contexts and rules read a line prefix from its end and first pass over what is
being typed.  Letters and digits of ASCII and `_` belong to that in each of them.  So a word of
these characters at the end of a prefix changes neither its context nor the rule for it, and no
line changes its role for blocks by such a word; only the text that is being typed grows.
-/
import StyleCompletion.Engine
import StyleCompletion.Proofs.Block.Opening
import StyleCompletion.Proofs.Text.Classes
import StyleCompletion.Proofs.Text.Runs

namespace StyleCompletion

section

variable {cs word : List Char} (hword : ∀ c ∈ word, Text.isAsciiWord c = true)

include hword

/-! ## Reading from the end -/

section

variable {p : Char → Bool} (hp : ∀ c, Text.isAsciiWord c = true → p c = true)

include hp

theorem dropWhile_reverse_append : (cs ++ word).reverse.dropWhile p = cs.reverse.dropWhile p := by
  have hpass : ∀ c ∈ word.reverse, p c = true :=
    fun c hc => hp c (hword c (List.mem_reverse.mp hc))
  rw [List.reverse_append, List.dropWhile_append_of_pos hpass]

theorem reverse_takeWhile_reverse_append :
    ((cs ++ word).reverse.takeWhile p).reverse = (cs.reverse.takeWhile p).reverse ++ word := by
  have hpass : ∀ c ∈ word.reverse, p c = true :=
    fun c hc => hp c (hword c (List.mem_reverse.mp hc))
  rw [List.reverse_append, List.takeWhile_append_of_pos hpass, List.reverse_append,
    List.reverse_reverse]

end

/-! ## The context -/

theorem valueProperty?_append : valueProperty? (cs ++ word) = valueProperty? cs := by
  have hvalue : ∀ c, Text.isAsciiWord c = true → isValueChar c = true := by
    intro c hc
    simp [isValueChar, Text.isNameChar_of_isAsciiWord hc]
  rw [valueProperty?, valueProperty?, dropWhile_reverse_append hword hvalue]

theorem all_isNameChar_of_isAsciiWord : word.all Text.isNameChar = true :=
  List.all_eq_true.mpr (fun c hc => Text.isNameChar_of_isAsciiWord (hword c hc))

theorem isPropertyName_append : isPropertyName (cs ++ word) = isPropertyName cs := by
  have hname := all_isNameChar_of_isAsciiWord hword
  rw [isPropertyName, isPropertyName, Text.trimLeft, Text.trimLeft, List.dropWhile_append]
  split
  · -- Only blanks stand before the word, and the word itself is a name.
    next hempty =>
      rw [List.isEmpty_iff.mp hempty, List.all_nil, List.all_eq_true]
      intro c hc
      exact List.all_eq_true.mp hname c (List.dropWhile_subset _ hc)
  · rw [List.all_append, hname, Bool.and_true]

theorem isQuote_eq_false_of_mem_word {c : Char} (hc : c ∈ word) : isQuote c = false := by
  rw [Bool.eq_false_iff]
  intro hquote
  simp only [isQuote, Bool.or_eq_true, decide_eq_true_eq] at hquote
  rcases hquote with rfl | rfl
  · exact Text.notMem_of_forall hword (by decide) hc
  · exact Text.notMem_of_forall hword (by decide) hc

theorem selectorKind?_append : selectorKind? (cs ++ word) = selectorKind? cs := by
  have hname := all_isNameChar_of_isAsciiWord hword
  match cs with
  | [] =>
      -- A word does not start with a quote.
      match word with
      | [] => rfl
      | [c] => rfl
      | quote :: mark :: name =>
          simp [selectorKind?, isQuote_eq_false_of_mem_word hword (List.mem_cons_self)]
  | [quote] =>
      -- After a quote a word has no mark.
      match word with
      | [] => rfl
      | mark :: name =>
          have hdot : mark ≠ '.' := by
            rintro rfl
            exact Text.notMem_of_forall hword (by decide) List.mem_cons_self
          have hhash : mark ≠ '#' := by
            rintro rfl
            exact Text.notMem_of_forall hword (by decide) List.mem_cons_self
          simp [selectorKind?, hdot, hhash]
  | quote :: mark :: name =>
      simp only [List.cons_append, selectorKind?, List.all_append, hname, Bool.and_true]

theorem isTag_append : isTag (cs ++ word) = isTag cs := by
  have hname := all_isNameChar_of_isAsciiWord hword
  match cs with
  | [] =>
      match word with
      | [] => rfl
      | quote :: name =>
          simp [isTag, isQuote_eq_false_of_mem_word hword (List.mem_cons_self)]
  | quote :: name => simp only [List.cons_append, isTag, List.all_append, hname, Bool.and_true]

/-- A word at the end of a prefix leaves its context as it is. -/
theorem contextKind?_append : contextKind? (cs ++ word) = contextKind? cs := by
  rw [contextKind?, contextKind?, valueProperty?_append hword, isPropertyName_append hword,
    selectorKind?_append hword, isTag_append hword]

/-! ## The rule -/

/-- A word at the end goes to the quoted text. -/
theorem quotedAssignment?_append {isInside : Char → Bool}
    (hinside : ∀ c, Text.isNameChar c = true → isInside c = true) :
    quotedAssignment? isInside (cs ++ word) =
      (quotedAssignment? isInside cs).map fun (name, typed) => (name, typed ++ word) := by
  have hpass : ∀ c, Text.isAsciiWord c = true → isInside c = true :=
    fun c hc => hinside c (Text.isNameChar_of_isAsciiWord hc)
  simp only [quotedAssignment?, dropWhile_reverse_append hword hpass,
    reverse_takeWhile_reverse_append hword hpass]
  split
  · split
    · rw [Option.map_map]
      rfl
    · rfl
  · rfl

theorem endsInKey_append :
    endsInKey (String.ofList (cs ++ word)) = endsInKey (String.ofList cs) := by
  have hkey : ∀ c, Text.isNameChar c = true → isKeyChar c = true := by
    intro c hc
    simp [isKeyChar, hc]
  rw [endsInKey, endsInKey, String.toList_ofList, String.toList_ofList,
    quotedAssignment?_append hword hkey]
  cases quotedAssignment? isKeyChar cs <;> rfl

theorem typedImagePath?_append :
    typedImagePath? (String.ofList (cs ++ word)) =
      (typedImagePath? (String.ofList cs)).map (· ++ String.ofList word) := by
  have hpath : ∀ c, Text.isNameChar c = true → isImagePathChar c = true := by
    intro c hc
    simp [isImagePathChar, hc]
  rw [typedImagePath?, typedImagePath?, String.toList_ofList, String.toList_ofList,
    quotedAssignment?_append hword hpath]
  cases quotedAssignment? isImagePathChar cs with
  | none => rfl
  | some assignment =>
      simp only [Option.map_some]
      split
      · rw [Option.map_some, String.ofList_append]
      · rfl

/-- A word at the end of a prefix leaves the rule of the library for it as it is. -/
theorem RuleSet.value_find_standard_append :
    (RuleSet.standard.find (String.ofList (cs ++ word))).value =
      (RuleSet.standard.find (String.ofList cs)).value := by
  have hkey : Rule.textKey.applies (String.ofList (cs ++ word)) =
      Rule.textKey.applies (String.ofList cs) := endsInKey_append hword
  have himage : Rule.image.applies (String.ofList (cs ++ word)) =
      Rule.image.applies (String.ofList cs) := by
    simp only [Rule.image, typedImagePath?_append hword, Option.isSome_map]
  have hfilter : RuleSet.standard.rules.filter (·.applies (String.ofList (cs ++ word))) =
      RuleSet.standard.rules.filter (·.applies (String.ofList cs)) := by
    simp only [RuleSet.standard, List.filter_cons, List.filter_nil, hkey, himage]
  rw [RuleSet.find, RuleSet.find, hfilter]
  split <;> rfl

/-! ## The word under the cursor -/

theorem CursorLine.wordBefore_append (after : List Char) :
    CursorLine.wordBefore ⟨cs ++ word, after⟩ = CursorLine.wordBefore ⟨cs, after⟩ ++ word :=
  reverse_takeWhile_reverse_append hword (fun _ => Text.isCursorChar_of_isAsciiWord)

theorem CursorLine.wordAfter_append (before after : List Char) :
    CursorLine.wordAfter ⟨before, word ++ after⟩ = word ++ CursorLine.wordAfter ⟨before, after⟩ :=
  List.takeWhile_append_of_pos (fun c hc => Text.isCursorChar_of_isAsciiWord (hword c hc))

end

/-! ## The role of the line -/

/-- What ends in a brace ends before a word without one. -/
theorem exists_append_of_notMem {line word rest : List Char} {c : Char} (front : List Char)
    (h : line ++ word = front ++ c :: rest) (hc : c ∉ word) :
    ∃ between, line = front ++ c :: between := by
  rcases List.append_eq_append_iff.mp h with ⟨between, -, hword⟩ | ⟨between, hline, hrest⟩
  · have hmem : c ∈ word := by simp [hword]
    exact absurd hmem hc
  · cases between with
    | nil =>
        have hmem : c ∈ word := by
          rw [List.nil_append] at hrest
          simp [← hrest]
        exact absurd hmem hc
    | cons d between =>
        rw [List.cons_append, List.cons.injEq] at hrest
        exact ⟨between, by rw [hline, hrest.1]⟩

/-- An opening ends in its brace, so a word after it is not read. -/
theorem blockReading_append_iff {line word name : List Char} (hbrace : '\x7b' ∉ word) :
    BlockReading (line ++ word) name ↔ BlockReading line name := by
  constructor
  · intro h
    generalize hwhole : line ++ word = whole at h
    cases h with
    | @intro indent _ gap inner rest hindent hname hsolid hgap hinner =>
        have hfront : line ++ word =
            (indent ++ (name ++ (gap ++ ':' :: inner))) ++ '\x7b' :: rest := by
          rw [hwhole]
          simp
        obtain ⟨between, rfl⟩ := exists_append_of_notMem _ hfront hbrace
        have hreading := @BlockReading.intro indent name gap inner between hindent hname hsolid
          hgap hinner
        simpa using hreading
  · intro h
    cases h with
    | @intro indent _ gap inner rest hindent hname hsolid hgap hinner =>
        have hreading := @BlockReading.intro indent name gap inner (rest ++ word) hindent hname
          hsolid hgap hinner
        simpa using hreading

theorem blockName?_trimLeft_append {line word : List Char} (hbrace : '\x7b' ∉ word) :
    blockName? (Text.trimLeft (line ++ word)) = blockName? (Text.trimLeft line) := by
  apply Option.ext
  intro name
  rw [blockName?_trimLeft_eq_some_iff, blockName?_trimLeft_eq_some_iff, IsBlockOpening,
    IsBlockOpening]
  simp only [blockReading_append_iff hbrace]

/-- A word without braces at the end of a line leaves its role as it is. -/
theorem lineRole_append {line word : List Char} (hopen : '\x7b' ∉ word) (hclose : '\x7d' ∉ word) :
    lineRole (line ++ word) = lineRole line := by
  rw [lineRole, lineRole, blockName?_trimLeft_append hopen]
  split
  · next name hname =>
      -- The name is not empty, so the word stands past its first character.
      obtain ⟨hne, -, rest, htrim, -⟩ := blockName?_sound hname
      have hsolid : Text.trimLeft line ≠ [] := by simp [htrim, hne]
      have happend : Text.trimLeft (line ++ word) = Text.trimLeft line ++ word := by
        rw [Text.trimLeft, List.dropWhile_append, if_neg]
        · rfl
        · simpa [Text.trimLeft] using hsolid
      rw [happend, List.tail_append_of_ne_nil hsolid]
      simp [hclose]
  · simp [hclose]

end StyleCompletion
