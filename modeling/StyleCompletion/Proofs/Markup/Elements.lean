/-
Markup read back.

An element is written on a line of its own, with any number of attributes in any order.  The
values of attributes are words with spaces between them, and words hold no equals sign.  So
nothing in a value looks like an attribute, nor does an attribute whose name only ends in
`class` or `id`, and the selectors that are found are those that the elements declare.
-/
import StyleCompletion.Proofs.Markup.Lines

namespace StyleCompletion

/-! ## Written markup -/

/-- Characters of words: all but blanks, double quotes and equals signs. -/
def isMarkupChar (c : Char) : Bool := !Text.isBlank c && c ≠ '"' && c ≠ '='

/-- A word of markup, which is not empty. -/
structure MarkupWord where
  chars : List Char
  ne_nil : chars ≠ []
  plain : chars.all isMarkupChar = true

/-- The word as a text. -/
def MarkupWord.text (word : MarkupWord) : String := String.ofList word.chars

/-- An attribute with the words of its value, of which there may be none. -/
structure MarkupAttribute where
  name : MarkupWord
  words : List MarkupWord

/-- An element with its attributes in the order in which they are written. -/
structure MarkupElement where
  tag : MarkupWord
  attributes : List MarkupAttribute

/-- Words with a space between each and the next. -/
def spaced (words : List MarkupWord) : List Char := [' '].intercalate (words.map MarkupWord.chars)

/-- An attribute as it is written behind a tag or another attribute. -/
def MarkupAttribute.chars (attr : MarkupAttribute) : List Char :=
  ' ' :: (attr.name.chars ++ '=' :: '"' :: (spaced attr.words ++ ['"']))

/-- An element as it is written. -/
def MarkupElement.chars (element : MarkupElement) : List Char :=
  '<' :: (element.tag.chars ++ (element.attributes.flatMap MarkupAttribute.chars ++ ['/', '>']))

/-- The markup that has these elements, each on a line of its own. -/
def markupOf (elements : List MarkupElement) : String :=
  String.ofList (['\n'].intercalate (elements.map MarkupElement.chars))

/-- The attribute has this name. -/
def MarkupAttribute.isNamed (name : String) (attr : MarkupAttribute) : Bool :=
  attr.name.chars = name.toList

namespace MarkupElement

/-- The words in the attributes of this name, in order. -/
def declared (name : String) (element : MarkupElement) : List MarkupWord :=
  (element.attributes.filter (MarkupAttribute.isNamed name)).flatMap MarkupAttribute.words

/-- The values of these attributes as they are written. -/
def values (name : String) (element : MarkupElement) : List (List Char) :=
  (element.attributes.filter (MarkupAttribute.isNamed name)).map fun found => spaced found.words

end MarkupElement

/-! ## What is passed over -/

namespace MarkupWord

theorem of_mem_chars (word : MarkupWord) {c : Char} (hc : c ∈ word.chars) :
    Text.isBlank c = false ∧ c ≠ '"' ∧ c ≠ '=' := by
  have hplain := List.all_eq_true.mp word.plain c hc
  simpa [isMarkupChar, and_assoc] using hplain

theorem isBlank_eq_false (word : MarkupWord) : ∀ c ∈ word.chars, Text.isBlank c = false :=
  fun _ hc => (word.of_mem_chars hc).1

theorem quote_notMem (word : MarkupWord) : '"' ∉ word.chars :=
  fun hmem => (word.of_mem_chars hmem).2.1 rfl

theorem equals_notMem (word : MarkupWord) : '=' ∉ word.chars :=
  fun hmem => (word.of_mem_chars hmem).2.2 rfl

end MarkupWord

theorem spaced_cons_cons (word next : MarkupWord) (words : List MarkupWord) :
    spaced (word :: next :: words) = word.chars ++ ' ' :: spaced (next :: words) := by
  simp [spaced, List.intercalate_cons_cons]

theorem words_spaced (words : List MarkupWord) :
    Text.words (spaced words) = words.map MarkupWord.chars := by
  apply Text.words_intercalate
  intro chars hmem
  obtain ⟨word, -, rfl⟩ := List.mem_map.mp hmem
  exact ⟨word.ne_nil, word.isBlank_eq_false⟩

/-- Words with spaces between them hold neither quotes nor line feeds. -/
theorem notMem_spaced (words : List MarkupWord) : '"' ∉ spaced words ∧ '\n' ∉ spaced words := by
  have hfeed (word : MarkupWord) : '\n' ∉ word.chars :=
    fun hmem => absurd (word.isBlank_eq_false _ hmem) (by decide)
  induction words with
  | nil => exact ⟨List.not_mem_nil, List.not_mem_nil⟩
  | cons word words ih =>
      cases words with
      | nil => simp [spaced, word.quote_notMem, hfeed word]
      | cons next words =>
          rw [spaced_cons_cons]
          simp [word.quote_notMem, hfeed word, ih]

theorem valuesAfterBlanks_run_append {name run : List Char}
    (hrun : ∀ c ∈ run, Text.isBlank c = false) (rest : List Char) :
    valuesAfterBlanks name (run ++ rest) = valuesAfterBlanks name rest := by
  induction run with
  | nil => rfl
  | cons c run ih =>
      obtain ⟨hc, hrun⟩ := List.forall_mem_cons.mp hrun
      rw [List.cons_append, valuesAfterBlanks_cons_of_not_isBlank hc, ih hrun]

section

variable {kind : SelectorKind}

/-- A run without equals signs up to a character that is in no name starts an attribute only if it
is the name and the character is the equals sign behind it. -/
theorem attributeValue?_append_eq_none {run : List Char} {c : Char} (hrun : '=' ∉ run)
    (hc : c ∈ [' ', '\n', '"', '=', '<']) (hne : c = '=' → run ≠ kind.attribute.toList)
    (rest : List Char) : attributeValue? kind.attribute.toList (run ++ c :: rest) = none := by
  rw [Option.eq_none_iff_forall_ne_some]
  rintro ⟨value, after⟩ hsome
  obtain ⟨hsplit, -, -⟩ := attributeValue?_eq_some_iff.mp hsome
  rw [List.append_assoc] at hsplit
  obtain ⟨between, hword, hrest⟩ :=
    Text.exists_between_of_append_eq hsplit.symm (SelectorKind.notMem_attribute hc)
  -- The equals sign behind the name would be the character after the run, or in the run.
  cases between with
  | nil =>
      obtain ⟨hequals, -⟩ := List.cons.inj hrest
      exact hne hequals.symm (by rw [hword, List.append_nil])
  | cons d between =>
      obtain ⟨rfl, -⟩ := List.cons.inj hrest
      exact hrun (hword ▸ List.mem_append_right _ List.mem_cons_self)

/-- Behind a blank, the first word of a value is not the name of an attribute. -/
theorem attributeValue?_spaced_append (word : MarkupWord) (words : List MarkupWord)
    (rest : List Char) :
    attributeValue? kind.attribute.toList (spaced (word :: words) ++ '"' :: rest) = none := by
  cases words with
  | nil =>
      rw [spaced, List.map_singleton, List.intercalate_singleton]
      exact attributeValue?_append_eq_none word.equals_notMem (by simp) (by simp) rest
  | cons next words =>
      rw [spaced_cons_cons, List.append_assoc]
      exact attributeValue?_append_eq_none word.equals_notMem (by simp) (by simp) _

theorem valuesAfterBlanks_spaced_append (words : List MarkupWord) (rest : List Char) :
    valuesAfterBlanks kind.attribute.toList (spaced words ++ '"' :: rest) =
      valuesAfterBlanks kind.attribute.toList rest := by
  have hquote : Text.isBlank '"' = false := by decide
  induction words with
  | nil => exact valuesAfterBlanks_cons_of_not_isBlank hquote rest
  | cons word words ih =>
      cases words with
      | nil =>
          rw [spaced, List.map_singleton, List.intercalate_singleton,
            valuesAfterBlanks_run_append word.isBlank_eq_false,
            valuesAfterBlanks_cons_of_not_isBlank hquote]
      | cons next words =>
          -- Behind the space an attribute could stand, but the next word does not start one.
          rw [spaced_cons_cons, List.append_assoc,
            valuesAfterBlanks_run_append word.isBlank_eq_false, List.cons_append,
            valuesAfterBlanks_cons_of_isBlank (by decide),
            attributeValues_of_none (attributeValue?_spaced_append next words rest), ih]

/-! ## What is found -/

theorem valuesAfterBlanks_attribute_append (attr : MarkupAttribute) (rest : List Char) :
    valuesAfterBlanks kind.attribute.toList (attr.chars ++ rest) =
      (if attr.isNamed kind.attribute then [spaced attr.words] else []) ++
        valuesAfterBlanks kind.attribute.toList rest := by
  have hchars : attr.chars ++ rest =
      ' ' :: (attr.name.chars ++ '=' :: '"' :: (spaced attr.words ++ '"' :: rest)) := by
    simp [MarkupAttribute.chars]
  rw [hchars, valuesAfterBlanks_cons_of_isBlank (by decide)]
  by_cases hnamed : attr.isNamed kind.attribute = true
  · have hname : attr.name.chars = kind.attribute.toList := by
      simpa [MarkupAttribute.isNamed] using hnamed
    obtain ⟨hquote, hfeed⟩ := notMem_spaced attr.words
    have hvalue : attributeValue? kind.attribute.toList
        (attr.name.chars ++ '=' :: '"' :: (spaced attr.words ++ '"' :: rest)) =
          some (spaced attr.words, rest) :=
      attributeValue?_eq_some_iff.mpr ⟨by simp [hname], hquote, hfeed⟩
    rw [if_pos hnamed, attributeValues_of_some hvalue, List.singleton_append]
  · have hname : attr.name.chars ≠ kind.attribute.toList := by
      simpa [MarkupAttribute.isNamed] using hnamed
    -- The name may end in the one that is looked for, but no blank stands before that part of it.
    have hequals : '=' ∈ [' ', '\n', '"', '=', '<'] := by simp
    have hnone := attributeValue?_append_eq_none attr.name.equals_notMem hequals (fun _ => hname)
      ('"' :: (spaced attr.words ++ '"' :: rest))
    rw [if_neg hnamed, attributeValues_of_none hnone, List.nil_append,
      valuesAfterBlanks_run_append attr.name.isBlank_eq_false,
      valuesAfterBlanks_cons_of_not_isBlank (by decide),
      valuesAfterBlanks_cons_of_not_isBlank (by decide), valuesAfterBlanks_spaced_append]

theorem valuesAfterBlanks_attributes_append (attributes : List MarkupAttribute)
    (rest : List Char) :
    valuesAfterBlanks kind.attribute.toList (attributes.flatMap MarkupAttribute.chars ++ rest) =
      (attributes.filter (MarkupAttribute.isNamed kind.attribute)).map
        (fun found => spaced found.words) ++ valuesAfterBlanks kind.attribute.toList rest := by
  induction attributes with
  | nil => rfl
  | cons attr attributes ih =>
      rw [List.flatMap_cons, List.append_assoc, valuesAfterBlanks_attribute_append, ih,
        List.filter_cons]
      split <;> simp

/-- The values found in an element are those of its attributes for the kind of selector. -/
theorem attributeValues_element (element : MarkupElement) :
    attributeValues kind.attribute.toList element.chars = element.values kind.attribute := by
  have hnone : attributeValue? kind.attribute.toList element.chars = none :=
    attributeValue?_append_eq_none List.not_mem_nil (by simp) (by simp) _
  have hend : valuesAfterBlanks kind.attribute.toList ['/', '>'] = [] := by
    rw [valuesAfterBlanks_cons_of_not_isBlank (by decide),
      valuesAfterBlanks_cons_of_not_isBlank (by decide), valuesAfterBlanks]
  rw [attributeValues_of_none hnone, MarkupElement.chars,
    valuesAfterBlanks_cons_of_not_isBlank (by decide),
    valuesAfterBlanks_run_append element.tag.isBlank_eq_false,
    valuesAfterBlanks_attributes_append, hend, List.append_nil, MarkupElement.values]

theorem attributeValues_markupOf (elements : List MarkupElement) :
    attributeValues kind.attribute.toList (markupOf elements).toList =
      elements.flatMap (MarkupElement.values kind.attribute) := by
  rw [markupOf, String.toList_ofList]
  induction elements with
  | nil =>
      have hnone : attributeValue? kind.attribute.toList [] = none := by
        simp [Option.eq_none_iff_forall_ne_some, attributeValue?_eq_some_iff]
      rw [List.map_nil, List.intercalate_nil, attributeValues_of_none hnone, valuesAfterBlanks,
        List.flatMap_nil]
  | cons element elements ih =>
      cases elements with
      | nil => simp [List.intercalate_singleton, attributeValues_element]
      | cons next elements =>
          rw [List.map_cons, List.map_cons, List.intercalate_cons_cons, List.append_assoc,
            List.singleton_append,
            attributeValues_append_feed (SelectorKind.notMem_attribute (by simp)),
            attributeValues_element, ← List.map_cons, ih]
          exact List.flatMap_cons.symm

theorem MarkupElement.flatMap_words_values (element : MarkupElement) :
    (element.values kind.attribute).flatMap Text.words =
      (element.declared kind.attribute).map MarkupWord.chars := by
  simp only [values, declared, List.flatMap_map, List.map_flatMap, words_spaced]

end

theorem selectors_markupOf (elements : List MarkupElement) (kind : SelectorKind) :
    selectors (markupOf elements) kind =
      ((elements.flatMap (MarkupElement.declared kind.attribute)).map
        MarkupWord.text).eraseDups := by
  have hwords : (attributeValues kind.attribute.toList (markupOf elements).toList).flatMap
      Text.words =
        (elements.flatMap (MarkupElement.declared kind.attribute)).map MarkupWord.chars := by
    rw [attributeValues_markupOf, List.flatMap_assoc, List.map_flatMap]
    simp only [MarkupElement.flatMap_words_values]
  simp only [selectors]
  rw [Text.distinct_eq_eraseDups, hwords, List.map_map]
  rfl

/-- What is found in written markup is what its elements declare: the classes are exactly the words
in the attributes `class`, and the ids are exactly those in the attributes `id`, each once, in
the order in which they first appear.  What stands in other attributes is in neither list. -/
theorem selectors_recover_markup (elements : List MarkupElement) :
    selectors (markupOf elements) .byClass =
      ((elements.flatMap (MarkupElement.declared "class")).map MarkupWord.text).eraseDups ∧
    selectors (markupOf elements) .byId =
      ((elements.flatMap (MarkupElement.declared "id")).map MarkupWord.text).eraseDups :=
  ⟨selectors_markupOf elements .byClass, selectors_markupOf elements .byId⟩

/-- An element as it is written, with a value of several words, an empty one and a name that ends
in another name. -/
example : markupOf [
      ⟨⟨['L'], by decide, by decide⟩, [
        ⟨⟨"textid".toList, by decide, by decide⟩, [⟨['t'], by decide, by decide⟩]⟩,
        ⟨⟨"class".toList, by decide, by decide⟩,
          [⟨['a'], by decide, by decide⟩, ⟨['b'], by decide, by decide⟩]⟩]⟩,
      ⟨⟨['V'], by decide, by decide⟩, [⟨⟨"class".toList, by decide, by decide⟩, []⟩]⟩] =
    "<L textid=\"t\" class=\"a b\"/>\n<V class=\"\"/>" := by
  decide

end StyleCompletion
