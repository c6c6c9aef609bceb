/-
Line prefixes at a property value.

A line prefix can hold many names and many colons.  The value that is being typed belongs to the
last colon, and its property is the whole name before that colon.  Here a prefix is cut into what
stands before the property, the property, the colon between blanks and what is typed.  There is at
most one such cut, and the classifier finds a property value exactly when there is one.
-/
import StyleCompletion.Proofs.Context.Patterns

namespace StyleCompletion

/-- A line prefix at a property value, cut into its parts.  The name is whole: what stands before
it is empty or does not end in a character of a name. -/
@[ext]
structure ValueSplit where
  front : List Char
  name : List Char
  /-- The blanks before the colon. -/
  gap : List Char
  /-- The blanks after the colon. -/
  inner : List Char
  typed : List Char
  stopsAt_front : Text.StopsAt Text.isNameChar front
  name_ne_nil : name ≠ []
  isNameChar_name : ∀ c ∈ name, Text.isNameChar c = true
  isBlank_gap : ∀ c ∈ gap, Text.isBlank c = true
  isBlank_inner : ∀ c ∈ inner, Text.isBlank c = true
  isValueChar_typed : ∀ c ∈ typed, isValueChar c = true

namespace ValueSplit

/-- The line prefix. -/
def chars (split : ValueSplit) : List Char :=
  split.front ++ split.name ++ split.gap ++ ':' :: split.inner ++ split.typed

/-- The line prefix without what is typed. -/
def body (split : ValueSplit) : List Char :=
  ((split.front ++ split.name) ++ split.gap ++ [':']) ++ split.inner

theorem chars_eq (split : ValueSplit) : split.chars = split.body ++ split.typed := by
  simp [chars, body]

theorem reading (split : ValueSplit) : AssignmentReading split.body split.front split.name := by
  have h := @AssignmentReading.intro split.front split.name split.gap split.inner
    split.name_ne_nil split.isNameChar_name split.isBlank_gap split.isBlank_inner
  simpa [body] using h

/-- Behind the colon there is no other one. -/
theorem colon_notMem (split : ValueSplit) : ':' ∉ split.inner ++ split.typed := by
  rw [List.mem_append]
  rintro (hmem | hmem)
  · exact Text.notMem_of_forall split.isBlank_inner (by decide) hmem
  · exact Text.notMem_of_forall split.isValueChar_typed (by decide) hmem

/-- A line prefix is cut in one way only. -/
theorem eq_of_chars_eq {split other : ValueSplit} (h : split.chars = other.chars) :
    split = other := by
  rw [chars_eq, chars_eq] at h
  -- From the end: what is typed, the parts around the colon, the name.
  obtain ⟨hbody, htyped⟩ := Text.run_unique split.reading.stopsAt_isValueChar
    split.isValueChar_typed other.reading.stopsAt_isValueChar other.isValueChar_typed h
  obtain ⟨hbefore, hgap, hinner⟩ := colonParts_unique
    (stopsAt_isBlank_append split.name_ne_nil split.isNameChar_name)
    (stopsAt_isBlank_append other.name_ne_nil other.isNameChar_name)
    split.isBlank_gap other.isBlank_gap split.isBlank_inner other.isBlank_inner hbody
  obtain ⟨hfront, hname⟩ := Text.run_unique split.stopsAt_front split.isNameChar_name
    other.stopsAt_front other.isNameChar_name hbefore
  exact ValueSplit.ext hfront hname hgap hinner htyped

/-- The pattern for values fits from no place before the name of the split. -/
theorem length_front_le (split : ValueSplit) {start : Nat} {kind : ContextKind}
    (h : ContextPattern.value.Reading split.chars start kind) : split.front.length ≤ start := by
  rw [chars_eq] at h
  generalize hcs : split.body ++ split.typed = cs at h
  cases h with
  | @value body front name typed hassignment htyped =>
      obtain ⟨hbody, -⟩ := Text.run_unique split.reading.stopsAt_isValueChar
        split.isValueChar_typed hassignment.stopsAt_isValueChar htyped hcs
      rw [← hbody] at hassignment
      exact split.reading.length_le_of_stopsAt split.stopsAt_front hassignment

end ValueSplit

/-- The property of a value is the name of the only split. -/
theorem valueProperty?_eq_some_iff_split {cs name : List Char} :
    valueProperty? cs = some name ↔ ∃ split : ValueSplit, split.chars = cs ∧ split.name = name := by
  rw [valueProperty?_eq_some_iff]
  constructor
  · rintro ⟨body, typed, rfl, ⟨front, hreading, hfront⟩, htyped⟩
    cases hreading with
    | @intro _ _ gap inner hname hletters hgap hinner =>
        refine ⟨⟨front, name, gap, inner, typed, hfront, hname, hletters, hgap, hinner, htyped⟩,
          ?_, rfl⟩
        simp [ValueSplit.chars]
  · rintro ⟨split, rfl, rfl⟩
    exact ⟨split.body, split.typed, split.chars_eq,
      ⟨split.front, split.reading, split.stopsAt_front⟩, split.isValueChar_typed⟩

/-- No pattern but the one for values tells a property value. -/
theorem contextKind?_eq_propertyValue_iff {cs : List Char} {property : String} :
    contextKind? cs = some (.propertyValue property) ↔
      ∃ name, valueProperty? cs = some name ∧ String.ofList name = property := by
  constructor
  · intro h
    rw [contextKind?_eq_find?_told] at h
    cases htold : ContextPattern.told cs with
    | value =>
        rw [htold, ContextPattern.find?, Option.map_eq_some_iff] at h
        obtain ⟨name, hname, hkind⟩ := h
        exact ⟨name, hname, ContextKind.propertyValue.inj hkind⟩
    | name => simp [htold, ContextPattern.find?] at h
    | selector => simp [htold, ContextPattern.find?] at h
    | tag => simp [htold, ContextPattern.find?] at h
  · rintro ⟨name, hname, rfl⟩
    rw [contextKind?, hname]

theorem map_kind_classify (linePrefix : String) (word : Option String) :
    (classify linePrefix word).map Context.kind = contextKind? linePrefix.toList := by
  rw [classify]
  cases contextKind? linePrefix.toList <;> rfl

/-- A property value is being typed exactly where the line prefix has a split, and the property is
the name of the split.  There is one split at most: its colon is the last one, and the pattern for
values fits from no earlier place. -/
theorem classify_propertyValue_iff_split (linePrefix : String) (word : Option String) :
    (∀ property, (classify linePrefix word).map Context.kind = some (.propertyValue property) ↔
      ∃ split : ValueSplit,
        split.chars = linePrefix.toList ∧ String.ofList split.name = property) ∧
    ∀ split : ValueSplit, split.chars = linePrefix.toList →
      (∀ other : ValueSplit, other.chars = linePrefix.toList → other = split) ∧
      ':' ∉ split.inner ++ split.typed ∧
      ∀ start kind, ContextPattern.value.Reading linePrefix.toList start kind →
        split.front.length ≤ start := by
  constructor
  · intro property
    rw [map_kind_classify, contextKind?_eq_propertyValue_iff]
    constructor
    · rintro ⟨name, hname, rfl⟩
      obtain ⟨split, hchars, rfl⟩ := valueProperty?_eq_some_iff_split.mp hname
      exact ⟨split, hchars, rfl⟩
    · rintro ⟨split, hchars, rfl⟩
      exact ⟨split.name, valueProperty?_eq_some_iff_split.mpr ⟨split, hchars, rfl⟩, rfl⟩
  · intro split hchars
    refine ⟨fun other hother => ?_, split.colon_notMem, fun start kind hreading => ?_⟩
    · exact ValueSplit.eq_of_chars_eq (hother.trans hchars.symm)
    · rw [← hchars] at hreading
      exact split.length_front_le hreading

/-- The last of three properties on a line, inside a block and behind another name. -/
theorem classify_behind_two_properties :
    (classify "font: \x7b size: 9, big fontWeight :\t'b" none).map Context.kind =
      some (.propertyValue "fontWeight") ∧
    ∃ split : ValueSplit,
      split.chars = "font: \x7b size: 9, big fontWeight :\t'b".toList ∧
      String.ofList split.name = "fontWeight" ∧
      ':' ∉ split.inner ++ split.typed ∧
      ∀ other : ValueSplit,
        other.chars = "font: \x7b size: 9, big fontWeight :\t'b".toList → other = split := by
  have hkind : (classify "font: \x7b size: 9, big fontWeight :\t'b" none).map Context.kind =
      some (.propertyValue "fontWeight") := by decide
  obtain ⟨hiff, hsplit⟩ :=
    classify_propertyValue_iff_split "font: \x7b size: 9, big fontWeight :\t'b" none
  obtain ⟨split, hchars, hname⟩ := (hiff "fontWeight").mp hkind
  obtain ⟨hunique, hcolon, -⟩ := hsplit split hchars
  exact ⟨hkind, split, hchars, hname, hcolon, hunique⟩

end StyleCompletion
