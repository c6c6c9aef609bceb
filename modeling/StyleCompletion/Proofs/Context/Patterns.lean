/-
The four patterns for what is being typed.

Each pattern describes the end of a line prefix, and three of them the whole of it.  Here the
patterns are stated as forms of a text, apart from the functions that look for them.  A text that
fits a pattern tells which one: with a colon it can only be a value, and without one its first two
characters decide.  So no text fits two of them, and the order in which they are tried does not
matter.
-/
import StyleCompletion.Proofs.Context.Assignment

namespace StyleCompletion

/-! ## The patterns -/

/-- The patterns for the end of a line prefix. -/
inductive ContextPattern where
  | value
  | name
  | selector
  | tag
deriving DecidableEq, Repr

/-- The mark that a selector of this kind starts with. -/
def SelectorKind.mark : SelectorKind → Char
  | .byClass => '.'
  | .byId => '#'

namespace ContextPattern

/-- The text `cs` fits the pattern from its character number `start` to its end, and what is
typed there is `kind`. -/
inductive Reading : ContextPattern → List Char → Nat → ContextKind → Prop where
  | value {body front name typed : List Char}
      (hassignment : AssignmentReading body front name)
      (htyped : ∀ c ∈ typed, isValueChar c = true) :
      Reading .value (body ++ typed) front.length (.propertyValue (String.ofList name))
  | name {blanks name : List Char}
      (hblanks : ∀ c ∈ blanks, Text.isBlank c = true)
      (hletters : ∀ c ∈ name, Text.isNameChar c = true) :
      Reading .name (blanks ++ name) 0 .propertyName
  | selector {quote : Char} {kind : SelectorKind} {name : List Char}
      (hquote : isQuote quote = true)
      (hletters : ∀ c ∈ name, Text.isNameChar c = true) :
      Reading .selector (quote :: kind.mark :: name) 0 (.classOrId kind)
  | tag {quote : Char} {name : List Char}
      (hquote : isQuote quote = true)
      (hletters : ∀ c ∈ name, Text.isNameChar c = true) :
      Reading .tag (quote :: name) 0 .tag

/-- The text fits the pattern. -/
def Accepts (pattern : ContextPattern) (cs : List Char) : Prop :=
  ∃ start kind, pattern.Reading cs start kind

/-- The text fits the pattern, and where it fits from several starts the first one tells what is
typed. -/
def Finds (pattern : ContextPattern) (cs : List Char) (kind : ContextKind) : Prop :=
  ∃ start, pattern.Reading cs start kind ∧
    ∀ other otherKind, pattern.Reading cs other otherKind → start ≤ other

/-- What is found by looking for the pattern. -/
def find? (cs : List Char) : ContextPattern → Option ContextKind
  | value => (valueProperty? cs).map fun property => .propertyValue (String.ofList property)
  | name => if isPropertyName cs then some .propertyName else none
  | selector => (selectorKind? cs).map .classOrId
  | tag => if isTag cs then some .tag else none

/-- The patterns in the order in which they are tried. -/
def inOrder : List ContextPattern := [value, name, selector, tag]

end ContextPattern

theorem contextKind?_eq_findSome? (cs : List Char) :
    contextKind? cs = ContextPattern.inOrder.findSome? (ContextPattern.find? cs) := by
  simp only [contextKind?, ContextPattern.inOrder, List.findSome?_cons, List.findSome?_nil,
    ContextPattern.find?]
  cases valueProperty? cs with
  | some property => rfl
  | none =>
      cases isPropertyName cs with
      | true => rfl
      | false =>
          cases selectorKind? cs with
          | some selector => rfl
          | none => cases isTag cs <;> rfl

/-! ## What a pattern finds -/

theorem isPropertyName_iff {cs : List Char} :
    isPropertyName cs = true ↔ ContextPattern.Reading .name cs 0 .propertyName := by
  constructor
  · intro h
    have hblanks : ∀ c ∈ cs.takeWhile Text.isBlank, Text.isBlank c = true :=
      List.all_eq_true.mp List.all_takeWhile
    have hreading := ContextPattern.Reading.name hblanks (List.all_eq_true.mp h)
    rwa [Text.trimLeft, List.takeWhile_append_dropWhile] at hreading
  · intro h
    cases h with
    | @name blanks letters hblanks hletters =>
        rw [isPropertyName, Text.trimLeft_append_of_isBlank hblanks, List.all_eq_true]
        intro c hc
        exact hletters c (List.dropWhile_subset _ hc)

theorem isTag_iff {cs : List Char} :
    isTag cs = true ↔ ContextPattern.Reading .tag cs 0 .tag := by
  constructor
  · intro h
    cases cs with
    | nil => exact absurd h (by simp [isTag])
    | cons quote letters =>
        rw [isTag, Bool.and_eq_true, List.all_eq_true] at h
        exact .tag h.1 h.2
  · intro h
    cases h with
    | tag hquote hletters =>
        rw [isTag, hquote, List.all_eq_true.mpr hletters]
        rfl

theorem selectorKind?_eq_some_iff {cs : List Char} {kind : SelectorKind} :
    selectorKind? cs = some kind ↔ ContextPattern.Reading .selector cs 0 (.classOrId kind) := by
  constructor
  · intro h
    unfold selectorKind? at h
    split at h
    · next quote mark letters =>
        rw [Option.ite_none_right_eq_some, Bool.and_eq_true, List.all_eq_true] at h
        obtain ⟨⟨hquote, hletters⟩, hmark⟩ := h
        have hkind : mark = kind.mark := by
          split at hmark
          · next hdot => rw [hdot, ← Option.some.inj hmark, SelectorKind.mark]
          · split at hmark
            · next hhash => rw [hhash, ← Option.some.inj hmark, SelectorKind.mark]
            · exact absurd hmark (by simp)
        rw [hkind]
        exact .selector hquote hletters
    · exact absurd h (by simp)
  · intro h
    cases h with
    | selector hquote hletters =>
        have hall := List.all_eq_true.mpr hletters
        cases kind <;> simp [selectorKind?, SelectorKind.mark, hquote, hall]

namespace ContextPattern

variable {pattern : ContextPattern} {cs : List Char} {start : Nat} {kind : ContextKind}

/-- All patterns but the one for values are about the whole text. -/
theorem Reading.start_eq_zero (h : pattern.Reading cs start kind)
    (hpattern : pattern ≠ .value) : start = 0 := by
  cases h with
  | value _ _ => exact absurd rfl hpattern
  | name _ _ => rfl
  | selector _ _ => rfl
  | tag _ _ => rfl

theorem finds_iff_reading (hpattern : pattern ≠ value) :
    pattern.Finds cs kind ↔ pattern.Reading cs 0 kind := by
  constructor
  · rintro ⟨start, hreading, -⟩
    rwa [hreading.start_eq_zero hpattern] at hreading
  · intro hreading
    exact ⟨0, hreading, fun other _ _ => Nat.zero_le other⟩

/-- Of the readings as a value the one with the whole name starts first. -/
theorem finds_value_iff {kind : ContextKind} :
    value.Finds cs kind ↔
      ∃ name, valueProperty? cs = some name ∧ kind = .propertyValue (String.ofList name) := by
  constructor
  · rintro ⟨start, hreading, hfirst⟩
    cases hreading with
    | @value body front name typed hassignment htyped =>
        obtain ⟨whole, wholeName, hwidest, hwhole, hle⟩ := hassignment.exists_whole
        have hge := hfirst _ _ (.value hwidest htyped)
        -- The name ends at one place, so the two readings start at one place as well.
        obtain ⟨rfl, rfl⟩ := List.append_inj (hassignment.append_eq_append hwidest) (by omega)
        refine ⟨name, ?_, rfl⟩
        exact valueProperty?_eq_some_iff.mpr ⟨body, typed, rfl, ⟨front, hwidest, hwhole⟩, htyped⟩
  · rintro ⟨name, hfound, rfl⟩
    obtain ⟨body, typed, rfl, ⟨front, hassignment, hfront⟩, htyped⟩ :=
      valueProperty?_eq_some_iff.mp hfound
    refine ⟨front.length, .value hassignment htyped, ?_⟩
    intro other otherKind hother
    generalize hcs : body ++ typed = cs at hother
    cases hother with
    | @value body' front' name' typed' hassignment' htyped' =>
        obtain ⟨rfl, -⟩ := Text.run_unique hassignment.stopsAt_isValueChar htyped
          hassignment'.stopsAt_isValueChar htyped' hcs
        exact hassignment.length_le_of_stopsAt hfront hassignment'

/-- Looking for a pattern finds what the pattern tells. -/
theorem find?_eq_some_iff : find? cs pattern = some kind ↔ pattern.Finds cs kind := by
  cases pattern with
  | value =>
      rw [finds_value_iff, find?, Option.map_eq_some_iff]
      constructor
      · rintro ⟨name, hfound, rfl⟩
        exact ⟨name, hfound, rfl⟩
      · rintro ⟨name, hfound, rfl⟩
        exact ⟨name, hfound, rfl⟩
  | name =>
      rw [finds_iff_reading (by decide), find?, Option.ite_none_right_eq_some, Option.some.injEq]
      constructor
      · rintro ⟨hname, rfl⟩
        exact isPropertyName_iff.mp hname
      · intro hreading
        cases hreading with
        | name hblanks hletters => exact ⟨isPropertyName_iff.mpr (.name hblanks hletters), rfl⟩
  | selector =>
      rw [finds_iff_reading (by decide), find?, Option.map_eq_some_iff]
      constructor
      · rintro ⟨selector, hfound, rfl⟩
        exact selectorKind?_eq_some_iff.mp hfound
      · intro hreading
        cases hreading with
        | @selector quote selector name hquote hletters =>
            exact ⟨selector, selectorKind?_eq_some_iff.mpr (.selector hquote hletters), rfl⟩
  | tag =>
      rw [finds_iff_reading (by decide), find?, Option.ite_none_right_eq_some, Option.some.injEq]
      constructor
      · rintro ⟨htag, rfl⟩
        exact isTag_iff.mp htag
      · intro hreading
        cases hreading with
        | tag hquote hletters => exact ⟨isTag_iff.mpr (.tag hquote hletters), rfl⟩

/-- A text that fits a pattern at all has a first place where it does. -/
theorem Accepts.exists_finds (h : pattern.Accepts cs) : ∃ kind, pattern.Finds cs kind := by
  obtain ⟨start, kind, hreading⟩ := h
  by_cases hvalue : pattern = value
  · subst hvalue
    cases hreading with
    | @value body front name typed hassignment htyped =>
        obtain ⟨whole, wholeName, hwidest, hwhole, -⟩ := hassignment.exists_whole
        have hfound := valueProperty?_eq_some_iff.mpr
          ⟨body, typed, rfl, ⟨whole, hwidest, hwhole⟩, htyped⟩
        exact ⟨_, finds_value_iff.mpr ⟨wholeName, hfound, rfl⟩⟩
  · rw [hreading.start_eq_zero hvalue] at hreading
    exact ⟨kind, (finds_iff_reading hvalue).mpr hreading⟩

theorem accepts_iff_exists_finds : pattern.Accepts cs ↔ ∃ kind, pattern.Finds cs kind := by
  constructor
  · exact Accepts.exists_finds
  · rintro ⟨kind, start, hreading, -⟩
    exact ⟨start, kind, hreading⟩

/-! ## At most one pattern -/

/-- The pattern that the first two characters tell: a text that starts with a quote is a selector
if a mark follows, and a tag otherwise. -/
def toldByStart : List Char → ContextPattern
  | [] => name
  | quote :: rest =>
      if isQuote quote then
        if rest.head? = some '.' ∨ rest.head? = some '#' then selector else tag
      else name

/-- The only pattern that the text can fit.  A colon stands in values alone. -/
def told (cs : List Char) : ContextPattern := if ':' ∈ cs then value else toldByStart cs

/-- A text that fits a pattern tells which one it is. -/
theorem Reading.eq_told (h : pattern.Reading cs start kind) : pattern = told cs := by
  cases h with
  | value hassignment _ =>
      rw [told, if_pos (List.mem_append_left _ hassignment.colon_mem)]
  | @name blanks letters hblanks hletters =>
      have hcolon : ':' ∉ blanks ++ letters := by
        rw [List.mem_append]
        rintro (hmem | hmem)
        · exact Text.notMem_of_forall hblanks (by decide) hmem
        · exact Text.notMem_of_forall hletters (by decide) hmem
      rw [told, if_neg hcolon]
      cases hstart : blanks ++ letters with
      | nil => rfl
      | cons quote rest =>
          -- Neither a blank nor a letter is a quote.
          have hmem : quote ∈ blanks ++ letters := by rw [hstart]; exact List.mem_cons_self
          rw [toldByStart, if_neg]
          intro hquote
          rcases List.mem_append.mp hmem with hmem | hmem
          · exact Text.notMem_of_forall hblanks (isBlank_of_isQuote hquote) hmem
          · exact Text.notMem_of_forall hletters (isNameChar_of_isQuote hquote) hmem
  | @selector quote selector letters hquote hletters =>
      have hmark : selector.mark = '.' ∨ selector.mark = '#' := by cases selector <;> decide
      have hcolon : ':' ∉ quote :: selector.mark :: letters := by
        have hne : ':' ≠ selector.mark := by cases selector <;> decide
        have hrest : ':' ∉ letters := Text.notMem_of_forall hletters (by decide)
        simp [ne_colon_of_isQuote hquote, hne, hrest]
      rw [told, if_neg hcolon, toldByStart, if_pos hquote, if_pos]
      rwa [List.head?_cons, Option.some.injEq, Option.some.injEq]
  | @tag quote letters hquote hletters =>
      have hcolon : ':' ∉ quote :: letters := by
        have hrest : ':' ∉ letters := Text.notMem_of_forall hletters (by decide)
        simp [ne_colon_of_isQuote hquote, hrest]
      have hmark : ¬(letters.head? = some '.' ∨ letters.head? = some '#') := by
        rintro (hhead | hhead)
        · exact Text.notMem_of_forall hletters (by decide) (List.mem_of_head? hhead)
        · exact Text.notMem_of_forall hletters (by decide) (List.mem_of_head? hhead)
      rw [told, if_neg hcolon, toldByStart, if_pos hquote, if_neg hmark]

theorem Accepts.eq_told (h : pattern.Accepts cs) : pattern = told cs := by
  obtain ⟨start, kind, hreading⟩ := h
  exact hreading.eq_told

theorem find?_eq_none_of_ne_told (h : pattern ≠ told cs) : find? cs pattern = none := by
  rw [Option.eq_none_iff_forall_not_mem]
  intro kind hfound
  have haccepts := accepts_iff_exists_finds.mpr ⟨kind, find?_eq_some_iff.mp hfound⟩
  exact h haccepts.eq_told

/-- In whatever order the patterns are tried, the one that the text tells decides. -/
theorem findSome?_eq_find?_told {order : List ContextPattern} (h : told cs ∈ order) :
    order.findSome? (find? cs) = find? cs (told cs) := by
  induction order with
  | nil => exact absurd h (by simp)
  | cons pattern rest ih =>
      rw [List.findSome?_cons]
      by_cases htold : pattern = told cs
      · rw [htold]
        cases hfound : find? cs (told cs) with
        | some kind => rfl
        | none =>
            -- The pattern that could find something does not, and no other one can.
            rw [List.findSome?_eq_none_iff]
            intro other _
            by_cases hother : other = told cs
            · rw [hother, hfound]
            · exact find?_eq_none_of_ne_told hother
      · rw [find?_eq_none_of_ne_told htold]
        exact ih ((List.mem_cons.mp h).resolve_left (fun heq => htold heq.symm))

end ContextPattern

/-- The context is what the pattern finds that the text tells. -/
theorem contextKind?_eq_find?_told (cs : List Char) :
    contextKind? cs = ContextPattern.find? cs (ContextPattern.told cs) := by
  rw [contextKind?_eq_findSome?]
  apply ContextPattern.findSome?_eq_find?_told
  cases ContextPattern.told cs <;> decide

/-- A text that fits a pattern other than that of a value has the context that the pattern tells. -/
theorem contextKind?_of_reading {pattern : ContextPattern} {cs : List Char} {kind : ContextKind}
    (hpattern : pattern ≠ .value) (h : pattern.Reading cs 0 kind) :
    contextKind? cs = some kind := by
  rw [contextKind?_eq_find?_told, ← h.eq_told]
  exact ContextPattern.find?_eq_some_iff.mpr ((ContextPattern.finds_iff_reading hpattern).mpr h)

theorem contextKind?_of_colon_mem {cs : List Char} (h : ':' ∈ cs) :
    contextKind? cs =
      (valueProperty? cs).map fun property => .propertyValue (String.ofList property) := by
  rw [contextKind?_eq_find?_told, ContextPattern.told, if_pos h]
  rfl

/-- No text fits two of the four patterns.  So the context is the same in whatever order the
patterns are tried; it is what the one that fits finds, and there is none exactly when no pattern
fits. -/
theorem contextKind?_in_any_order (cs : List Char) :
    (∀ pattern other : ContextPattern,
      pattern.Accepts cs → other.Accepts cs → pattern = other) ∧
    (∀ order : List ContextPattern, (∀ pattern, pattern ∈ order) →
      order.findSome? (ContextPattern.find? cs) = contextKind? cs) ∧
    (∀ kind, contextKind? cs = some kind ↔ ∃ pattern : ContextPattern, pattern.Finds cs kind) ∧
    (contextKind? cs = none ↔ ∀ pattern : ContextPattern, ¬pattern.Accepts cs) := by
  have hsome (kind : ContextKind) :
      contextKind? cs = some kind ↔ ∃ pattern : ContextPattern, pattern.Finds cs kind := by
    rw [contextKind?_eq_find?_told, ContextPattern.find?_eq_some_iff]
    constructor
    · intro hfinds
      exact ⟨_, hfinds⟩
    · rintro ⟨pattern, hfinds⟩
      have htold := (ContextPattern.accepts_iff_exists_finds.mpr ⟨kind, hfinds⟩).eq_told
      rwa [← htold]
  refine ⟨?_, ?_, hsome, ?_⟩
  · intro pattern other hpattern hother
    exact hpattern.eq_told.trans hother.eq_told.symm
  · intro order horder
    rw [ContextPattern.findSome?_eq_find?_told (horder _), contextKind?_eq_find?_told]
  · rw [Option.eq_none_iff_forall_ne_some]
    constructor
    · intro hnone pattern haccepts
      obtain ⟨kind, hfinds⟩ := haccepts.exists_finds
      exact hnone kind ((hsome kind).mpr ⟨pattern, hfinds⟩)
    · intro hnone kind hkind
      obtain ⟨pattern, hfinds⟩ := (hsome kind).mp hkind
      exact hnone pattern (ContextPattern.accepts_iff_exists_finds.mpr ⟨kind, hfinds⟩)

/-- A value in a block, with the patterns tried the other way round. -/
theorem contextKind?_fontWeight_reversed :
    [.tag, .selector, .name, .value].findSome?
        (ContextPattern.find? "font: \x7b fontWeight : 'b".toList) =
      some (.propertyValue "fontWeight") ∧
    ∃ pattern : ContextPattern,
      pattern.Finds "font: \x7b fontWeight : 'b".toList (.propertyValue "fontWeight") ∧
      ∀ other : ContextPattern,
        other.Accepts "font: \x7b fontWeight : 'b".toList → other = pattern := by
  have hkind : contextKind? "font: \x7b fontWeight : 'b".toList =
      some (.propertyValue "fontWeight") := by decide
  obtain ⟨hunique, horder, hfinds, -⟩ :=
    contextKind?_in_any_order "font: \x7b fontWeight : 'b".toList
  refine ⟨?_, ?_⟩
  · rw [horder _ (by intro pattern; cases pattern <;> decide), hkind]
  · obtain ⟨pattern, hpattern⟩ := (hfinds _).mp hkind
    have haccepts := ContextPattern.accepts_iff_exists_finds.mpr ⟨_, hpattern⟩
    exact ⟨pattern, hpattern, fun other hother => hunique _ _ hother haccepts⟩

end StyleCompletion
