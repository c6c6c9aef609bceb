/-
Markup, line by line.

A value ends on the line on which it starts, and a line feed is a blank after which an attribute
may stand.  So an attribute never reaches over the end of a line, and a quote that is left open
on one line has no effect on the next: the values of a text are those of its lines.
-/
import StyleCompletion.Markup
import StyleCompletion.Proofs.Text.Distinct
import StyleCompletion.Proofs.Text.Search
import StyleCompletion.Proofs.Text.Words

namespace StyleCompletion

/-! ## One attribute -/

theorem dropStart?_eq_some_iff {start cs rest : List Char} :
    dropStart? start cs = some rest ↔ cs = start ++ rest := by
  rw [dropStart?, Option.ite_none_right_eq_some, List.isPrefixOf_iff_prefix, Option.some.injEq]
  constructor
  · rintro ⟨⟨after, rfl⟩, hdrop⟩
    rw [← hdrop, List.drop_left]
  · rintro rfl
    exact ⟨List.prefix_append start rest, List.drop_left⟩

theorem quotedValue?_append {value : List Char} (hquote : '"' ∉ value) (hfeed : '\n' ∉ value)
    (after : List Char) : quotedValue? (value ++ '"' :: after) = some (value, after) := by
  induction value with
  | nil => rfl
  | cons c value ih =>
      obtain ⟨hc, hquote⟩ := List.ne_and_not_mem_of_not_mem_cons hquote
      obtain ⟨hc', hfeed⟩ := List.ne_and_not_mem_of_not_mem_cons hfeed
      rw [List.cons_append, quotedValue?, if_neg hc.symm, if_neg hc'.symm, ih hquote hfeed]
      rfl

/-- A value goes to the first quote, and there is no line feed before it. -/
theorem quotedValue?_eq_some_iff {cs value after : List Char} :
    quotedValue? cs = some (value, after) ↔
      cs = value ++ '"' :: after ∧ '"' ∉ value ∧ '\n' ∉ value := by
  constructor
  · intro h
    induction cs generalizing value with
    | nil => exact absurd h (by simp [quotedValue?])
    | cons c rest ih =>
        rw [quotedValue?] at h
        split at h
        · next hc =>
            obtain ⟨rfl, rfl⟩ := Prod.mk.inj (Option.some.inj h)
            exact ⟨by rw [hc, List.nil_append], List.not_mem_nil, List.not_mem_nil⟩
        · next hc =>
            rw [Option.ite_none_left_eq_some, Option.map_eq_some_iff] at h
            obtain ⟨hfeed, ⟨value, last⟩, hrest, hpair⟩ := h
            obtain ⟨rfl, rfl⟩ := Prod.mk.inj hpair
            obtain ⟨hsplit, hquotes, hfeeds⟩ := ih hrest
            refine ⟨by rw [hsplit, List.cons_append], ?_, ?_⟩
            · exact List.not_mem_cons_of_ne_of_not_mem (Ne.symm hc) hquotes
            · exact List.not_mem_cons_of_ne_of_not_mem (Ne.symm hfeed) hfeeds
  · rintro ⟨rfl, hquote, hfeed⟩
    exact quotedValue?_append hquote hfeed after

theorem attributeValue?_eq_some_iff {name cs value after : List Char} :
    attributeValue? name cs = some (value, after) ↔
      cs = name ++ '=' :: '"' :: value ++ '"' :: after ∧ '"' ∉ value ∧ '\n' ∉ value := by
  simp only [attributeValue?, Option.bind_eq_some_iff, dropStart?_eq_some_iff,
    quotedValue?_eq_some_iff]
  constructor
  · rintro ⟨_, rfl, rfl, hvalue⟩
    exact ⟨by simp, hvalue⟩
  · rintro ⟨rfl, hvalue⟩
    exact ⟨_, by simp, rfl, hvalue⟩

/-- Whether an attribute starts a text, and with which value, is settled on its first line. -/
theorem attributeValue?_append_feed {name : List Char} (hname : '\n' ∉ name)
    (first second : List Char) :
    attributeValue? name (first ++ '\n' :: second) =
      (attributeValue? name first).map fun (value, after) => (value, after ++ '\n' :: second) := by
  apply Option.ext
  rintro ⟨value, after⟩
  simp only [Option.map_eq_some_iff, Prod.exists, Prod.mk.injEq, attributeValue?_eq_some_iff]
  constructor
  · rintro ⟨hsplit, hquote, hfeed⟩
    -- The attribute holds no line feed, so it ends before the one that ends the line.
    have hattribute : '\n' ∉ name ++ '=' :: '"' :: value ++ ['"'] := by simp [hname, hfeed]
    obtain ⟨between, rfl, rfl⟩ :=
      Text.exists_between_of_append_eq (by simpa using hsplit.symm) hattribute
    exact ⟨value, between, ⟨by simp, hquote, hfeed⟩, rfl, rfl⟩
  · rintro ⟨_, between, ⟨rfl, hquote, hfeed⟩, rfl, rfl⟩
    exact ⟨by simp, hquote, hfeed⟩

/-! ## All attributes -/

/-- Behind a blank, an attribute may stand at once. -/
theorem valuesAfterBlanks_cons_of_isBlank {name : List Char} {c : Char}
    (hc : Text.isBlank c = true) (rest : List Char) :
    valuesAfterBlanks name (c :: rest) = attributeValues name rest := by
  rw [valuesAfterBlanks, if_pos hc, attributeValues]
  split
  · next hvalue => rw [hvalue]
  · next hnone => rw [hnone]

theorem valuesAfterBlanks_cons_of_not_isBlank {name : List Char} {c : Char}
    (hc : Text.isBlank c = false) (rest : List Char) :
    valuesAfterBlanks name (c :: rest) = valuesAfterBlanks name rest := by
  rw [valuesAfterBlanks, if_neg (by simp [hc])]

theorem attributeValues_of_some {name cs value after : List Char}
    (h : attributeValue? name cs = some (value, after)) :
    attributeValues name cs = value :: valuesAfterBlanks name after := by
  rw [attributeValues, h]

theorem attributeValues_of_none {name cs : List Char} (h : attributeValue? name cs = none) :
    attributeValues name cs = valuesAfterBlanks name cs := by
  rw [attributeValues, h]

/-- What holds of the value of each attribute that starts some text holds of all values. -/
theorem forall_mem_attributeValues {name : List Char} {P : List Char → Prop}
    (h : ∀ cs value after, attributeValue? name cs = some (value, after) → P value)
    (cs : List Char) : ∀ value ∈ attributeValues name cs, P value := by
  have hafter (cs : List Char) : ∀ value ∈ valuesAfterBlanks name cs, P value := by
    fun_induction valuesAfterBlanks name cs with
    | case1 => simp
    | case2 c rest hc value after hvalue ih =>
        exact List.forall_mem_cons.mpr ⟨h rest value after hvalue, ih⟩
    | case3 c rest hc hnone ih => exact ih
    | case4 c rest hc ih => exact ih
  cases hstart : attributeValue? name cs with
  | none =>
      rw [attributeValues_of_none hstart]
      exact hafter cs
  | some pair =>
      rw [attributeValues_of_some hstart]
      exact List.forall_mem_cons.mpr ⟨h cs _ _ hstart, hafter _⟩

section

variable {name : List Char} (hname : '\n' ∉ name)

include hname

/-- The line feed itself is the blank before an attribute that starts the second line. -/
theorem valuesAfterBlanks_append_feed (first second : List Char) :
    valuesAfterBlanks name (first ++ '\n' :: second) =
      valuesAfterBlanks name first ++ attributeValues name second := by
  fun_induction valuesAfterBlanks name first with
  | case1 =>
      rw [List.nil_append, List.nil_append, valuesAfterBlanks_cons_of_isBlank (by decide)]
  | case2 c rest hc value after hvalue ih =>
      have hsame := attributeValue?_append_feed hname rest second
      rw [hvalue] at hsame
      rw [List.cons_append, valuesAfterBlanks_cons_of_isBlank hc, attributeValues_of_some hsame, ih,
        List.cons_append]
  | case3 c rest hc hnone ih =>
      have hsame := attributeValue?_append_feed hname rest second
      rw [hnone] at hsame
      rw [List.cons_append, valuesAfterBlanks_cons_of_isBlank hc, attributeValues_of_none hsame, ih]
  | case4 c rest hc ih =>
      rw [List.cons_append, valuesAfterBlanks_cons_of_not_isBlank (by simpa using hc), ih]

/-- The values of two texts, one below the other, are those of the first and those of the
second. -/
theorem attributeValues_append_feed (first second : List Char) :
    attributeValues name (first ++ '\n' :: second) =
      attributeValues name first ++ attributeValues name second := by
  have hsame := attributeValue?_append_feed hname first second
  cases hstart : attributeValue? name first with
  | none =>
      rw [hstart] at hsame
      rw [attributeValues_of_none hstart, attributeValues_of_none hsame,
        valuesAfterBlanks_append_feed hname]
  | some pair =>
      rw [hstart] at hsame
      rw [attributeValues_of_some hstart, attributeValues_of_some hsame,
        valuesAfterBlanks_append_feed hname, List.cons_append]

end

/-! ## Selectors -/

/-- The names of the attributes hold none of the characters that stand around names. -/
theorem SelectorKind.notMem_attribute {kind : SelectorKind} {c : Char}
    (hc : c ∈ [' ', '\n', '"', '=', '<']) : c ∉ kind.attribute.toList := by
  have hall : [' ', '\n', '"', '=', '<'].all (!kind.attribute.toList.contains ·) = true := by
    cases kind <;> decide
  simpa using List.all_eq_true.mp hall c hc

/-- Selectors come from the words of values, so they are not empty, and hold no blanks and no
quotes. -/
theorem of_mem_selectors {markup : String} {kind : SelectorKind} {token : String}
    (h : token ∈ selectors markup kind) :
    token ≠ "" ∧ ∀ c ∈ token.toList, Text.isBlank c = false ∧ c ≠ '"' := by
  simp only [selectors, Text.mem_distinct, List.mem_map, List.mem_flatMap] at h
  obtain ⟨word, ⟨value, hvalue, hword⟩, rfl⟩ := h
  obtain ⟨hne, hplain⟩ := Text.of_mem_words hword
  have hquote : '"' ∉ value := by
    refine forall_mem_attributeValues (P := fun value => '"' ∉ value) ?_ _ value hvalue
    intro cs value after hstart
    exact (attributeValue?_eq_some_iff.mp hstart).2.1
  refine ⟨?_, fun c hc => ?_⟩
  · intro hempty
    exact hne (by simpa using hempty)
  · rw [String.toList_ofList] at hc
    obtain ⟨hmem, hblank⟩ := hplain c hc
    exact ⟨hblank, fun heq => hquote (heq ▸ hmem)⟩

theorem selectors_append_feed (first second : String) (kind : SelectorKind) :
    selectors (first ++ "\n" ++ second) kind =
      selectors first kind ++
        (selectors second kind).filter fun token => token ∉ selectors first kind := by
  have hchars : (first ++ "\n" ++ second).toList = first.toList ++ '\n' :: second.toList := by
    simp
  simp only [selectors]
  rw [hchars, attributeValues_append_feed (SelectorKind.notMem_attribute (by simp)),
    List.flatMap_append, List.map_append, Text.distinct_append]
  rfl

/-- Selectors are found line by line: two texts, one below the other, declare the selectors of
the first and then those of the second that are new.  No selector comes twice, and each is a
word without blanks and quotes. -/
theorem selectors_line_by_line (kind : SelectorKind) :
    (∀ first second : String,
      selectors (first ++ "\n" ++ second) kind =
        selectors first kind ++
          (selectors second kind).filter fun token => token ∉ selectors first kind) ∧
    ∀ markup : String,
      (selectors markup kind).Nodup ∧
      ∀ token ∈ selectors markup kind,
        token ≠ "" ∧ ∀ c ∈ token.toList, Text.isBlank c = false ∧ c ≠ '"' := by
  refine ⟨fun first second => selectors_append_feed first second kind, fun markup => ⟨?_, ?_⟩⟩
  · exact Text.nodup_distinct _
  · intro token htoken
    exact of_mem_selectors htoken

end StyleCompletion
