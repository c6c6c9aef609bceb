/-
The name that is being typed, and the word before the cursor.

The patterns for a property name, a selector and a tag end in the name that is being typed.  The
candidates are filtered by the word under the cursor, and that is told by a narrower class of
characters: marks, connectors and joiners belong to names, but most of them to no word.  So the
part of the word before the cursor is the end of the name, from behind the last such character,
and it is the whole name exactly when the name has none.
-/
import StyleCompletion.Cursor
import StyleCompletion.Proofs.Context.Patterns

namespace StyleCompletion

/-! ## The two classes -/

namespace Text

/-- Characters of a name that are in no word under a cursor: marks, connectors and joiners that
are neither letters nor numbers nor `_`. -/
def isWordBreak (c : Char) : Bool :=
  (isMark c || covers connectorRanges c.toNat || isJoiner c) && !isCursorChar c

/-- A character of a name is in a word under a cursor unless it breaks words. -/
theorem isCursorChar_eq_not_isWordBreak {c : Char} (hc : isNameChar c = true) :
    isCursorChar c = !isWordBreak c := by
  cases hcursor : isCursorChar c with
  | true => simp [isWordBreak, hcursor]
  | false =>
      have hdigit : isDecimalDigit c = false := by
        simp only [isCursorChar, isNumeric, Bool.or_eq_false_iff] at hcursor
        exact hcursor.1.2.1
      have hletter : isAlphabetic c = false := by
        simp only [isCursorChar, Bool.or_eq_false_iff] at hcursor
        exact hcursor.1.1
      simp only [isNameChar, hletter, hdigit, Bool.false_or, Bool.or_false, Bool.and_eq_true] at hc
      simp [isWordBreak, hcursor, hc.1]

end Text

/-! ## The name -/

/-- The name that is being typed at the end of a text: the longest run of characters of a name
that ends it. -/
def typedName (cs : List Char) : List Char := (cs.reverse.takeWhile Text.isNameChar).reverse

/-- `cs` ends in the name `name`, and what stands before it is in no name and in no word. -/
inductive NameAtEnd : List Char → List Char → Prop where
  | intro {front name : List Char}
      (hfront : ∀ c ∈ front, Text.isNameChar c = false ∧ Text.isCursorChar c = false)
      (hname : ∀ c ∈ name, Text.isNameChar c = true) :
      NameAtEnd (front ++ name) name

theorem NameAtEnd.typedName_eq {cs name : List Char} (h : NameAtEnd cs name) :
    typedName cs = name := by
  cases h with
  | @intro front _ hfront hname =>
      have hstops : Text.StopsAt Text.isNameChar front :=
        fun c hc => (hfront c (List.mem_of_getLast? hc)).1
      rw [typedName, Text.takeWhile_reverse_run hstops hname, List.reverse_reverse]

theorem notInWords_of_isQuote {c : Char} (hc : isQuote c = true) :
    Text.isNameChar c = false ∧ Text.isCursorChar c = false := by
  rcases eq_or_eq_of_isQuote hc with rfl | rfl <;> decide

/-- In each pattern but the one for values a name follows blanks, or a quote and perhaps a mark. -/
theorem ContextPattern.Reading.exists_nameAtEnd {pattern : ContextPattern} {cs : List Char}
    {start : Nat} {kind : ContextKind} (h : pattern.Reading cs start kind)
    (hkind : ∀ property, kind ≠ .propertyValue property) : ∃ name, NameAtEnd cs name := by
  cases h with
  | value _ _ => exact absurd rfl (hkind _)
  | @name blanks name hblanks hname =>
      refine ⟨name, .intro (fun c hc => ?_) hname⟩
      exact ⟨Text.isNameChar_of_isBlank (hblanks c hc), Text.isCursorChar_of_isBlank (hblanks c hc)⟩
  | @selector quote selector name hquote hname =>
      have hmark : Text.isNameChar selector.mark = false ∧
          Text.isCursorChar selector.mark = false := by
        cases selector <;> decide
      refine ⟨name, @NameAtEnd.intro [quote, selector.mark] name ?_ hname⟩
      simp [notInWords_of_isQuote hquote, hmark]
  | @tag quote name hquote hname =>
      refine ⟨name, @NameAtEnd.intro [quote] name ?_ hname⟩
      simp [notInWords_of_isQuote hquote]

/-- What is found in a context fits one of the patterns. -/
theorem exists_reading_of_contextKind? {cs : List Char} {kind : ContextKind}
    (h : contextKind? cs = some kind) :
    ∃ (pattern : ContextPattern) (start : Nat), pattern.Reading cs start kind := by
  rw [contextKind?_eq_find?_told, ContextPattern.find?_eq_some_iff] at h
  obtain ⟨start, hreading, -⟩ := h
  exact ⟨_, start, hreading⟩

/-! ## The word -/

/-- The word that ends a text with a name at its end: the end of the name from behind its last
character that breaks words. -/
theorem NameAtEnd.exists_skipped {cs name : List Char} (h : NameAtEnd cs name) :
    ∃ skipped, name = skipped ++ (cs.reverse.takeWhile Text.isCursorChar).reverse ∧
      (∀ c, skipped.getLast? = some c → Text.isWordBreak c = true) ∧
      ∀ c ∈ (cs.reverse.takeWhile Text.isCursorChar).reverse, Text.isWordBreak c = false := by
  cases h with
  | @intro front _ hfront hname =>
      obtain ⟨skipped, word, rfl, hskipped, hword⟩ := Text.exists_run_at_end Text.isCursorChar name
      have hbreak (c : Char) (hc : c ∈ skipped ++ word) :
          Text.isCursorChar c = !Text.isWordBreak c :=
        Text.isCursorChar_eq_not_isWordBreak (hname c hc)
      -- The word goes no further back than the name: neither past a break nor into the front.
      have hstops : Text.StopsAt Text.isCursorChar (front ++ skipped) := by
        intro c hc
        rw [List.getLast?_append, Option.or_eq_some_iff] at hc
        rcases hc with hc | ⟨-, hc⟩
        · exact hskipped c hc
        · exact (hfront c (List.mem_of_getLast? hc)).2
      rw [← List.append_assoc, Text.takeWhile_reverse_run hstops hword, List.reverse_reverse]
      refine ⟨skipped, rfl, fun c hc => ?_, fun c hc => ?_⟩
      · have hcursor := hskipped c hc
        rw [hbreak c (List.mem_append_left _ (List.mem_of_getLast? hc))] at hcursor
        simpa using hcursor
      · have hcursor := hword c hc
        rw [hbreak c (List.mem_append_right _ hc)] at hcursor
        simpa using hcursor

namespace CursorLine

/-- Where a name is being typed, the part of the word before the cursor is the end of the name,
from behind its last character that breaks words.  So it is the name itself exactly when no
character of the name breaks words. -/
theorem wordBefore_eq_typedName_iff (line : List Char) (column : Nat) {kind : ContextKind}
    (hkind : contextKind? (ofColumn line column).before = some kind)
    (hname : ∀ property, kind ≠ .propertyValue property) :
    (∃ skipped, typedName (ofColumn line column).before =
        skipped ++ (ofColumn line column).wordBefore ∧
      (∀ c, skipped.getLast? = some c → Text.isWordBreak c = true) ∧
      ∀ c ∈ (ofColumn line column).wordBefore, Text.isWordBreak c = false) ∧
    ((ofColumn line column).wordBefore = typedName (ofColumn line column).before ↔
      ∀ c ∈ typedName (ofColumn line column).before, Text.isWordBreak c = false) := by
  obtain ⟨pattern, start, hreading⟩ := exists_reading_of_contextKind? hkind
  obtain ⟨name, hend⟩ := hreading.exists_nameAtEnd hname
  rw [hend.typedName_eq]
  obtain ⟨skipped, hsplit, hbreaks, hwhole⟩ := hend.exists_skipped
  refine ⟨⟨skipped, hsplit, hbreaks, hwhole⟩, ?_, ?_⟩
  · intro heq
    rwa [← heq]
  · intro hnone
    cases hlast : skipped.getLast? with
    | none =>
        rw [List.getLast?_eq_none_iff.mp hlast, List.nil_append] at hsplit
        exact hsplit.symm
    | some c =>
        -- A part that is skipped ends in a character of the name that breaks words.
        have hmem : c ∈ name := by
          rw [hsplit]
          exact List.mem_append_left _ (List.mem_of_getLast? hlast)
        have hc := hbreaks c hlast
        rw [hnone c hmem] at hc
        exact absurd hc (by simp)

/-- A connector in the name of a selector breaks the word; what stands behind it is the word
before the cursor. -/
theorem wordBefore_below_connector :
    contextKind? (ofColumn "'.side‿bar left".toList 12).before =
      some (.classOrId .byClass) ∧
    (∃ c ∈ typedName (ofColumn "'.side‿bar left".toList 12).before, Text.isWordBreak c = true) ∧
    (ofColumn "'.side‿bar left".toList 12).wordBefore = "bar".toList ∧
    (ofColumn "'.side‿bar left".toList 12).wordBefore ≠
      typedName (ofColumn "'.side‿bar left".toList 12).before := by
  have hkind : contextKind? (ofColumn "'.side‿bar left".toList 12).before =
      some (.classOrId .byClass) := by decide +kernel
  have hbreak : ∃ c ∈ typedName (ofColumn "'.side‿bar left".toList 12).before,
      Text.isWordBreak c = true := ⟨'‿', by decide +kernel, by decide +kernel⟩
  refine ⟨hkind, hbreak, by decide +kernel, ?_⟩
  rw [Ne, (wordBefore_eq_typedName_iff _ 12 hkind (by simp)).2]
  obtain ⟨c, hmem, hc⟩ := hbreak
  intro hnone
  rw [hnone c hmem] at hc
  exact absurd hc (by simp)

/-- The word before the cursor is not the name that is being typed in every context: behind an
accent that is written as a character of its own there is no word. -/
theorem not_forall_wordBefore_eq_typedName :
    ¬∀ (line : List Char) (column : Nat) (kind : ContextKind),
      contextKind? (ofColumn line column).before = some kind →
      (∀ property, kind ≠ .propertyValue property) →
      (ofColumn line column).wordBefore = typedName (ofColumn line column).before := by
  intro hall
  have hsame := hall "cafe\u0301".toList 6 .propertyName (by decide) (by simp)
  have hword : (ofColumn "cafe\u0301".toList 6).wordBefore = [] := by decide
  have hname : typedName (ofColumn "cafe\u0301".toList 6).before = "cafe\u0301".toList := by decide
  rw [hword, hname] at hsame
  exact absurd hsame (by decide)

end CursorLine

end StyleCompletion
