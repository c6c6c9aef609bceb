/-
The text before a cursor and the word that the cursor touches.

A column may be past the end of its line or inside a character.  Stepping back byte by byte ends at
a character, and what stands before it is the longest start of the line that fits in the column.
Around that place there is exactly one run of word characters that cannot be made longer, perhaps
an empty one, and that run is the word.
-/
import StyleCompletion.Proofs.Document.Offsets

namespace StyleCompletion

namespace Text

variable {cs front word rest before after : List Char} {n : Nat}

/-! ## Stepping back over the bytes of a text -/

/-- The last place of a character at or before byte `n`, found by stepping back.  The test for it
looks at one byte, and there is no step back from the first one. -/
def stepBack? (text : String) : Nat → Option Nat
  | 0 => if String.Pos.Raw.isValid text ⟨0⟩ then some 0 else none
  | n + 1 => if String.Pos.Raw.isValid text ⟨n + 1⟩ then some (n + 1) else stepBack? text n

/-- The test of a byte tells where a text can be cut. -/
theorem isValid_iff_isSome_split {text : String} :
    String.Pos.Raw.isValid text ⟨n⟩ = true ↔ (splitAtByte? n text.toList).isSome = true := by
  rw [String.Pos.Raw.isValid_eq_true_iff, isValid_iff_exists_split, Option.isSome_iff_exists,
    Prod.exists]

/-- Stepping back never goes below the first byte, and ends where a cut at byte `n` ends. -/
theorem stepBack?_eq (text : String) (n : Nat) :
    stepBack? text n = some (byteLength (takeBytes n text.toList)) := by
  rw [← boundaryUpTo_eq]
  induction n with
  | zero =>
      have hstart : (splitAtByte? 0 text.toList).isSome = true :=
        Option.isSome_iff_exists.mpr ⟨([], _), splitAtByte?_eq_some_iff.mpr ⟨rfl, rfl⟩⟩
      rw [stepBack?, if_pos (isValid_iff_isSome_split.mpr hstart), boundaryUpTo]
  | succ n ih =>
      simp only [stepBack?, boundaryUpTo, isValid_iff_isSome_split, ih]
      split <;> rfl

/-- A cut takes every start of the text that fits. -/
theorem isPrefix_takeBytes (hfront : front <+: cs) (hfits : byteLength front ≤ n) :
    front <+: takeBytes n cs := by
  obtain ⟨rest, rfl⟩ := hfront
  obtain ⟨more, rfl⟩ := Nat.exists_eq_add_of_le hfits
  rw [takeBytes_add_append]
  exact List.prefix_append ..

/-! ## Runs around a place -/

/-- `front`, `word` and `rest` are the parts of a text before, in and after a run of a class of
characters that can be made longer on neither side, and byte `n` is in the run or at one of its
ends. -/
structure IsRunAround (p : Char → Bool) (cs : List Char) (n : Nat) (front word rest : List Char) :
    Prop where
  text_eq : cs = front ++ (word ++ rest)
  start_le : byteLength front ≤ n
  le_stop : n ≤ byteLength front + byteLength word
  inside : ∀ c ∈ word, p c = true
  before : ∀ c, front.getLast? = some c → p c = false
  behind : ∀ c, rest.head? = some c → p c = false

/-- A part of a text that holds a place is cut in two there. -/
theorem exists_split_at_place (h : before ++ after = front ++ (word ++ rest))
    (hstart : byteLength front ≤ byteLength before)
    (hstop : byteLength before ≤ byteLength front + byteLength word) :
    ∃ left right, word = left ++ right ∧ before = front ++ left ∧ after = right ++ rest := by
  -- The front goes up to the place at most,
  obtain ⟨left, rfl⟩ : front <+: before := by
    have htake := isPrefix_takeBytes (List.prefix_append front (word ++ rest)) hstart
    rwa [← h, takeBytes_byteLength_append] at htake
  rw [List.append_assoc, List.append_cancel_left_eq] at h
  rw [byteLength_append] at hstop
  -- and the word goes up to it at least.
  obtain ⟨right, rfl⟩ : left <+: word := by
    have htake := isPrefix_takeBytes (List.prefix_append left after)
      (Nat.le_of_add_le_add_left hstop)
    rwa [h, takeBytes_byteLength_append] at htake
  rw [List.append_assoc, List.append_cancel_left_eq] at h
  exact ⟨left, right, rfl, rfl, h⟩

/-- A run that starts a text is taken up to its end. -/
theorem takeWhile_run_append {p : Char → Bool} {run : List Char} (hrun : ∀ c ∈ run, p c = true)
    (hrest : ∀ c, rest.head? = some c → p c = false) :
    (run ++ rest).takeWhile p = run ∧ (run ++ rest).dropWhile p = rest := by
  rw [List.takeWhile_append_of_pos hrun, List.dropWhile_append_of_pos hrun]
  cases rest with
  | nil => simp
  | cons c rest => simp [hrest c rfl]

theorem takeWhile_eq_nil_iff {p : Char → Bool} :
    cs.takeWhile p = [] ↔ ∀ c, cs.head? = some c → p c = false := by
  cases cs with
  | nil => simp
  | cons c cs => simp [List.takeWhile_cons]

/-- The run around a place is made of the run that ends there and the one that starts there. -/
theorem isRunAround_iff {p : Char → Bool} :
    IsRunAround p (before ++ after) (byteLength before) front word rest ↔
      front = (before.reverse.dropWhile p).reverse ∧
      word = (before.reverse.takeWhile p).reverse ++ after.takeWhile p ∧
      rest = after.dropWhile p := by
  constructor
  · intro h
    obtain ⟨left, right, rfl, rfl, rfl⟩ := exists_split_at_place h.text_eq h.start_le h.le_stop
    have hleft : ∀ c ∈ left, p c = true := fun c hc => h.inside c (List.mem_append_left _ hc)
    have hright : ∀ c ∈ right, p c = true := fun c hc => h.inside c (List.mem_append_right _ hc)
    obtain ⟨htake, hdrop⟩ := takeWhile_run_append hright h.behind
    rw [takeWhile_reverse_run h.before hleft, dropWhile_reverse_run h.before hleft, htake, hdrop,
      List.reverse_reverse, List.reverse_reverse]
    exact ⟨rfl, rfl, rfl⟩
  · rintro ⟨rfl, rfl, rfl⟩
    obtain ⟨front, left, rfl, hfront, hleft⟩ := exists_run_at_end p before
    rw [takeWhile_reverse_run hfront hleft, dropWhile_reverse_run hfront hleft,
      List.reverse_reverse, List.reverse_reverse]
    refine ⟨?_, ?_, ?_, fun c hc => ?_, hfront, fun c hc => ?_⟩
    · rw [List.append_assoc, List.append_assoc, List.takeWhile_append_dropWhile]
    · rw [byteLength_append]
      omega
    · rw [byteLength_append, byteLength_append]
      omega
    · rcases List.mem_append.mp hc with hc | hc
      · exact hleft c hc
      · exact List.all_eq_true.mp List.all_takeWhile c hc
    · have hhead := List.head?_dropWhile_not p after
      rw [hc] at hhead
      simpa using hhead

end Text

/-! ## The word at a cursor -/

namespace CursorLine

variable {cursor : CursorLine}

/-- Exactly one run of word characters around the cursor cannot be made longer.  It is the word,
unless it is empty. -/
theorem word?_eq_unique_run (cursor : CursorLine) :
    ∃ front word rest,
      Text.IsRunAround Text.isCursorChar (cursor.before ++ cursor.after)
        (Text.byteLength cursor.before) front word rest ∧
      (∀ front' word' rest', Text.IsRunAround Text.isCursorChar (cursor.before ++ cursor.after)
        (Text.byteLength cursor.before) front' word' rest' →
          front' = front ∧ word' = word ∧ rest' = rest) ∧
      cursor.word? = if word = [] then none else some word := by
  refine ⟨_, _, _, Text.isRunAround_iff.mpr ⟨rfl, rfl, rfl⟩,
    fun front' word' rest' h => Text.isRunAround_iff.mp h, ?_⟩
  rw [word?, wordBefore, wordAfter]
  split
  · next hnil => rw [if_pos hnil]
  · next hnil => rw [if_neg hnil]

/-- The cursor touches no word exactly if no word character stands on either side of it. -/
theorem word?_eq_none_iff :
    cursor.word? = none ↔
      (∀ c, cursor.before.getLast? = some c → Text.isCursorChar c = false) ∧
        ∀ c, cursor.after.head? = some c → Text.isCursorChar c = false := by
  have hempty : cursor.word? = none ↔ cursor.wordBefore ++ cursor.wordAfter = [] := by
    rw [word?]
    split
    · next hnil => simp [hnil]
    · next hnil => simpa using hnil
  rw [hempty, List.append_eq_nil_iff, wordBefore, wordAfter, List.reverse_eq_nil_iff,
    Text.takeWhile_eq_nil_iff, Text.takeWhile_eq_nil_iff, List.head?_reverse]

/-- The text before a cursor is the longest start of its line that fits in the column.  It is found
by stepping back from the column, which never goes below the first byte, and the word at its end by
slices that never fail.  Around that place there is exactly one run of word characters that cannot
be made longer, which is the word, and there is no word exactly if neither neighbour of the cursor
is a word character. -/
theorem ofColumn_longest_and_word_maximal (line : String) (column : Nat) :
    ∃ before after, ofColumn line.toList column = ⟨before, after⟩ ∧
      line.toList = before ++ after ∧ Text.byteLength before ≤ column ∧
      (∀ front, front <+: line.toList → Text.byteLength front ≤ column → front <+: before) ∧
      Text.stepBack? line (min column (Text.size line)) = some (Text.byteLength before) ∧
      slicedWord? line.toList (Text.byteLength before) = some (word? ⟨before, after⟩) ∧
      (∃ front word rest,
        Text.IsRunAround Text.isCursorChar line.toList (Text.byteLength before) front word rest ∧
        (∀ front' word' rest', Text.IsRunAround Text.isCursorChar line.toList
          (Text.byteLength before) front' word' rest' →
            front' = front ∧ word' = word ∧ rest' = rest) ∧
        word? ⟨before, after⟩ = if word = [] then none else some word) ∧
      (word? ⟨before, after⟩ = none ↔
        (∀ c, before.getLast? = some c → Text.isCursorChar c = false) ∧
          ∀ c, after.head? = some c → Text.isCursorChar c = false) := by
  have hline := Text.takeBytes_append_dropBytes column line.toList
  refine ⟨_, _, rfl, hline.symm, Text.byteLength_takeBytes_le column line.toList,
    fun front => Text.isPrefix_takeBytes, ?_, ?_, ?_, word?_eq_none_iff⟩
  · rw [Text.stepBack?_eq, Text.size, Text.takeBytes_min_byteLength]
  · have hword := slicedWord?_byteLength (ofColumn line.toList column)
    rwa [ofColumn, hline] at hword
  · have hrun := word?_eq_unique_run (ofColumn line.toList column)
    rwa [ofColumn, hline] at hrun

-- Column 5 is inside the second letter of the word.
example :
    ofColumn "· wörd_9: ".toList 5 = ⟨"· w".toList, "örd_9: ".toList⟩ ∧
      word? ⟨"· w".toList, "örd_9: ".toList⟩ = some "wörd_9".toList := by decide

end CursorLine

end StyleCompletion
