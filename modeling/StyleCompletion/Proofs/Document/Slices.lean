/-
Reading a document by offsets alone.

The parts of a text that a completion looks at can be named by two byte offsets each: where the
part starts and where it stops.  Such a slice exists only if both are offsets of characters and
stand in this order.  Here lines, the text before a cursor and the word under it are read by
slices that may fail, and none of them ever does.
-/
import StyleCompletion.Cursor
import StyleCompletion.Proofs.Document.Joined
import StyleCompletion.Proofs.Text.Runs

namespace StyleCompletion

/-! ## Slices of a text -/

namespace Text

variable {cs front part rest : List Char} {n start stop : Nat}

theorem splitAtByte?_eq_some_iff :
    splitAtByte? n cs = some (front, rest) ↔ cs = front ++ rest ∧ byteLength front = n := by
  rw [splitAtByte?, Option.ite_none_right_eq_some, Option.some.injEq, Prod.mk.injEq]
  constructor
  · rintro ⟨hlength, rfl, rfl⟩
    exact ⟨(takeBytes_append_dropBytes n cs).symm, hlength⟩
  · rintro ⟨rfl, rfl⟩
    simp

theorem byteLength_eq_utf8ByteSize (cs : List Char) :
    byteLength cs = (String.ofList cs).utf8ByteSize := by
  induction cs with
  | nil => rfl
  | cons c rest ih =>
      rw [byteLength_cons, ih, String.ofList_cons, String.utf8ByteSize_append,
        String.utf8ByteSize_singleton]

/-- A byte is a place between two characters, or one of the two ends, where a text can be cut. -/
theorem isValid_iff_exists_split {s : String} {n : Nat} :
    (String.Pos.Raw.mk n).IsValid s ↔
      ∃ front rest, splitAtByte? n s.toList = some (front, rest) := by
  simp only [String.Pos.Raw.isValid_iff_exists_append, splitAtByte?_eq_some_iff]
  constructor
  · rintro ⟨front, rest, rfl, hplace⟩
    have hn : n = front.utf8ByteSize := congrArg String.Pos.Raw.byteIdx hplace
    refine ⟨front.toList, rest.toList, String.toList_append, ?_⟩
    rw [hn, byteLength_eq_utf8ByteSize, String.ofList_toList]
  · rintro ⟨front, rest, hsplit, hn⟩
    refine ⟨String.ofList front, String.ofList rest, ?_, ?_⟩
    · rw [← String.ofList_append, ← hsplit, String.ofList_toList]
    · rw [← hn, byteLength_eq_utf8ByteSize]
      rfl

/-- The part of `cs` from byte `start` up to byte `stop`.  There is none if one of them is no
offset of a character, or if they are out of order. -/
def slice? (cs : List Char) (start stop : Nat) : Option (List Char) :=
  (splitAtByte? stop cs).bind fun (whole, _) => (splitAtByte? start whole).map Prod.snd

/-- A slice is a part of the text that starts and stops at the two offsets. -/
theorem slice?_eq_some_iff :
    slice? cs start stop = some part ↔ ∃ front rest, cs = front ++ (part ++ rest) ∧
      byteLength front = start ∧ byteLength front + byteLength part = stop := by
  simp only [slice?, Option.bind_eq_some_iff, Option.map_eq_some_iff, Prod.exists,
    splitAtByte?_eq_some_iff]
  constructor
  · rintro ⟨whole, rest, ⟨rfl, hstop⟩, front, part, ⟨rfl, hstart⟩, rfl⟩
    exact ⟨front, rest, List.append_assoc .., hstart, by rw [← hstop, byteLength_append]⟩
  · rintro ⟨front, rest, rfl, hstart, hstop⟩
    exact ⟨front ++ part, rest, ⟨(List.append_assoc ..).symm, by rw [← hstop, byteLength_append]⟩,
      front, part, ⟨rfl, hstart⟩, rfl⟩

/-- A slice from the start of a text. -/
theorem slice?_zero (front rest : List Char) :
    slice? (front ++ rest) 0 (byteLength front) = some front :=
  slice?_eq_some_iff.mpr ⟨[], rest, rfl, rfl, by simp⟩

/-- A slice up to the end of a text. -/
theorem slice?_byteLength (front rest : List Char) :
    slice? (front ++ rest) (byteLength front) (byteLength (front ++ rest)) = some rest :=
  slice?_eq_some_iff.mpr ⟨front, [], by simp, rfl, by simp⟩

/-! ## Stepping back to a character -/

/-- The last offset of a character at or before byte `n`, found by stepping back. -/
def boundaryUpTo (cs : List Char) : Nat → Nat
  | 0 => 0
  | n + 1 => if (splitAtByte? (n + 1) cs).isSome then n + 1 else boundaryUpTo cs n

/-- A cut takes the same text at all counts from its length up to the one asked for. -/
theorem takeBytes_eq_of_le {m n : Nat} (hm : byteLength (takeBytes n cs) ≤ m) (hn : m ≤ n) :
    takeBytes m cs = takeBytes n cs := by
  induction cs generalizing m n with
  | nil => rfl
  | cons c rest ih =>
      rw [takeBytes, takeBytes]
      rw [takeBytes] at hm
      by_cases hfits : c.utf8Size ≤ n
      · rw [if_pos hfits, byteLength_cons] at hm
        have hrest := ih (m := m - c.utf8Size) (n := n - c.utf8Size) (by omega) (by omega)
        rw [if_pos hfits, if_pos (by omega), hrest]
      · rw [if_neg hfits, if_neg (by omega)]

/-- A count past the end of a text takes as much as the one at its end. -/
theorem takeBytes_min_byteLength (n : Nat) (cs : List Char) :
    takeBytes (min n (byteLength cs)) cs = takeBytes n cs := by
  rcases Nat.le_total n (byteLength cs) with hle | hge
  · rw [Nat.min_eq_left hle]
  · rw [Nat.min_eq_right hge, takeBytes_of_byteLength_le hge,
      takeBytes_of_byteLength_le (Nat.le_refl _)]

/-- Stepping back ends where a cut at the same offset ends. -/
theorem boundaryUpTo_eq (cs : List Char) (n : Nat) :
    boundaryUpTo cs n = byteLength (takeBytes n cs) := by
  have hle := byteLength_takeBytes_le n cs
  induction n with
  | zero =>
      rw [boundaryUpTo]
      omega
  | succ n ih =>
      simp only [boundaryUpTo, splitAtByte?, Option.isSome_ite]
      by_cases hcut : byteLength (takeBytes (n + 1) cs) = n + 1
      · rw [if_pos hcut, hcut]
      · -- No character starts here, so one step back the cut takes the same text.
        have hstep : takeBytes n cs = takeBytes (n + 1) cs :=
          takeBytes_eq_of_le (by omega) (Nat.le_succ n)
        rw [if_neg hcut, ih (byteLength_takeBytes_le n cs), hstep]

/-! ## Offsets of characters -/

/-- Each character of `cs` with its offset, where `cs` itself stands at `offset`. -/
def charIndices (offset : Nat) : List Char → List (Nat × Char)
  | [] => []
  | c :: rest => (offset, c) :: charIndices (offset + c.utf8Size) rest

theorem charIndices_append (offset : Nat) (xs ys : List Char) :
    charIndices offset (xs ++ ys) =
      charIndices offset xs ++ charIndices (offset + byteLength xs) ys := by
  induction xs generalizing offset with
  | nil => rfl
  | cons x xs ih =>
      rw [List.cons_append, charIndices, ih, charIndices, byteLength_cons, Nat.add_assoc,
        List.cons_append]

theorem map_snd_charIndices (offset : Nat) (cs : List Char) :
    (charIndices offset cs).map Prod.snd = cs := by
  induction cs generalizing offset with
  | nil => rfl
  | cons c cs ih => rw [charIndices, List.map_cons, ih]

theorem byteLength_eq_zero_iff : byteLength cs = 0 ↔ cs = [] := by
  cases cs with
  | nil => simp
  | cons c rest =>
      have hpos := c.utf8Size_pos
      simp only [byteLength_cons, reduceCtorEq, iff_false]
      omega

/-- The first offset outside a class is where the run of the class ends. -/
theorem find?_charIndices (p : Char → Bool) (offset : Nat) (cs : List Char) :
    (((charIndices offset cs).find? fun entry => !p entry.2).map Prod.fst).getD
        (offset + byteLength cs) =
      offset + byteLength (cs.takeWhile p) := by
  induction cs generalizing offset with
  | nil => rfl
  | cons c cs ih =>
      rw [charIndices, List.find?_cons, List.takeWhile_cons]
      cases hc : p c with
      | true =>
          have hrest := ih (offset + c.utf8Size)
          simpa [Nat.add_assoc] using hrest
      | false => rfl

/-- The last offset that is passed on the way back over the run at the end of a text is the one
at which the run starts. -/
theorem getLast?_takeWhile_charIndices {p : Char → Bool} {front run : List Char}
    (hfront : StopsAt p front) (hrun : ∀ c ∈ run, p c = true) :
    ((((charIndices 0 (front ++ run)).reverse.takeWhile fun entry => p entry.2).getLast?).map
        Prod.fst).getD (byteLength (front ++ run)) =
      byteLength front := by
  have hstop : StopsAt (fun entry => p entry.2) (charIndices 0 front) := by
    intro entry hentry
    apply hfront
    rw [← map_snd_charIndices 0 front, List.getLast?_map, hentry, Option.map_some]
  have hpass : ∀ entry ∈ charIndices (0 + byteLength front) run, p entry.2 = true := by
    intro entry hentry
    apply hrun
    rw [← map_snd_charIndices (0 + byteLength front) run]
    exact List.mem_map_of_mem hentry
  -- What is passed is the run, backwards, so the last offset on the way is its first one.
  rw [charIndices_append, takeWhile_reverse_run hstop hpass, List.getLast?_reverse]
  cases run with
  | nil => simp [charIndices]
  | cons c run => simp [charIndices]

end Text

/-! ## The text before a cursor and the word under it -/

namespace CursorLine

/-- The text of `line` up to `column`, cut by stepping back to a character. -/
def slicedPrefix? (line : List Char) (column : Nat) : Option (List Char) :=
  Text.slice? line 0 (Text.boundaryUpTo line (min column (Text.byteLength line)))

/-- The word around byte `offset` of `line`: its ends are the last offset that is reached by
going back over word characters, and the first one that is reached by going on. -/
def slicedWord? (line : List Char) (offset : Nat) : Option (Option (List Char)) := do
  let before ← Text.slice? line 0 offset
  let after ← Text.slice? line offset (Text.byteLength line)
  let passed :=
    (Text.charIndices 0 before).reverse.takeWhile fun entry => Text.isCursorChar entry.2
  let start := (passed.getLast?.map Prod.fst).getD offset
  let beyond := (Text.charIndices 0 after).find? fun entry => !Text.isCursorChar entry.2
  let stop := offset + (beyond.map Prod.fst).getD (Text.byteLength after)
  if start = stop then return none
  else return some (← Text.slice? line start stop)

/-- The text before the cursor is a slice, at whatever column the cursor is. -/
theorem slicedPrefix?_eq (line : List Char) (column : Nat) :
    slicedPrefix? line column = some (ofColumn line column).before := by
  have hslice := Text.slice?_zero (Text.takeBytes column line) (Text.dropBytes column line)
  rw [Text.takeBytes_append_dropBytes] at hslice
  rw [slicedPrefix?, Text.boundaryUpTo_eq, Text.takeBytes_min_byteLength, hslice]
  rfl

/-- The word under the cursor is a slice, or empty. -/
theorem slicedWord?_byteLength (cursor : CursorLine) :
    slicedWord? (cursor.before ++ cursor.after) (Text.byteLength cursor.before) =
      some cursor.word? := by
  obtain ⟨before, after⟩ := cursor
  -- The word is the run that ends the text before the cursor, and the one that starts the rest.
  obtain ⟨front, run, rfl, hfront, hrun⟩ := Text.exists_run_at_end Text.isCursorChar before
  have hbefore : wordBefore ⟨front ++ run, after⟩ = run := by
    rw [wordBefore, Text.takeWhile_reverse_run hfront hrun, List.reverse_reverse]
  have hstart := Text.getLast?_takeWhile_charIndices hfront hrun
  have hstop := Text.find?_charIndices Text.isCursorChar 0 after
  rw [Nat.zero_add, Nat.zero_add] at hstop
  simp only [slicedWord?, Text.slice?_zero, Text.slice?_byteLength, Option.bind_eq_bind,
    Option.bind_some, hstart, hstop]
  rw [word?, hbefore, wordAfter]
  -- Its two ends are where the one run starts and the other one stops.
  generalize hword : run ++ after.takeWhile Text.isCursorChar = word
  have hlength := congrArg Text.byteLength hword
  rw [Text.byteLength_append] at hlength
  have hends : Text.byteLength (front ++ run) +
        Text.byteLength (after.takeWhile Text.isCursorChar) =
      Text.byteLength front + Text.byteLength word := by
    rw [Text.byteLength_append]
    omega
  rw [hends]
  cases word with
  | nil => simp
  | cons c rest =>
      have hne : Text.byteLength (c :: rest) ≠ 0 := by
        rw [Ne, Text.byteLength_eq_zero_iff]
        exact List.cons_ne_nil c rest
      have hslice : Text.slice? (front ++ run ++ after) (Text.byteLength front)
          (Text.byteLength front + Text.byteLength (c :: rest)) = some (c :: rest) := by
        refine Text.slice?_eq_some_iff.mpr
          ⟨front, after.dropWhile Text.isCursorChar, ?_, rfl, rfl⟩
        rw [← hword, List.append_assoc, List.append_assoc, List.takeWhile_append_dropWhile]
      rw [if_neg (by omega), hslice]
      rfl

end CursorLine

/-! ## Lines -/

/-- There is a place after any number of the line feeds of a text. -/
theorem exists_count_feed {cs : List Char} {n : Nat} (hn : n ≤ cs.count '\n') :
    ∃ front rest, cs = front ++ rest ∧ front.count '\n' = n := by
  induction cs generalizing n with
  | nil => exact ⟨[], [], rfl, (Nat.le_zero.mp hn).symm⟩
  | cons c cs ih =>
      cases n with
      | zero => exact ⟨[], c :: cs, rfl, rfl⟩
      | succ n =>
          by_cases hc : c = '\n'
          · subst hc
            obtain ⟨front, rest, rfl, hcount⟩ := ih (n := n) (by simpa using hn)
            exact ⟨'\n' :: front, rest, rfl, by simp [hcount]⟩
          · obtain ⟨front, rest, rfl, hcount⟩ := ih (n := n + 1) (by simpa [hc] using hn)
            exact ⟨c :: front, rest, rfl, by simp [hcount, hc]⟩

/-- Wherever a text is cut in two, the cut is in a line. -/
theorem exists_isLine_of_append (front rest : List Char) :
    ∃ before lineFront lineBack after,
      IsLine (front ++ rest) before (lineFront ++ lineBack) after ∧
        front = before ++ lineFront ∧ rest = lineBack ++ after := by
  obtain ⟨before, lineFront, rfl, hbefore, hline⟩ := Text.exists_run_at_end (· ≠ '\n') front
  obtain ⟨lineBack, after, rfl, hback, hafter⟩ := exists_split_at_feed rest
  refine ⟨before, lineFront, lineBack, after, ⟨by simp, ?_, ?_, hafter⟩, rfl, rfl⟩
  · cases hlast : before.getLast? with
    | none => exact .inl (List.getLast?_eq_none_iff.mp hlast)
    | some c => exact .inr (by simpa using hbefore c hlast)
  · intro hmem
    rcases List.mem_append.mp hmem with hmem | hmem
    · simpa using hline _ hmem
    · exact hback hmem

namespace TextDocument

variable {document : TextDocument}

/-- Every number below the number of lines is the number of a line. -/
theorem exists_isLine_of_lt {n : Nat} (hn : n < document.lineCount) :
    ∃ before line after,
      IsLine document.text.toList before line after ∧ before.count '\n' = n := by
  rw [lineCount_eq_count] at hn
  obtain ⟨front, rest, htext, hcount⟩ := exists_count_feed (Nat.le_of_lt_succ hn)
  obtain ⟨before, lineFront, lineBack, after, hline, rfl, -⟩ := exists_isLine_of_append front rest
  -- The line feeds that were counted all stand before the line.
  have hfeed : '\n' ∉ lineFront := fun hmem => hline.no_feed (List.mem_append_left _ hmem)
  rw [List.count_append, List.count_eq_zero.mpr hfeed, Nat.add_zero] at hcount
  exact ⟨before, lineFront ++ lineBack, after, htext ▸ hline, hcount⟩

/-- Line `n` without its terminator, as the slice from its start to the next line feed. -/
def slicedLine? (document : TextDocument) (n : Nat) : Option (Option String) :=
  match document.lineStarts[n]? with
  | none => some none
  | some start =>
      let stop := match document.lineStarts[n + 1]? with
        | some next => next - 1
        | none => document.byteLength
      (Text.slice? document.text.toList start stop).map fun line =>
        some (String.ofList (stripReturn line))

/-- Every line is a slice. -/
theorem slicedLine?_eq (document : TextDocument) (n : Nat) :
    document.slicedLine? n = some (document.lineText n) := by
  rcases Nat.lt_or_ge n document.lineCount with hlt | hge
  · obtain ⟨before, line, after, hline, rfl⟩ := exists_isLine_of_lt hlt
    have hslice : Text.slice? document.text.toList (Text.byteLength before)
        (Text.byteLength before + Text.byteLength line) = some line :=
      Text.slice?_eq_some_iff.mpr ⟨before, after, hline.text_eq, rfl, rfl⟩
    rw [lineText_of_isLine hline, slicedLine?, getElem?_lineStarts_count hline]
    simp only [getElem?_lineStarts_count_succ hline]
    -- The line stops where the text ends, or one byte before the next line starts.
    by_cases hafter : after = []
    · have hlength := byteLength_of_isLine hline
      rw [hafter, Text.byteLength_nil, Nat.add_zero] at hlength
      simp only [if_pos hafter, hlength, hslice, Option.map_some]
    · simp only [if_neg hafter, Nat.add_sub_cancel, hslice, Option.map_some]
  · have hstart : document.lineStarts[n]? = none := Array.getElem?_eq_none hge
    rw [lineText_eq_none hge, slicedLine?, hstart]

/-- What is read at a position: the text before the cursor and the word under it, if the
document has the line. -/
def slicedReading? (document : TextDocument) (position : Position) :
    Option (Option (String × Option String)) := do
  match ← document.slicedLine? position.line with
  | none => return none
  | some line =>
      let before ← CursorLine.slicedPrefix? line.toList position.column
      let word ← CursorLine.slicedWord? line.toList (Text.byteLength before)
      return some (String.ofList before, word.map String.ofList)

/-- No slice fails at any position, and what is read is the line cut at the cursor. -/
theorem slicedReading?_eq (document : TextDocument) (position : Position) :
    document.slicedReading? position =
      some ((document.lineText position.line).map fun line =>
        let cursor := CursorLine.ofColumn line.toList position.column
        (String.ofList cursor.before, cursor.word?.map String.ofList)) := by
  rw [slicedReading?, slicedLine?_eq]
  cases document.lineText position.line with
  | none => rfl
  | some line =>
      have hword := CursorLine.slicedWord?_byteLength
        (CursorLine.ofColumn line.toList position.column)
      have hwhole : (CursorLine.ofColumn line.toList position.column).before ++
          (CursorLine.ofColumn line.toList position.column).after = line.toList :=
        Text.takeBytes_append_dropBytes ..
      rw [hwhole] at hword
      simp only [Option.bind_eq_bind, Option.bind_some, CursorLine.slicedPrefix?_eq, hword]
      rfl

end TextDocument

end StyleCompletion
