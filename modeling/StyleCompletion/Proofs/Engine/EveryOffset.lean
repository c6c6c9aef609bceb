/-
Every offset is a cursor.

An offset past the end of a text, inside a character, or between a carriage return and the line
feed after it is no place where an editor puts a cursor.  A request at such an offset is answered
all the same: it is moved back to the nearest such place before it, and the answer is the one
that is given there.
-/
import StyleCompletion.Proofs.Document.Offsets
import StyleCompletion.Proofs.Engine.LinesRead

namespace StyleCompletion

/-! ## The place of the cursor -/

/-- A column inside a character cuts a line as the start of that character does. -/
theorem CursorLine.ofColumn_byteLength_takeBytes (line : List Char) (column : Nat) :
    ofColumn line (Text.byteLength (Text.takeBytes column line)) = ofColumn line column := by
  have hbefore := Text.takeBytes_byteLength_append (Text.takeBytes column line)
    (Text.dropBytes column line)
  have hafter := Text.dropBytes_byteLength_append (Text.takeBytes column line)
    (Text.dropBytes column line)
  rw [Text.takeBytes_append_dropBytes] at hbefore hafter
  rw [ofColumn, hbefore, hafter]
  rfl

namespace TextDocument

/-- The place of a cursor at `offset`: not past the end of the text, at the start of a character,
and not between a carriage return and the end of its line. -/
def cursorOffset (document : TextDocument) (offset : Nat) : Nat :=
  let cs := document.text.toList
  let reached := Text.boundaryUpTo cs (min offset document.byteLength)
  if (Text.takeBytes reached cs).getLast? = some '\r' ∧
      (Text.dropBytes reached cs = [] ∨ (Text.dropBytes reached cs).head? = some '\n') then
    reached - 1
  else reached

variable {document : TextDocument} {before line after : List Char} {k : Nat}

/-- In a line, the place differs from the character reached only behind the carriage return of
the line. -/
theorem cursorOffset_of_reached {offset : Nat} {front back : List Char}
    (h : IsLine document.text.toList before (front ++ back) after)
    (hreached : Text.boundaryUpTo document.text.toList (min offset document.byteLength) =
      Text.byteLength (before ++ front)) :
    document.cursorOffset offset = Text.byteLength before +
      if back = [] ∧ front.getLast? = some '\r' then Text.byteLength front - 1
      else Text.byteLength front := by
  have hcut : document.text.toList = (before ++ front) ++ (back ++ after) := by
    rw [h.text_eq]
    simp only [List.append_assoc]
  rw [cursorOffset, hreached, hcut]
  simp only [Text.takeBytes_byteLength_append, Text.dropBytes_byteLength_append,
    h.follows_return_iff]
  split
  · next hreturn =>
      -- The return itself is one of the bytes before the place that was reached.
      obtain ⟨text, rfl⟩ := List.getLast?_eq_some_iff.mp hreturn.2
      rw [Text.byteLength_append, byteLength_append_return]
      omega
  · rw [Text.byteLength_append]

/-- A cut of a line and one of its text differ only behind the carriage return of the line. -/
theorem byteLength_takeBytes_stripReturn (hk : k ≤ Text.byteLength line) :
    Text.byteLength (Text.takeBytes k (stripReturn line)) =
      if Text.dropBytes k line = [] ∧ (Text.takeBytes k line).getLast? = some '\r' then
        Text.byteLength (Text.takeBytes k line) - 1
      else Text.byteLength (Text.takeBytes k line) := by
  have hwhole := Text.takeBytes_append_dropBytes k line
  by_cases hreturn : line.getLast? = some '\r'
  · obtain ⟨text, rfl⟩ := List.getLast?_eq_some_iff.mp hreturn
    rw [byteLength_append_return] at hk
    have hstrip : stripReturn (text ++ ['\r']) = text := by simp [stripReturn]
    rw [hstrip]
    -- The text of the line and the line are cut alike up to the return, which is the last byte.
    by_cases hinside : k ≤ Text.byteLength text
    · have hnot : ¬(Text.dropBytes k (text ++ ['\r']) = [] ∧
          (Text.takeBytes k (text ++ ['\r'])).getLast? = some '\r') := by
        rintro ⟨hnil, -⟩
        have hlength := congrArg Text.byteLength hwhole
        have hle := Text.byteLength_takeBytes_le k (text ++ ['\r'])
        rw [hnil, List.append_nil, byteLength_append_return] at hlength
        omega
      rw [if_neg hnot, Text.takeBytes_append_of_le _ hinside]
    · have hpast : Text.byteLength (text ++ ['\r']) ≤ k := by
        rw [byteLength_append_return]
        omega
      rw [Text.dropBytes_of_byteLength_le hpast, Text.takeBytes_of_byteLength_le hpast,
        if_pos ⟨rfl, hreturn⟩, Text.takeBytes_of_byteLength_le (by omega),
        byteLength_append_return, Nat.add_sub_cancel]
  · have hnot : ¬(Text.dropBytes k line = [] ∧ (Text.takeBytes k line).getLast? = some '\r') := by
      rintro ⟨hnil, hlast⟩
      rw [hnil, List.append_nil] at hwhole
      rw [hwhole] at hlast
      exact hreturn hlast
    rw [if_neg hnot, stripReturn, if_neg hreturn]

/-- In a line, the place is the one at which the text of the line is cut. -/
theorem cursorOffset_in_line (h : IsLine document.text.toList before line after)
    (hk : k ≤ Text.byteLength line) :
    document.cursorOffset (Text.byteLength before + k) =
      Text.byteLength before + Text.byteLength (Text.takeBytes k (stripReturn line)) := by
  have hlength := byteLength_of_isLine h
  have hmin : min (Text.byteLength before + k) document.byteLength =
      Text.byteLength before + k := by omega
  have hreached : Text.boundaryUpTo document.text.toList
      (min (Text.byteLength before + k) document.byteLength) =
        Text.byteLength (before ++ Text.takeBytes k line) := by
    rw [hmin, Text.boundaryUpTo_eq, h.text_eq, Text.takeBytes_add_append,
      Text.takeBytes_append_of_le _ hk]
  have hcut : IsLine document.text.toList before
      (Text.takeBytes k line ++ Text.dropBytes k line) after := by
    rwa [Text.takeBytes_append_dropBytes]
  rw [cursorOffset_of_reached hcut hreached, byteLength_takeBytes_stripReturn hk]

/-- An offset past the end counts as the end, also for the place. -/
theorem cursorOffset_min (document : TextDocument) (offset : Nat) :
    document.cursorOffset (min offset document.byteLength) = document.cursorOffset offset := by
  rw [cursorOffset, cursorOffset, Nat.min_eq_left (Nat.min_le_right ..)]

/-- The position of an offset and that of its place are on one line of the document, and cut it
at the same character. -/
theorem exists_line_of_offset (hsize : document.byteLength < 0x100000000) (offset : Nat) :
    ∃ n column line, document.lineText n = some line ∧
      document.positionAt offset = ⟨n, column⟩ ∧
      document.positionAt (document.cursorOffset offset) =
        ⟨n, Text.byteLength (Text.takeBytes column line.toList)⟩ := by
  have hmin : min offset document.byteLength ≤ Text.byteLength document.text.toList :=
    Nat.min_le_right ..
  obtain ⟨before, line, after, k, hline, hk, hoffset⟩ := exists_isLine_of_le hmin
  have hle := Text.byteLength_takeBytes_le k (stripReturn line)
  refine ⟨before.count '\n', k, String.ofList (stripReturn line), lineText_of_isLine hline, ?_, ?_⟩
  · rw [← positionAt_min, hoffset, positionAt_in_line hline hk hsize]
  · rw [← cursorOffset_min, hoffset, cursorOffset_in_line hline hk, String.toList_ofList,
      positionAt_in_line hline (Nat.le_trans hle hk) hsize]

end TextDocument

/-! ## Completion at an offset -/

/-- A completion sees of the column only where it cuts the line. -/
theorem Workspace.complete_of_same_cut {workspace : Workspace} {schema : Schema}
    {files : FileSystem} {document : DocumentView} {path : Path} {n column other : Nat}
    (h : ∀ line, document.lineText n = some line →
      CursorLine.ofColumn line.toList column = CursorLine.ofColumn line.toList other) :
    workspace.complete schema files ⟨document, path, ⟨n, column⟩⟩ =
      workspace.complete schema files ⟨document, path, ⟨n, other⟩⟩ := by
  have hoffer (context : Context) :
      workspace.offer schema files ⟨document, path, ⟨n, column⟩⟩ context =
        workspace.offer schema files ⟨document, path, ⟨n, other⟩⟩ context :=
    offer_congr _ _ rfl (fun _ => rfl)
  rw [complete, complete]
  cases hline : document.lineText n with
  | none => rfl
  | some line => simp only [h line hline, hoffer]

/-- Every offset is a cursor.  At each of them the line, the text before the cursor and the word
under it are slices between characters, as is every line of the document, and the answer is the
one at the place of the cursor. -/
theorem Engine.complete_at_every_offset {document : TextDocument}
    (hsize : document.byteLength < 0x100000000) (offset : Nat) :
    (∀ n, document.slicedLine? n = some (document.lineText n)) ∧
    (∀ path, document.slicedReading? (document.positionAt offset) =
      some (some (Request.linePrefix ⟨document.view, path, document.positionAt offset⟩,
        Request.word? ⟨document.view, path, document.positionAt offset⟩))) ∧
    ∀ (engine : Engine) (files : FileSystem) (path : Path),
      engine.complete files ⟨document.view, path, document.positionAt offset⟩ =
        engine.complete files
          ⟨document.view, path, document.positionAt (document.cursorOffset offset)⟩ := by
  obtain ⟨n, column, line, hline, hposition, hplace⟩ :=
    TextDocument.exists_line_of_offset hsize offset
  rw [hposition, hplace]
  refine ⟨document.slicedLine?_eq, fun path => ?_, fun engine files path => ?_⟩
  · have hcursor : Request.cursor? ⟨document.view, path, ⟨n, column⟩⟩ =
        some (CursorLine.ofColumn line.toList column) := Request.cursor?_of_line hline
    rw [document.slicedReading?_eq, hline, Request.linePrefix, Request.word?, hcursor]
    rfl
  · -- The two positions differ in the column, and both columns cut the line alike.
    apply Engine.complete_congr
    intro schema _
    apply Workspace.complete_of_same_cut
    intro found hfound
    obtain rfl : line = found := Option.some.inj (hline.symm.trans hfound)
    exact (CursorLine.ofColumn_byteLength_takeBytes ..).symm

/-- A text with a character of two bytes, a line end of two characters, and a carriage return at
its end. -/
def accentedText : TextDocument := .ofText "align: é\r\nle\r"

/-- An offset inside the long character, one inside the line end and one past the end of the
text, each with its place. -/
theorem Engine.complete_at_every_offset_of_accentedText :
    accentedText.byteLength < 0x100000000 ∧
    accentedText.slicedReading? (accentedText.positionAt 8) =
      some (some ("align: ", some "é")) ∧
    labelEngine.complete FileTree.empty.asFileSystem
        ⟨accentedText.view, ⟨"label.tss"⟩, accentedText.positionAt 8⟩ =
      labelEngine.complete FileTree.empty.asFileSystem
        ⟨accentedText.view, ⟨"label.tss"⟩, accentedText.positionAt 7⟩ ∧
    labelEngine.complete FileTree.empty.asFileSystem
        ⟨accentedText.view, ⟨"label.tss"⟩, accentedText.positionAt 10⟩ =
      labelEngine.complete FileTree.empty.asFileSystem
        ⟨accentedText.view, ⟨"label.tss"⟩, accentedText.positionAt 9⟩ ∧
    labelEngine.complete FileTree.empty.asFileSystem
        ⟨accentedText.view, ⟨"label.tss"⟩, accentedText.positionAt 100⟩ =
      labelEngine.complete FileTree.empty.asFileSystem
        ⟨accentedText.view, ⟨"label.tss"⟩, accentedText.positionAt 13⟩ := by
  have hsize : accentedText.byteLength < 0x100000000 := by decide
  have hinside : accentedText.cursorOffset 8 = 7 := by decide
  have hend : accentedText.cursorOffset 10 = 9 := by decide
  have hpast : accentedText.cursorOffset 100 = 13 := by decide
  refine ⟨hsize, ?_, ?_, ?_, ?_⟩
  · have hreading := (complete_at_every_offset hsize 8).2.1 ⟨"label.tss"⟩
    have hposition : accentedText.positionAt 8 = ⟨0, 8⟩ := by decide +kernel
    rw [hposition] at hreading ⊢
    rw [hreading]
    decide
  · have hsame := (complete_at_every_offset hsize 8).2.2 labelEngine FileTree.empty.asFileSystem
    rw [hinside] at hsame
    exact hsame _
  · have hsame := (complete_at_every_offset hsize 10).2.2 labelEngine FileTree.empty.asFileSystem
    rw [hend] at hsame
    exact hsame _
  · have hsame := (complete_at_every_offset hsize 100).2.2 labelEngine FileTree.empty.asFileSystem
    rw [hpast] at hsame
    exact hsame _

end StyleCompletion
