/-
Offsets and positions of a document.

A position can be counted in the bytes of a text up to an offset: its line is the number of line
feeds among them, its column the number of bytes after the last of these.  The document finds the
same by halving, and takes a position back to its offset, unless the offset is behind the carriage
return of a line end, which belongs to no line.
-/
import StyleCompletion.Proofs.Document.Offsets
import StyleCompletion.Proofs.Text.OneByte

namespace StyleCompletion

/-! ## Counting -/

/-- Positions stand in the order in which they are reached. -/
instance : LE Position where
  le position other :=
    position.line < other.line ∨ position.line = other.line ∧ position.column ≤ other.column

/-- The position behind `bytes`: the number of line feeds among them, and of the bytes after the
last one. -/
def Position.behind (bytes : List UInt8) : Position where
  line := bytes.count 0x0A
  column := (bytes.reverse.takeWhile (· ≠ 0x0A)).length

namespace Position

theorem ne_feed_of_notMem {bytes : List UInt8} (h : 0x0A ∉ bytes) :
    ∀ byte ∈ bytes, decide (byte ≠ 0x0A) = true := by
  intro byte hbyte
  rw [decide_eq_true_eq]
  rintro rfl
  exact h hbyte

/-- Behind a line feed, or from the start, the bytes of a line are counted as its column. -/
theorem behind_append {front run : List UInt8}
    (hfront : front = [] ∨ front.getLast? = some 0x0A) (hrun : 0x0A ∉ run) :
    behind (front ++ run) = ⟨front.count 0x0A, run.length⟩ := by
  have hstop : Text.StopsAt (fun byte => decide (byte ≠ 0x0A)) front := by
    intro byte hbyte
    rcases hfront with rfl | hlast
    · exact absurd hbyte (by simp)
    · obtain rfl : (0x0A : UInt8) = byte := Option.some.inj (hlast.symm.trans hbyte)
      rfl
  rw [behind, Text.takeWhile_reverse_run hstop (ne_feed_of_notMem hrun), List.length_reverse,
    List.count_append, List.count_eq_zero.mpr hrun, Nat.add_zero]

/-- More bytes lead no further back. -/
theorem behind_le_behind_append (bytes more : List UInt8) :
    behind bytes ≤ behind (bytes ++ more) := by
  by_cases hmore : (0x0A : UInt8) ∈ more
  · -- With a line feed among them the line is a later one.
    have hcount := List.count_pos_iff.mpr hmore
    left
    show bytes.count 0x0A < (bytes ++ more).count 0x0A
    rw [List.count_append]
    omega
  · -- Without one they are counted in the column.
    have hpass := ne_feed_of_notMem fun hmem => hmore (List.mem_reverse.mp hmem)
    right
    refine ⟨?_, ?_⟩
    · show bytes.count 0x0A = (bytes ++ more).count 0x0A
      rw [List.count_append, List.count_eq_zero.mpr hmore, Nat.add_zero]
    · show (bytes.reverse.takeWhile (· ≠ 0x0A)).length ≤
        ((bytes ++ more).reverse.takeWhile (· ≠ 0x0A)).length
      rw [List.reverse_append, List.takeWhile_append_of_pos hpass, List.length_append]
      omega

theorem behind_take_mono (bytes : List UInt8) {n m : Nat} (h : n ≤ m) :
    behind (bytes.take n) ≤ behind (bytes.take m) := by
  have hsplit : bytes.take m = bytes.take n ++ (bytes.drop n).take (m - n) := by
    rw [← List.take_add, Nat.add_sub_cancel' h]
  rw [hsplit]
  exact behind_le_behind_append _ _

end Position

/-! ## Lines in bytes -/

theorem Text.byteLength_pos_of_getLast? {cs : List Char} {c : Char} (h : cs.getLast? = some c) :
    0 < byteLength cs := by
  apply Nat.pos_of_ne_zero
  intro hzero
  rw [byteLength_eq_zero_iff.mp hzero] at h
  exact absurd h (by simp)

namespace IsLine

variable {text : String} {before line after : List Char} {k : Nat}

theorem bytes_eq (h : IsLine text.toList before line after) :
    Text.bytes text = Text.encoded before ++ (Text.encoded line ++ Text.encoded after) := by
  have hbytes : Text.bytes text = Text.encoded text.toList := Text.bytes_eq_flatMap text
  rw [hbytes, h.text_eq, Text.encoded_append, Text.encoded_append]

theorem take_bytes (h : IsLine text.toList before line after) (hk : k ≤ Text.byteLength line) :
    (Text.bytes text).take (Text.byteLength before + k) =
      Text.encoded before ++ (Text.encoded line).take k := by
  rw [h.bytes_eq, ← Text.length_encoded, List.take_length_add_append,
    List.take_append_of_le_length (by rwa [Text.length_encoded])]

/-- No byte of a line is that of a line feed. -/
theorem feed_notMem_encoded (h : IsLine text.toList before line after) :
    0x0A ∉ Text.encoded line :=
  fun hmem => h.no_feed (Text.isByteOf_feed.mem_encoded_iff.mp hmem)

/-- The position behind an offset in a line is the number of the line and the distance to its
start. -/
theorem behind_take_bytes (h : IsLine text.toList before line after)
    (hk : k ≤ Text.byteLength line) :
    Position.behind ((Text.bytes text).take (Text.byteLength before + k)) =
      ⟨before.count '\n', k⟩ := by
  have hfront : Text.encoded before = [] ∨ (Text.encoded before).getLast? = some 0x0A := by
    rcases h.starts with rfl | hlast
    · exact .inl rfl
    · exact .inr (Text.isByteOf_feed.getLast?_encoded_iff.mpr hlast)
  have hrun : 0x0A ∉ (Text.encoded line).take k := fun hmem =>
    h.feed_notMem_encoded (List.mem_of_mem_take hmem)
  rw [h.take_bytes hk, Position.behind_append hfront hrun, Text.isByteOf_feed.count_encoded,
    List.length_take, Text.length_encoded, Nat.min_eq_left hk]

end IsLine

namespace TextDocument

variable {document : TextDocument}

/-- The position that is found by halving is the one that is found by counting. -/
theorem positionAt_eq_behind (hsize : document.byteLength < 0x100000000) (offset : Nat) :
    document.positionAt offset =
      .behind ((Text.bytes document.text).take (min offset document.byteLength)) := by
  have hle : min offset document.byteLength ≤ document.byteLength := Nat.min_le_right ..
  obtain ⟨before, line, after, k, hline, hk, hoffset⟩ := exists_isLine_of_le hle
  rw [← positionAt_min, hoffset, positionAt_in_line hline hk hsize, hline.behind_take_bytes hk]

/-- The line and the column of an offset are counted in the bytes before it.  So the offsets that a
document keeps for its lines grow from zero, and a later offset is at no earlier position. -/
theorem positionAt_counts_feeds (hsize : document.byteLength < 0x100000000) :
    (∀ offset,
      let bytes := (Text.bytes document.text).take (min offset document.byteLength)
      (document.positionAt offset).line = bytes.count 0x0A ∧
        (document.positionAt offset).column = (bytes.reverse.takeWhile (· ≠ 0x0A)).length) ∧
    document.lineStarts.toList.Pairwise (· < ·) ∧
    document.lineStarts[0]? = some 0 ∧
    ∀ offset later, offset ≤ later →
      document.positionAt offset ≤ document.positionAt later := by
  have hscan := positionAt_eq_behind hsize
  refine ⟨fun offset => ?_, ?_, ?_, fun offset later hle => ?_⟩
  · rw [hscan]
    exact ⟨rfl, rfl⟩
  · rw [document.lineStarts_eq]
    exact pairwise_lineStartsOf document.text
  · rw [document.lineStarts_eq]
    rfl
  · rw [hscan, hscan]
    exact Position.behind_take_mono _ (by omega)

/-- A text with a character of two bytes, a line end of two characters, an empty line, and a
carriage return at its end. -/
def sparseText : TextDocument := .ofText "é\r\n\nb\r"

/-- An offset inside the long character, one at a line start and one past the end of the text. -/
theorem positionAt_sparseText :
    sparseText.byteLength < 0x100000000 ∧
    sparseText.positionAt 1 = ⟨0, 1⟩ ∧
    sparseText.positionAt 5 = ⟨2, 0⟩ ∧
    sparseText.positionAt 100 = ⟨2, 2⟩ ∧
    sparseText.positionAt 5 ≤ sparseText.positionAt 100 := by
  have hsize : sparseText.byteLength < 0x100000000 := by decide
  obtain ⟨hcount, -, -, hmono⟩ := positionAt_counts_feeds hsize
  have hposition (offset line column : Nat)
      (h : line = ((Text.bytes sparseText.text).take
          (min offset sparseText.byteLength)).count 0x0A ∧
        column = (((Text.bytes sparseText.text).take
          (min offset sparseText.byteLength)).reverse.takeWhile (· ≠ 0x0A)).length) :
      sparseText.positionAt offset = ⟨line, column⟩ := by
    obtain ⟨hline, hcolumn⟩ := hcount offset
    rw [h.1, h.2, ← hline, ← hcolumn]
  exact ⟨hsize, hposition 1 0 1 (by decide), hposition 5 2 0 (by decide),
    hposition 100 2 2 (by decide), hmono 5 100 (by decide)⟩

/-! ## There and back -/

/-- A position in a line is at the start of the line and its column, which counts up to the end of
the text of the line. -/
theorem offsetAt_in_line {before line after : List Char}
    (h : IsLine document.text.toList before line after) (column : Nat) :
    document.offsetAt ⟨before.count '\n', column⟩ =
      some (Text.byteLength before + min column (Text.byteLength (stripReturn line))) := by
  simp only [offsetAt, getElem?_lineStarts_count h, lineChars_count h]
  rfl

theorem byteLength_stripReturn (line : List Char) :
    Text.byteLength (stripReturn line) =
      if line.getLast? = some '\r' then Text.byteLength line - 1 else Text.byteLength line := by
  rw [stripReturn]
  split
  · next hlast =>
      obtain ⟨text, rfl⟩ := List.getLast?_eq_some_iff.mp hlast
      rw [List.dropLast_concat, byteLength_append_return, Nat.add_sub_cancel]
  · rfl

/-- Beyond the last line there is no offset. -/
theorem offsetAt_eq_none_iff {line column : Nat} :
    document.offsetAt ⟨line, column⟩ = none ↔ document.lineCount ≤ line := by
  constructor
  · intro hnone
    apply Nat.le_of_not_lt
    intro hlt
    obtain ⟨before, text, after, hline, rfl⟩ := exists_isLine_of_lt hlt
    rw [offsetAt_in_line hline] at hnone
    exact absurd hnone (by simp)
  · intro hge
    have hstart : document.lineStarts[line]? = none := Array.getElem?_eq_none hge
    simp only [offsetAt, hstart]
    rfl

end TextDocument

namespace IsLine

variable {text : String} {before line after : List Char} {k : Nat}

/-- Inside a line no byte is the last one of the text, and none is a line feed. -/
theorem eq_byteLength_of_ends (h : IsLine text.toList before line after)
    (hk : k ≤ Text.byteLength line)
    (hends : Text.byteLength before + k = Text.size text ∨
      (Text.bytes text)[Text.byteLength before + k]? = some 0x0A) :
    k = Text.byteLength line := by
  apply Nat.le_antisymm hk
  apply Nat.le_of_not_lt
  intro hlt
  rcases hends with hend | hfeed
  · rw [Text.size, h.text_eq, Text.byteLength_append, Text.byteLength_append] at hend
    omega
  · have hbyte : (Text.encoded line)[k]? = some 0x0A := by
      rwa [h.bytes_eq, ← Text.length_encoded, List.getElem?_append_right (Nat.le_add_right ..),
        Nat.add_sub_cancel_left, List.getElem?_append_left (by rwa [Text.length_encoded])] at hfeed
    exact h.feed_notMem_encoded (List.mem_of_getElem? hbyte)

/-- The byte before the end of a line is the last one of the text up to there. -/
theorem getElem?_before_end (h : IsLine text.toList before line after)
    (hpos : 0 < Text.byteLength before + Text.byteLength line) :
    (Text.bytes text)[Text.byteLength before + Text.byteLength line - 1]? =
      (Text.encoded (before ++ line)).getLast? := by
  have hlength : (Text.encoded (before ++ line)).length =
      Text.byteLength before + Text.byteLength line := by
    rw [Text.length_encoded, Text.byteLength_append]
  rw [h.bytes_eq, ← List.append_assoc, ← Text.encoded_append,
    List.getElem?_append_left (by omega), List.getLast?_eq_getElem?, hlength]

/-- At the end of a line the text ends, or a line feed follows. -/
theorem ends (h : IsLine text.toList before line after) :
    Text.byteLength before + Text.byteLength line = Text.size text ∨
      (Text.bytes text)[Text.byteLength before + Text.byteLength line]? = some 0x0A := by
  rcases h.stops with rfl | hfeed
  · left
    rw [Text.size, h.text_eq, List.append_nil, Text.byteLength_append]
  · right
    have hlength : (Text.encoded before ++ Text.encoded line).length =
        Text.byteLength before + Text.byteLength line := by
      rw [List.length_append, Text.length_encoded, Text.length_encoded]
    rw [h.bytes_eq, ← List.append_assoc, ← hlength, List.getElem?_append_right (Nat.le_refl _),
      Nat.sub_self, ← List.head?_eq_getElem?]
    exact Text.isByteOf_feed.head?_encoded_iff.mpr hfeed

/-- In bytes, an offset is behind the carriage return of a line end, or of the end of the text,
exactly if it is at the end of a line whose last character is one. -/
theorem follows_return_bytes_iff (h : IsLine text.toList before line after)
    (hk : k ≤ Text.byteLength line) :
    (0 < Text.byteLength before + k ∧
      (Text.bytes text)[Text.byteLength before + k - 1]? = some 0x0D ∧
      (Text.byteLength before + k = Text.size text ∨
        (Text.bytes text)[Text.byteLength before + k]? = some 0x0A)) ↔
      k = Text.byteLength line ∧ line.getLast? = some '\r' := by
  have hcut : IsLine text.toList before (line ++ []) after := by rwa [List.append_nil]
  constructor
  · rintro ⟨hpos, hreturn, hends⟩
    obtain rfl := h.eq_byteLength_of_ends hk hends
    rw [h.getElem?_before_end hpos, Text.isByteOf_return.getLast?_encoded_iff] at hreturn
    exact ⟨rfl, (hcut.follows_return_iff.mp ⟨hreturn, h.stops⟩).2⟩
  · rintro ⟨rfl, hlast⟩
    have hreturn := (hcut.follows_return_iff.mpr ⟨rfl, hlast⟩).1
    have hpos : 0 < Text.byteLength before + Text.byteLength line :=
      Nat.add_pos_right _ (Text.byteLength_pos_of_getLast? hlast)
    refine ⟨hpos, ?_, h.ends⟩
    rw [h.getElem?_before_end hpos, Text.isByteOf_return.getLast?_encoded_iff]
    exact hreturn

end IsLine

namespace TextDocument

variable {document : TextDocument}

/-- The position of an offset leads back to it, or to the carriage return before it if that is
part of a line end or ends the text. -/
theorem offsetAt_positionAt (hsize : document.byteLength < 0x100000000) {offset : Nat}
    (hoffset : offset ≤ document.byteLength) :
    document.offsetAt (document.positionAt offset) =
      some (if 0 < offset ∧ (Text.bytes document.text)[offset - 1]? = some 0x0D ∧
          (offset = document.byteLength ∨ (Text.bytes document.text)[offset]? = some 0x0A) then
        offset - 1
      else offset) := by
  obtain ⟨before, line, after, k, hline, hk, rfl⟩ := exists_isLine_of_le hoffset
  have hstrip := byteLength_stripReturn line
  have hreturn := hline.follows_return_bytes_iff hk
  rw [positionAt_in_line hline hk hsize, offsetAt_in_line hline]
  split
  · next hbehind =>
      obtain ⟨rfl, hlast⟩ := hreturn.mp hbehind
      have hpos := Text.byteLength_pos_of_getLast? hlast
      rw [if_pos hlast] at hstrip
      congr 1
      omega
  · next hbehind =>
      -- Elsewhere the offset is not past the text of its line.
      have hle : k ≤ Text.byteLength (stripReturn line) := by
        rw [hstrip]
        split
        · next hlast =>
            have hend : k ≠ Text.byteLength line := fun hend => hbehind (hreturn.mpr ⟨hend, hlast⟩)
            omega
        · exact hk
      rw [Nat.min_eq_left hle]

/-- The offset of a position leads back to it, with a column past the text of the line moved to
its end. -/
theorem positionAt_offsetAt (hsize : document.byteLength < 0x100000000) {line : Nat}
    (hline : line < document.lineCount) (column : Nat) :
    ∃ offset text, document.offsetAt ⟨line, column⟩ = some offset ∧
      document.lineText line = some text ∧
      document.positionAt offset = ⟨line, min column (Text.size text)⟩ := by
  obtain ⟨before, chars, after, hisLine, rfl⟩ := exists_isLine_of_lt hline
  have hle : Text.byteLength (stripReturn chars) ≤ Text.byteLength chars := by
    rw [byteLength_stripReturn]
    split <;> omega
  refine ⟨_, _, offsetAt_in_line hisLine column, lineText_of_isLine hisLine, ?_⟩
  rw [positionAt_in_line hisLine (by omega) hsize, Text.size, String.toList_ofList]

/-- Offsets and positions lead to each other and back.  An offset comes back as it was, or one byte
earlier behind a carriage return that ends its line or the text; a position comes back with its
column at most the length of the text of its line; and only beyond the last line there is no
offset. -/
theorem offsets_and_positions_inverse (hsize : document.byteLength < 0x100000000) :
    (∀ offset ≤ document.byteLength,
      document.offsetAt (document.positionAt offset) =
        some (if 0 < offset ∧ (Text.bytes document.text)[offset - 1]? = some 0x0D ∧
            (offset = document.byteLength ∨
              (Text.bytes document.text)[offset]? = some 0x0A) then
          offset - 1
        else offset)) ∧
    (∀ line column, line < document.lineCount →
      ∃ offset text, document.offsetAt ⟨line, column⟩ = some offset ∧
        document.lineText line = some text ∧
        document.positionAt offset = ⟨line, min column (Text.size text)⟩) ∧
    ∀ line column, document.offsetAt ⟨line, column⟩ = none ↔ document.lineCount ≤ line :=
  ⟨fun _ hoffset => offsetAt_positionAt hsize hoffset,
    fun _ column hline => positionAt_offsetAt hsize hline column,
    fun _ _ => offsetAt_eq_none_iff⟩

/-- An offset inside the long character comes back, one inside a line end and one behind the last
carriage return come back a byte earlier, and a column past its line is moved to the end. -/
theorem offsets_and_positions_sparseText :
    sparseText.byteLength < 0x100000000 ∧
    sparseText.offsetAt (sparseText.positionAt 1) = some 1 ∧
    sparseText.offsetAt (sparseText.positionAt 3) = some 2 ∧
    sparseText.offsetAt (sparseText.positionAt 7) = some 6 ∧
    (∃ offset, sparseText.offsetAt ⟨2, 9⟩ = some offset ∧
      sparseText.positionAt offset = ⟨2, 1⟩) ∧
    sparseText.offsetAt ⟨3, 0⟩ = none := by
  have hsize : sparseText.byteLength < 0x100000000 := by decide
  obtain ⟨hback, hthere, hnone⟩ := offsets_and_positions_inverse hsize
  obtain ⟨offset, text, hoffset, htext, hposition⟩ := hthere 2 9 (by decide)
  obtain rfl : "b" = text := Option.some.inj htext
  exact ⟨hsize, hback 1 (by decide), hback 3 (by decide), hback 7 (by decide),
    ⟨offset, hoffset, hposition⟩, (hnone 3 0).mpr (by decide)⟩

end TextDocument

end StyleCompletion
