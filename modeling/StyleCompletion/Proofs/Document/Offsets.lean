/-
The line of an offset.

Every offset up to the end of a text is in a line of it, or at its end, also one that is inside a
character.  Its line is the number of line feeds before it.  What follows a carriage return ends
the text or its line exactly if the return is the last character of the line.
-/
import StyleCompletion.Proofs.Document.Slices

namespace StyleCompletion

/-! ## Cuts in a part of a text -/

namespace Text

variable {cs rest : List Char} {c : Char} {k n : Nat}

/-- The first character that is left by a cut did not fit. -/
theorem lt_of_dropBytes_eq_cons (h : dropBytes n cs = c :: rest) :
    n < byteLength (takeBytes n cs) + c.utf8Size := by
  induction cs generalizing n with
  | nil => exact absurd h (by simp [dropBytes])
  | cons d ds ih =>
      rw [dropBytes] at h
      rw [takeBytes]
      by_cases hfits : d.utf8Size ≤ n
      · rw [if_pos hfits] at h
        have hlt := ih h
        rw [if_pos hfits, byteLength_cons]
        omega
      · rw [if_neg hfits, List.cons.injEq] at h
        rw [if_neg hfits, byteLength_nil, ← h.1]
        omega

/-- A cut past a part of a text takes the part whole. -/
theorem takeBytes_add_append (xs ys : List Char) (k : Nat) :
    takeBytes (byteLength xs + k) (xs ++ ys) = xs ++ takeBytes k ys := by
  induction xs with
  | nil => rw [byteLength_nil, Nat.zero_add, List.nil_append, List.nil_append]
  | cons x xs ih =>
      have hfits : x.utf8Size ≤ byteLength (x :: xs) + k := by
        rw [byteLength_cons]
        omega
      have hless : byteLength (x :: xs) + k - x.utf8Size = byteLength xs + k := by
        rw [byteLength_cons]
        omega
      rw [List.cons_append, takeBytes, if_pos hfits, hless, ih, List.cons_append]

/-- A cut in a part of a text is not affected by what follows the part. -/
theorem takeBytes_append_of_le {xs : List Char} (ys : List Char) (hk : k ≤ byteLength xs) :
    takeBytes k (xs ++ ys) = takeBytes k xs := by
  have hlength : byteLength (takeBytes k (xs ++ ys)) ≤ k := byteLength_takeBytes_le ..
  induction xs generalizing k with
  | nil =>
      obtain rfl : k = 0 := Nat.le_zero.mp hk
      exact byteLength_eq_zero_iff.mp (Nat.le_zero.mp hlength)
  | cons x xs ih =>
      rw [byteLength_cons] at hk
      rw [List.cons_append, takeBytes, takeBytes]
      by_cases hfits : x.utf8Size ≤ k
      · rw [if_pos hfits, if_pos hfits, ih (by omega) (byteLength_takeBytes_le ..)]
      · rw [if_neg hfits, if_neg hfits]

end Text

/-! ## The line of an offset -/

/-- Every offset up to the end of a text is in a line, or at its end. -/
theorem exists_isLine_of_le {cs : List Char} {offset : Nat}
    (hoffset : offset ≤ Text.byteLength cs) :
    ∃ before line after k, IsLine cs before line after ∧ k ≤ Text.byteLength line ∧
      offset = Text.byteLength before + k := by
  have hcut := Text.takeBytes_append_dropBytes offset cs
  have hle := Text.byteLength_takeBytes_le offset cs
  obtain ⟨before, lineFront, lineBack, after, hline, hfront, hrest⟩ :=
    exists_isLine_of_append (Text.takeBytes offset cs) (Text.dropBytes offset cs)
  rw [hcut] at hline
  have hlength := congrArg Text.byteLength hfront
  rw [Text.byteLength_append] at hlength
  refine ⟨before, lineFront ++ lineBack, after, offset - Text.byteLength before, hline, ?_,
    by omega⟩
  rw [Text.byteLength_append]
  -- The offset is in the character that follows the cut or at its start.  A line feed has one
  -- byte, so an offset inside of a character is inside of the line.
  cases lineBack with
  | cons c lineBack =>
      have hlt := Text.lt_of_dropBytes_eq_cons hrest
      rw [Text.byteLength_cons]
      omega
  | nil =>
      rcases hline.stops with rfl | hfeed
      · have hwhole := congrArg Text.byteLength hcut
        rw [Text.byteLength_append, hrest, List.append_nil, Text.byteLength_nil] at hwhole
        omega
      · obtain ⟨below, rfl⟩ := List.head?_eq_some_iff.mp hfeed
        have hlt := Text.lt_of_dropBytes_eq_cons hrest
        rw [utf8Size_feed] at hlt
        omega

/-- The line of an offset is the number of line feeds before it. -/
theorem TextDocument.line_positionAt {document : TextDocument} {offset : Nat}
    (hsize : document.byteLength < 0x100000000) (hoffset : offset ≤ document.byteLength) :
    (document.positionAt offset).line =
      (Text.takeBytes offset document.text.toList).count '\n' := by
  obtain ⟨before, line, after, k, hline, hk, rfl⟩ := exists_isLine_of_le hoffset
  have hfeed : '\n' ∉ Text.takeBytes k line := by
    intro hmem
    apply hline.no_feed
    rw [← Text.takeBytes_append_dropBytes k line]
    exact List.mem_append_left _ hmem
  rw [positionAt_in_line hline hk hsize, hline.text_eq, Text.takeBytes_add_append,
    Text.takeBytes_append_of_le _ hk, List.count_append, List.count_eq_zero.mpr hfeed,
    Nat.add_zero]

/-- In a line, the carriage return of a line end or one that ends the text is the last
character. -/
theorem IsLine.follows_return_iff {cs before front back after : List Char}
    (h : IsLine cs before (front ++ back) after) :
    ((before ++ front).getLast? = some '\r' ∧
        (back ++ after = [] ∨ (back ++ after).head? = some '\n')) ↔
      back = [] ∧ front.getLast? = some '\r' := by
  constructor
  · rintro ⟨hreturn, hend⟩
    -- A character of the line behind the cut would have to be a line feed.
    have hback : back = [] := by
      cases back with
      | nil => rfl
      | cons c back =>
          rcases hend with hnil | hfeed
          · exact absurd hnil (by simp)
          · obtain rfl : c = '\n' := by simpa using hfeed
            exact absurd h.no_feed (by simp)
    -- The line starts behind a line feed, so the return is one of its own characters.
    have hfront : front ≠ [] := by
      rintro rfl
      rw [List.append_nil] at hreturn
      rcases h.starts with rfl | hfeed
      · exact absurd hreturn (by simp)
      · rw [hreturn] at hfeed
        exact absurd hfeed (by decide)
    rw [Text.getLast?_append_of_ne_nil hfront] at hreturn
    exact ⟨hback, hreturn⟩
  · rintro ⟨rfl, hreturn⟩
    rw [List.getLast?_append, hreturn, Option.some_or]
    exact ⟨rfl, h.stops⟩

namespace TextDocument

theorem byteLength_append_return (text : List Char) :
    Text.byteLength (text ++ ['\r']) = Text.byteLength text + 1 :=
  Text.byteLength_append ..

/-- An offset past the end counts as the end. -/
theorem positionAt_min (document : TextDocument) (offset : Nat) :
    document.positionAt (min offset document.byteLength) = document.positionAt offset := by
  rw [positionAt, positionAt, Nat.min_eq_left (Nat.min_le_right ..)]

end TextDocument

end StyleCompletion
