/-
Lines of a text document.

A line of a text is a part without line feeds that starts the text or follows a line
feed, and that ends the text or stands before one.  The document finds such a line by the
offsets that it keeps: its number is the number of line feeds before it, its text is the
part itself, and every offset in it turns into that number and the distance to its start.
-/
import StyleCompletion.Document

namespace StyleCompletion

/-! ## Line starts -/

@[simp] theorem utf8Size_feed : '\n'.utf8Size = 1 := rfl

theorem startsAfterFeeds_append (offset : Nat) (xs ys : List Char) :
    startsAfterFeeds offset (xs ++ ys) =
      startsAfterFeeds offset xs ++ startsAfterFeeds (offset + Text.byteLength xs) ys := by
  induction xs generalizing offset with
  | nil => simp [startsAfterFeeds]
  | cons x xs ih =>
      simp only [List.cons_append, startsAfterFeeds, Text.byteLength_cons]
      split
      · next hx => rw [ih, List.cons_append, hx, utf8Size_feed, Nat.add_assoc]
      · rw [ih, Nat.add_assoc]

theorem length_startsAfterFeeds (offset : Nat) (cs : List Char) :
    (startsAfterFeeds offset cs).length = cs.count '\n' := by
  induction cs generalizing offset with
  | nil => rfl
  | cons c cs ih =>
      rw [startsAfterFeeds, List.count_cons]
      split
      · next hc => simp [ih, hc]
      · next hc => simp [ih, hc]

theorem startsAfterFeeds_of_notMem {offset : Nat} {cs : List Char} (h : '\n' ∉ cs) :
    startsAfterFeeds offset cs = [] := by
  rw [← List.length_eq_zero_iff, length_startsAfterFeeds]
  exact List.count_eq_zero.mpr h

/-- A start past a line feed lies past where the text starts, and not past its end. -/
theorem bounds_of_mem_startsAfterFeeds {offset start : Nat} {cs : List Char}
    (h : start ∈ startsAfterFeeds offset cs) :
    offset < start ∧ start ≤ offset + Text.byteLength cs := by
  induction cs generalizing offset with
  | nil => simp [startsAfterFeeds] at h
  | cons c cs ih =>
      have hpos := c.utf8Size_pos
      rw [startsAfterFeeds] at h
      rw [Text.byteLength_cons]
      split at h
      · next hc =>
          rw [hc, utf8Size_feed]
          rcases List.mem_cons.mp h with rfl | h
          · omega
          · have := ih h
            omega
      · have := ih h
        omega

theorem pairwise_startsAfterFeeds (offset : Nat) (cs : List Char) :
    (startsAfterFeeds offset cs).Pairwise (· < ·) := by
  induction cs generalizing offset with
  | nil => exact List.Pairwise.nil
  | cons c cs ih =>
      rw [startsAfterFeeds]
      split
      · refine List.pairwise_cons.mpr ⟨?_, ih _⟩
        intro start hstart
        exact (bounds_of_mem_startsAfterFeeds hstart).1
      · exact ih _

/-- The lines of a text start at increasing offsets. -/
theorem pairwise_lineStartsOf (text : String) :
    (lineStartsOf text).toList.Pairwise (· < ·) := by
  refine List.pairwise_cons.mpr ⟨?_, pairwise_startsAfterFeeds 0 _⟩
  intro start hstart
  exact (bounds_of_mem_startsAfterFeeds hstart).1

/-- A line feed takes one byte. -/
theorem count_feed_le_byteLength (cs : List Char) : cs.count '\n' ≤ Text.byteLength cs := by
  induction cs with
  | nil => simp
  | cons c cs ih =>
      have hpos := c.utf8Size_pos
      rw [List.count_cons, Text.byteLength_cons]
      split <;> omega

/-! ## Search by halving -/

/-- The search ends at the one index up to which all starts are at most the offset, and
past which none is. -/
theorem TextDocument.lastStart_eq {starts : Array Nat} {offset lo hi n : Nat}
    (hlo : lo ≤ n) (hhi : n < hi)
    (hbelow : ∀ j ≤ n, starts.getD j 0 ≤ offset)
    (habove : ∀ j, n < j → j < hi → offset < starts.getD j 0) :
    lastStart starts offset lo hi = n := by
  fun_induction lastStart starts offset lo hi with
  | case1 lo hi hstop => omega
  | case2 lo hi hgo mid hmid ih =>
      -- The upper half is kept: `mid` is not past `n`, as its start is not past the offset.
      have hmn : mid ≤ n := by
        apply Nat.le_of_not_lt
        intro hlt
        have := habove mid hlt (by omega)
        omega
      exact ih hmn hhi habove
  | case3 lo hi hgo mid hmid ih =>
      have hnm : n < mid := by
        apply Nat.lt_of_not_le
        intro hle
        exact hmid (hbelow mid hle)
      exact ih hlo hnm (fun j hj hjmid => habove j hj (by omega))

/-! ## The end of a line -/

namespace TextDocument

theorem stripReturn_of_getLast? {line : List Char} (h : line.getLast? ≠ some '\r') :
    stripReturn line = line := by
  rw [stripReturn, if_neg h]

theorem stripReturn_isPrefix (line : List Char) : stripReturn line <+: line := by
  unfold stripReturn
  split
  · exact List.dropLast_prefix line
  · exact List.prefix_rfl

/-- A carriage return is stripped from the end of what follows. -/
theorem stripReturn_append {front back : List Char} (hfront : front.getLast? ≠ some '\r') :
    stripReturn (front ++ back) = front ++ stripReturn back := by
  cases hback : back.getLast? with
  | none =>
      obtain rfl := List.getLast?_eq_none_iff.mp hback
      rw [List.append_nil, stripReturn_of_getLast? hfront, stripReturn_of_getLast? (by simp),
        List.append_nil]
  | some c =>
      have hne : back ≠ [] := by
        rintro rfl
        exact absurd hback (by simp)
      rw [stripReturn, List.getLast?_append, hback, Option.some_or, stripReturn, hback]
      split
      · rw [List.dropLast_append_of_ne_nil hne]
      · rfl

end TextDocument

/-! ## A line of a text -/

/-- Every text is a part without line feeds, and after it nothing or a line feed. -/
theorem exists_split_at_feed (cs : List Char) :
    ∃ front rest, cs = front ++ rest ∧ '\n' ∉ front ∧ (rest = [] ∨ rest.head? = some '\n') := by
  refine ⟨cs.takeWhile (· ≠ '\n'), cs.dropWhile (· ≠ '\n'),
    List.takeWhile_append_dropWhile.symm, ?_, ?_⟩
  · intro hmem
    simpa using List.all_eq_true.mp List.all_takeWhile _ hmem
  · have hhead := List.head?_dropWhile_not (· ≠ '\n') cs
    cases hfirst : (cs.dropWhile (· ≠ '\n')).head? with
    | none => exact .inl (List.head?_eq_none_iff.mp hfirst)
    | some c =>
        rw [hfirst] at hhead
        exact .inr (by simpa using hhead)

/-- `line` is a whole line of the text `cs`, its terminator aside: `before` stands before it
and `after` follows. -/
structure IsLine (cs before line after : List Char) : Prop where
  text_eq : cs = before ++ (line ++ after)
  starts : before = [] ∨ before.getLast? = some '\n'
  no_feed : '\n' ∉ line
  stops : after = [] ∨ after.head? = some '\n'

/-- Where a line starts with `front`, it goes on up to the next line feed. -/
theorem exists_isLine_of_start {before front : List Char}
    (hbefore : before = [] ∨ before.getLast? = some '\n') (hfront : '\n' ∉ front)
    (after : List Char) :
    ∃ back rest, IsLine (before ++ (front ++ after)) before (front ++ back) rest ∧
      after = back ++ rest := by
  obtain ⟨back, rest, rfl, hback, hrest⟩ := exists_split_at_feed after
  refine ⟨back, rest, ⟨by simp, hbefore, ?_, hrest⟩, rfl⟩
  simp [hfront, hback]

namespace IsLine

variable {cs before line after : List Char}

/-- The line starts where the text before it ends. -/
theorem getElem?_starts (h : IsLine cs before line after) :
    (0 :: startsAfterFeeds 0 cs)[before.count '\n']? = some (Text.byteLength before) := by
  rw [h.text_eq, startsAfterFeeds_append]
  rcases h.starts with rfl | hlast
  · rfl
  · -- The last feed before the line is the one whose start is asked for.
    obtain ⟨front, rfl⟩ := List.getLast?_eq_some_iff.mp hlast
    have hlen := length_startsAfterFeeds 0 front
    simp [startsAfterFeeds_append, startsAfterFeeds, List.count_append, ← hlen]

/-- The next line, if there is one, starts past the line and its line feed. -/
theorem getElem?_next_start (h : IsLine cs before line after) :
    (0 :: startsAfterFeeds 0 cs)[before.count '\n' + 1]? =
      if after = [] then none else some (Text.byteLength before + Text.byteLength line + 1) := by
  rw [h.text_eq, startsAfterFeeds_append, startsAfterFeeds_append,
    startsAfterFeeds_of_notMem h.no_feed, List.getElem?_cons_succ,
    List.getElem?_append_right (Nat.le_of_eq (length_startsAfterFeeds ..)), length_startsAfterFeeds]
  rcases h.stops with rfl | hfeed
  · simp [startsAfterFeeds]
  · obtain ⟨rest, rfl⟩ := List.head?_eq_some_iff.mp hfeed
    simp [startsAfterFeeds]

/-- The line that follows. -/
theorem next {next : List Char} (h : IsLine cs before line ('\n' :: (next ++ after)))
    (hnext : '\n' ∉ next) (hafter : after = [] ∨ after.head? = some '\n') :
    IsLine cs (before ++ (line ++ ['\n'])) next after where
  text_eq := by rw [h.text_eq]; simp
  starts := .inr (by simp)
  no_feed := hnext
  stops := hafter

/-- The number of the next line is one more. -/
theorem count_feed_next (h : IsLine cs before line after) :
    (before ++ (line ++ ['\n'])).count '\n' = before.count '\n' + 1 := by
  simp [List.count_append, List.count_eq_zero.mpr h.no_feed]

/-- Where a line feed and `inner` follow a line, the next line takes from `inner` what stands
before its first line feed, or all of it. -/
theorem exists_next {inner : List Char} (h : IsLine cs before line ('\n' :: (inner ++ after)))
    (hafter : after = [] ∨ after.head? = some '\n') :
    ∃ next rest, inner = next ++ rest ∧
      IsLine cs (before ++ (line ++ ['\n'])) next (rest ++ after) ∧
      (rest = [] ∨ rest.head? = some '\n') := by
  obtain ⟨next, rest, rfl, hnext, hrest⟩ := exists_split_at_feed inner
  refine ⟨next, rest, rfl, IsLine.next (by rwa [← List.append_assoc]) hnext ?_, hrest⟩
  rcases hrest with rfl | hhead
  · rwa [List.nil_append]
  · exact .inr (by rw [List.head?_append, hhead, Option.some_or])

end IsLine

namespace TextDocument

variable {document : TextDocument} {before line after : List Char}

/-- The number of a line is the number of line feeds before it. -/
theorem getElem?_lineStarts_count (h : IsLine document.text.toList before line after) :
    document.lineStarts[before.count '\n']? = some (Text.byteLength before) := by
  rw [document.lineStarts_eq, lineStartsOf, List.getElem?_toArray]
  exact h.getElem?_starts

theorem count_feed_lt_lineCount (h : IsLine document.text.toList before line after) :
    before.count '\n' < document.lineCount :=
  (Array.getElem?_eq_some_iff.mp (getElem?_lineStarts_count h)).1

theorem getElem?_lineStarts_count_succ (h : IsLine document.text.toList before line after) :
    document.lineStarts[before.count '\n' + 1]? =
      if after = [] then none
      else some (Text.byteLength before + Text.byteLength line + 1) := by
  rw [document.lineStarts_eq, lineStartsOf, List.getElem?_toArray]
  exact h.getElem?_next_start

theorem byteLength_of_isLine (h : IsLine document.text.toList before line after) :
    document.byteLength =
      Text.byteLength before + (Text.byteLength line + Text.byteLength after) := by
  rw [TextDocument.byteLength, Text.size, h.text_eq, Text.byteLength_append,
    Text.byteLength_append]

/-- A document gives back every line of its text, without a carriage return at its end. -/
theorem lineChars_count (h : IsLine document.text.toList before line after) :
    document.lineChars (before.count '\n') = some (stripReturn line) := by
  have hcut (stop : Nat) (hstop : stop = Text.byteLength before + Text.byteLength line) :
      Text.takeBytes (stop - Text.byteLength before)
        (Text.dropBytes (Text.byteLength before) document.text.toList) = line := by
    rw [hstop, h.text_eq, Text.dropBytes_byteLength_append, Nat.add_sub_cancel_left,
      Text.takeBytes_byteLength_append]
  rw [lineChars, getElem?_lineStarts_count h, Option.map_some,
    getElem?_lineStarts_count_succ h]
  -- The line ends where the text ends, or one byte before the next line starts.
  by_cases hafter : after = []
  · have hlen := byteLength_of_isLine h
    rw [hafter, Text.byteLength_nil, Nat.add_zero] at hlen
    simp only [hafter, if_true]
    rw [hcut _ hlen]
  · simp only [hafter, if_false]
    rw [hcut _ (Nat.add_sub_cancel ..)]

/-- A later line starts no earlier. -/
theorem lineStarts_mono {i j a b : Nat} (hi : document.lineStarts[i]? = some a)
    (hj : document.lineStarts[j]? = some b) (hij : i ≤ j) : a ≤ b := by
  have hsorted := pairwise_lineStartsOf document.text
  rw [← document.lineStarts_eq] at hsorted
  obtain ⟨hisize, rfl⟩ := Array.getElem?_eq_some_iff.mp hi
  obtain ⟨hjsize, rfl⟩ := Array.getElem?_eq_some_iff.mp hj
  rcases Nat.lt_or_eq_of_le hij with hlt | rfl
  · exact Nat.le_of_lt (List.pairwise_iff_getElem.mp hsorted i j hisize hjsize hlt)
  · exact Nat.le_refl _

/-- An offset in a line lies at or past the start of that line, and before the next. -/
theorem lastStart_in_line (h : IsLine document.text.toList before line after) {k : Nat}
    (hk : k ≤ Text.byteLength line) :
    lastStart document.lineStarts (Text.byteLength before + k) 0 document.lineStarts.size =
      before.count '\n' := by
  have hstart := getElem?_lineStarts_count h
  have hnext := getElem?_lineStarts_count_succ h
  have hcount : before.count '\n' < document.lineStarts.size := count_feed_lt_lineCount h
  apply lastStart_eq (Nat.zero_le _) hcount
  · intro j hj
    have hjsize : j < document.lineStarts.size := Nat.lt_of_le_of_lt hj hcount
    have hjle := lineStarts_mono (Array.getElem?_eq_getElem hjsize) hstart hj
    rw [Array.getD_eq_getD_getElem?, Array.getElem?_eq_getElem hjsize, Option.getD_some]
    omega
  · -- Past this line there is another one, and it starts past the feed.
    intro j hj hjsize
    have hnextsize : before.count '\n' + 1 < document.lineStarts.size := by omega
    rw [Array.getElem?_eq_getElem hnextsize] at hnext
    split at hnext
    · exact absurd hnext (by simp)
    · have hle := lineStarts_mono (Array.getElem?_eq_getElem hnextsize)
        (Array.getElem?_eq_getElem hjsize) hj
      rw [Option.some.inj hnext] at hle
      rw [Array.getD_eq_getD_getElem?, Array.getElem?_eq_getElem hjsize, Option.getD_some]
      omega

/-- An offset in a line turns into the number of the line and the distance to its start. -/
theorem positionAt_in_line (h : IsLine document.text.toList before line after) {k : Nat}
    (hk : k ≤ Text.byteLength line) (hsize : document.byteLength < 0x100000000) :
    document.positionAt (Text.byteLength before + k) = ⟨before.count '\n', k⟩ := by
  have hlen := byteLength_of_isLine h
  have hcount := count_feed_le_byteLength before
  have hmin : min (Text.byteLength before + k) document.byteLength =
      Text.byteLength before + k := by omega
  rw [positionAt, hmin, lastStart_in_line h hk, Array.getD_eq_getD_getElem?,
    getElem?_lineStarts_count h, Option.getD_some, Nat.add_sub_cancel_left]
  rw [Text.saturate_of_lt (by omega), Text.saturate_of_lt (by omega)]

end TextDocument

end StyleCompletion
