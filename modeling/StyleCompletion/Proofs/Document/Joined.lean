/-
Texts joined from lines.

Lines are joined to a text by ends, each either a line feed or a carriage return and a line
feed.  The document of the text shows the lines as they were, whichever ends were chosen, so a
reader of lines cannot tell it from the list of the lines itself.
-/
import StyleCompletion.Engine
import StyleCompletion.Proofs.Document.Lines

namespace StyleCompletion

/-! ## Joining -/

/-- What stands between a line and the next one. -/
inductive LineEnd where
  | feed
  | returnFeed
deriving DecidableEq, Repr

namespace LineEnd

/-- What the end has before its line feed. -/
def beforeFeed : LineEnd → List Char
  | feed => []
  | returnFeed => ['\r']

theorem feed_notMem_beforeFeed (lineEnd : LineEnd) : '\n' ∉ lineEnd.beforeFeed := by
  cases lineEnd <;> decide

end LineEnd

/-- The characters of the line `first` and the lines after it, each of which follows its end. -/
def joinedChars (first : String) : List (LineEnd × String) → List Char
  | [] => first.toList
  | (lineEnd, next) :: rest =>
      (first.toList ++ lineEnd.beforeFeed) ++ '\n' :: joinedChars next rest

/-- The text of the line `first` and the lines after it, each of which follows its end. -/
def joinLines (first : String) (rest : List (LineEnd × String)) : String :=
  String.ofList (joinedChars first rest)

/-- A line that can be told from its end: it has no line feed, and its last character is no
carriage return. -/
structure IsJoinable (line : String) : Prop where
  no_feed : '\n' ∉ line.toList
  no_return : line.toList.getLast? ≠ some '\r'

instance (line : String) : Decidable (IsJoinable line) :=
  decidable_of_iff ('\n' ∉ line.toList ∧ line.toList.getLast? ≠ some '\r')
    ⟨fun h => ⟨h.1, h.2⟩, fun h => ⟨h.no_feed, h.no_return⟩⟩

/-! ## The lines of a joined text -/

/-- A line is shown without its end. -/
theorem IsJoinable.stripReturn_append {line : String} (h : IsJoinable line) (lineEnd : LineEnd) :
    TextDocument.stripReturn (line.toList ++ lineEnd.beforeFeed) = line.toList := by
  cases lineEnd with
  | feed => simp [TextDocument.stripReturn, LineEnd.beforeFeed, h.no_return]
  | returnFeed => simp [TextDocument.stripReturn, LineEnd.beforeFeed]

theorem count_feed_joinedChars {first : String} {rest : List (LineEnd × String)}
    (h : ∀ line ∈ first :: rest.map Prod.snd, IsJoinable line) :
    (joinedChars first rest).count '\n' = rest.length := by
  induction rest generalizing first with
  | nil => exact List.count_eq_zero.mpr (h first (by simp)).no_feed
  | cons entry rest ih =>
      obtain ⟨lineEnd, next⟩ := entry
      obtain ⟨hfirst, hrest⟩ := List.forall_mem_cons.mp h
      have hline : '\n' ∉ first.toList ++ lineEnd.beforeFeed := by
        simp [hfirst.no_feed, lineEnd.feed_notMem_beforeFeed]
      rw [joinedChars, List.count_append, List.count_eq_zero.mpr hline, List.count_cons_self,
        ih hrest, Nat.zero_add, List.length_cons]

namespace TextDocument

variable {document : TextDocument}

/-- There is one line more than there are line feeds. -/
theorem lineCount_eq_count (document : TextDocument) :
    document.lineCount = document.text.toList.count '\n' + 1 := by
  rw [lineCount, document.lineStarts_eq, lineStartsOf, List.size_toArray, List.length_cons,
    length_startsAfterFeeds]

theorem lineText_of_isLine {before line after : List Char}
    (h : IsLine document.text.toList before line after) :
    document.lineText (before.count '\n') = some (String.ofList (stripReturn line)) := by
  rw [lineText, lineChars_count h, Option.map_some]

/-- Past the last line there is no text. -/
theorem lineText_eq_none {n : Nat} (h : document.lineCount ≤ n) : document.lineText n = none := by
  have hstart : document.lineStarts[n]? = none := Array.getElem?_eq_none h
  rw [lineText, lineChars, hstart]
  rfl

/-- The lines of a joined text that follow `before` are the lines that were joined. -/
theorem lineText_joined (before : List Char) {first : String} {rest : List (LineEnd × String)}
    (h : ∀ line ∈ first :: rest.map Prod.snd, IsJoinable line)
    (htext : document.text.toList = before ++ joinedChars first rest)
    (hbefore : before = [] ∨ before.getLast? = some '\n') {i : Nat} (hi : i ≤ rest.length) :
    document.lineText (before.count '\n' + i) = (first :: rest.map Prod.snd)[i]? := by
  induction rest generalizing before first i with
  | nil =>
      obtain rfl : i = 0 := Nat.le_zero.mp hi
      have hfirst := h first (by simp)
      have hline : IsLine document.text.toList before first.toList [] :=
        ⟨by rw [htext, joinedChars, List.append_nil], hbefore, hfirst.no_feed, .inl rfl⟩
      have hstrip := hfirst.stripReturn_append .feed
      rw [LineEnd.beforeFeed, List.append_nil] at hstrip
      rw [Nat.add_zero, lineText_of_isLine hline, hstrip, String.ofList_toList]
      rfl
  | cons entry rest ih =>
      obtain ⟨lineEnd, next⟩ := entry
      obtain ⟨hfirst, hrest⟩ := List.forall_mem_cons.mp h
      have hfeed : '\n' ∉ first.toList ++ lineEnd.beforeFeed := by
        simp [hfirst.no_feed, lineEnd.feed_notMem_beforeFeed]
      have hline : IsLine document.text.toList before (first.toList ++ lineEnd.beforeFeed)
          ('\n' :: joinedChars next rest) :=
        ⟨by rw [htext, joinedChars], hbefore, hfeed, .inr rfl⟩
      cases i with
      | zero =>
          rw [Nat.add_zero, lineText_of_isLine hline, hfirst.stripReturn_append,
            String.ofList_toList]
          rfl
      | succ i =>
          -- The lines after the first one follow the text up to its line feed.
          have hcount : (before ++ (first.toList ++ lineEnd.beforeFeed) ++ ['\n']).count '\n' =
              before.count '\n' + 1 := by
            rw [List.count_append, List.count_append, List.count_eq_zero.mpr hfeed]
            rfl
          have hnext := ih (before ++ (first.toList ++ lineEnd.beforeFeed) ++ ['\n']) hrest
            (by rw [htext, joinedChars]; simp) (.inr (by simp)) (Nat.le_of_succ_le_succ hi)
          rw [hcount, Nat.add_assoc, Nat.add_comm 1 i] at hnext
          rw [hnext, List.map_cons, List.getElem?_cons_succ]

/-- The document of a joined text looks like the list of the lines. -/
theorem view_ofText_joinLines {first : String} {rest : List (LineEnd × String)}
    (h : ∀ line ∈ first :: rest.map Prod.snd, IsJoinable line) :
    (ofText (joinLines first rest)).view =
      DocumentView.ofLines (first :: rest.map Prod.snd).toArray := by
  have htext : (ofText (joinLines first rest)).text.toList = joinedChars first rest :=
    String.toList_ofList
  have hcount : (ofText (joinLines first rest)).lineCount =
      (first :: rest.map Prod.snd).toArray.size := by
    rw [lineCount_eq_count, htext, count_feed_joinedChars h]
    simp
  have hlines (i : Nat) : (ofText (joinLines first rest)).lineText i =
      (first :: rest.map Prod.snd).toArray[i]? := by
    rw [List.getElem?_toArray]
    rcases Nat.lt_or_ge i (first :: rest.map Prod.snd).length with hlt | hge
    · have hi : i ≤ rest.length := by simpa using Nat.le_of_lt_succ hlt
      have hline := lineText_joined [] h htext (.inl rfl) hi
      rwa [List.count_nil, Nat.zero_add] at hline
    · rw [List.getElem?_eq_none hge]
      exact lineText_eq_none (hcount ▸ hge)
  rw [view, DocumentView.ofLines, hcount, funext hlines]

/-- The document of a text joined from lines, with either end in each gap, has the lines of the
list and no others.  So the search for a block and a completion cannot tell them apart. -/
theorem joined_text_shows_its_lines {first : String} {rest : List (LineEnd × String)}
    (h : ∀ line ∈ first :: rest.map Prod.snd, IsJoinable line) :
    (ofText (joinLines first rest)).view.lineCount = (first :: rest.map Prod.snd).length ∧
    (∀ i, (ofText (joinLines first rest)).view.lineText i = (first :: rest.map Prod.snd)[i]?) ∧
    (∀ n, resolveParent (ofText (joinLines first rest)).view n =
      resolveParent (.ofLines (first :: rest.map Prod.snd).toArray) n) ∧
    ∀ (engine : Engine) (files : FileSystem) (path : Path) (position : Position),
      engine.complete files ⟨(ofText (joinLines first rest)).view, path, position⟩ =
        engine.complete files
          ⟨.ofLines (first :: rest.map Prod.snd).toArray, path, position⟩ := by
  rw [view_ofText_joinLines h]
  refine ⟨List.size_toArray .., fun i => ?_, fun n => rfl, fun engine files path position => rfl⟩
  exact List.getElem?_toArray ..

/-- Lines with both ends between them: an empty one, one with a carriage return inside, and an
empty last one. -/
def mixedEnds : List (LineEnd × String) :=
  [(.returnFeed, ""), (.feed, "a\rb"), (.returnFeed, "")]

/-- The lines are shown as they were, and the line past the last one is not there. -/
theorem joined_text_mixedEnds :
    (∀ line ∈ "é: \x7b" :: mixedEnds.map Prod.snd, IsJoinable line) ∧
    joinLines "é: \x7b" mixedEnds = "é: \x7b\r\n\na\rb\r\n" ∧
    (ofText "é: \x7b\r\n\na\rb\r\n").view.lineCount = 4 ∧
    (ofText "é: \x7b\r\n\na\rb\r\n").view.lineText 2 = some "a\rb" ∧
    (ofText "é: \x7b\r\n\na\rb\r\n").view.lineText 4 = none ∧
    resolveParent (ofText "é: \x7b\r\n\na\rb\r\n").view 3 =
      resolveParent (.ofLines #["é: \x7b", "", "a\rb", ""]) 3 := by
  have hlines : ∀ line ∈ "é: \x7b" :: mixedEnds.map Prod.snd, IsJoinable line := by decide
  have htext : joinLines "é: \x7b" mixedEnds = "é: \x7b\r\n\na\rb\r\n" := by decide
  obtain ⟨hcount, hline, hparent, -⟩ := joined_text_shows_its_lines hlines
  rw [htext] at hcount hline hparent
  exact ⟨hlines, htext, hcount, hline 2, hline 4, hparent 3⟩

end TextDocument

end StyleCompletion
