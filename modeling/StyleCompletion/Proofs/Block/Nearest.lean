/-
The line that decides which block is around a cursor.

A line tells if it holds a closing brace or can be read as the opening of a block.  The search is
decided at the nearest line that tells, at the cursor's line or above it, and by the text of that
line alone: it names a block if it opens one and holds no closing brace, but for one that is the
first character of the name.
-/
import StyleCompletion.Proofs.Block.Opening
import StyleCompletion.Proofs.Block.Search

namespace StyleCompletion

/-! ## Lines that leave a block open -/

/-- The line opens a block, `name` is the longest name that it can be read with, and a closing
brace stands in it at most as the first character of that name. -/
structure LeavesOpen (line name : List Char) : Prop where
  opening : IsBlockOpening line name
  brace : ∀ before after, line = before ++ '\x7d' :: after →
    (∀ c ∈ before, Text.isBlank c = true) ∧ name.head? = some '\x7d' ∧ '\x7d' ∉ after

/-- What an opening can be read with starts at the first character that is no blank. -/
theorem IsBlockOpening.exists_first {line name : List Char} (h : IsBlockOpening line name) :
    ∃ indent first rest, line = indent ++ first :: rest ∧
      (∀ c ∈ indent, Text.isBlank c = true) ∧ Text.isBlank first = false ∧
      Text.trimLeft line = first :: rest ∧ name.head? = some first := by
  obtain ⟨hname, hsolid, after, htrim, -⟩ := blockReading_iff.mp h.1
  obtain ⟨first, tail, rfl⟩ := List.exists_cons_of_ne_nil hname
  obtain ⟨indent, hindent, hfirst, hline⟩ := Text.trimLeft_eq_cons_iff.mp htrim
  exact ⟨indent, first, tail ++ after, hline, hindent, hfirst, htrim, rfl⟩

/-- A closing brace that does not stand behind the first character after the blanks is that
character. -/
theorem eq_of_brace_notMem {indent rest before after : List Char} {first : Char}
    (hindent : ∀ c ∈ indent, Text.isBlank c = true) (hrest : '\x7d' ∉ rest)
    (h : before ++ '\x7d' :: after = indent ++ first :: rest) :
    before = indent ∧ first = '\x7d' ∧ after = rest := by
  rcases List.append_eq_append_iff.mp h with
    ⟨middle, hsplit, hback⟩ | ⟨middle, hsplit, hback⟩
  · cases middle with
    | nil =>
        obtain ⟨rfl, rfl⟩ := List.cons.inj hback
        exact ⟨by simp [hsplit], rfl, rfl⟩
    | cons c middle =>
        -- The brace would be one of the blanks.
        obtain ⟨rfl, -⟩ := List.cons.inj hback
        exact absurd (hindent '\x7d' (by simp [hsplit])) (by decide)
  · cases middle with
    | nil =>
        obtain ⟨rfl, rfl⟩ := List.cons.inj hback
        exact ⟨by simp [hsplit], rfl, rfl⟩
    | cons c middle =>
        obtain ⟨-, rfl⟩ := List.cons.inj hback
        exact absurd (by simp) hrest

/-- A line has the role of an opening exactly if it leaves a block open. -/
theorem lineRole_eq_opens_iff_leavesOpen {line name : List Char} :
    lineRole line = .opens name ↔ LeavesOpen line name := by
  rw [lineRole_eq_opens_iff]
  constructor
  · rintro ⟨hopening, hclose⟩
    refine ⟨hopening, fun before after hline => ?_⟩
    obtain ⟨indent, first, rest, hsplit, hindent, -, htrim, hhead⟩ := hopening.exists_first
    rw [htrim, List.tail_cons] at hclose
    obtain ⟨rfl, rfl, rfl⟩ := eq_of_brace_notMem hindent hclose (hline.symm.trans hsplit)
    exact ⟨hindent, hhead, hclose⟩
  · rintro ⟨hopening, hbrace⟩
    refine ⟨hopening, fun hmem => ?_⟩
    obtain ⟨indent, first, rest, hsplit, -, hfirst, htrim, -⟩ := hopening.exists_first
    rw [htrim, List.tail_cons] at hmem
    obtain ⟨front, back, rfl⟩ := List.append_of_mem hmem
    -- The first character of the name stands before this brace and is no blank.
    have hblank := (hbrace (indent ++ first :: front) back (by simp [hsplit])).1 first (by simp)
    exact absurd hblank (by simp [hfirst])

/-! ## Lines that tell -/

namespace DocumentView

variable {document : DocumentView} {line n : Nat} {text : String}

/-- Line `n` is there, and holds a closing brace or can be read as the opening of a block. -/
def Tells (document : DocumentView) (n : Nat) : Prop :=
  ∃ text, document.lineText n = some text ∧
    ('\x7d' ∈ text.toList ∨ ∃ name, BlockReading text.toList name)

/-- A line is silent if it does not tell. -/
theorem isSilent_iff_not_tells : document.IsSilent n ↔ ¬document.Tells n := by
  simp only [IsSilent, Tells, lineRole_eq_plain_iff, not_exists, not_and, not_or]
  exact forall₂_congr fun text htext => and_comm

/-- Line `n` is the last one that tells among the lines of the document up to line `line`. -/
structure IsNearestTelling (document : DocumentView) (line n : Nat) : Prop where
  le_line : n ≤ line
  lt_lineCount : n < document.lineCount
  tells : document.Tells n
  greatest : ∀ k ≤ line, k < document.lineCount → document.Tells k → k ≤ n

theorem IsNearestTelling.nearestRole (h : document.IsNearestTelling line n)
    (htext : document.lineText n = some text) :
    NearestRole document (min (line + 1) document.lineCount) n (lineRole text.toList) where
  lt := by
    have hle := h.le_line
    have hlt := h.lt_lineCount
    omega
  hasRole := ⟨text, htext, rfl⟩
  silent k hk hstop := by
    rw [isSilent_iff_not_tells]
    intro htells
    have hle := h.greatest k (by omega) (by omega) htells
    omega

theorem IsNearestTelling.of_nearestRole {role : LineRole} (hrole : role ≠ .plain)
    (h : NearestRole document (min (line + 1) document.lineCount) n role) :
    document.IsNearestTelling line n where
  le_line := by
    have hlt := h.lt
    omega
  lt_lineCount := by
    have hlt := h.lt
    omega
  tells := by
    refine Classical.byContradiction fun hnot => ?_
    obtain ⟨text, htext, rfl⟩ := h.hasRole
    exact hrole (isSilent_iff_not_tells.mpr hnot text htext)
  greatest k hline hcount htells := by
    refine Nat.le_of_not_lt fun hlt => ?_
    exact isSilent_iff_not_tells.mp (h.silent k hlt (by omega)) htells

/-- Unless no line tells there is a nearest one that does. -/
theorem not_tells_or_exists_nearest (document : DocumentView) (line : Nat) :
    (∀ n ≤ line, n < document.lineCount → ¬document.Tells n) ∨
      ∃ n, document.IsNearestTelling line n := by
  rcases silent_or_nearestRole document (min (line + 1) document.lineCount) with
    hsilent | ⟨n, name, hn⟩ | ⟨n, hn⟩
  · exact .inl fun n hline hcount => isSilent_iff_not_tells.mp (hsilent n (by omega))
  · exact .inr ⟨n, .of_nearestRole (by simp) hn⟩
  · exact .inr ⟨n, .of_nearestRole (by simp) hn⟩

theorem value_resolveParent_of_not_tells
    (h : ∀ n ≤ line, n < document.lineCount → ¬document.Tells n) :
    (resolveParent document line).value = none := by
  refine value_parentAbove_eq_none_iff.mpr (.inl fun n hn => ?_)
  exact isSilent_iff_not_tells.mpr (h n (by omega) (by omega))

/-- The block that is found is the one that the nearest line that tells leaves open. -/
theorem IsNearestTelling.value_resolveParent (h : document.IsNearestTelling line n)
    (htext : document.lineText n = some text) {name : String} :
    (resolveParent document line).value = some name ↔ LeavesOpen text.toList name.toList := by
  have hnearest := h.nearestRole htext
  rw [resolveParent, ← lineRole_eq_opens_iff_leavesOpen]
  cases hrole : lineRole text.toList with
  | opens found =>
      rw [hrole] at hnearest
      rw [hnearest.parentAbove_opens]
      simp only [Logged.value_pure, Option.some.injEq, LineRole.opens.injEq]
      rw [← String.toList_inj, String.toList_ofList]
  | closes =>
      rw [hrole] at hnearest
      rw [hnearest.parentAbove_closes]
      simp [Logged.reporting]
  | plain =>
      -- A line that tells is not plain.
      refine absurd h.tells (isSilent_iff_not_tells.mp fun other hother => ?_)
      rwa [← Option.some.inj (htext.symm.trans hother)]

end DocumentView

/-- The search for the block around a cursor is decided at the nearest line that tells.  Without
such a line nothing is found.  Otherwise the result depends on the text of that line alone, and is
the longest name that it can be read with as an opening, provided that a closing brace stands in it
at most as the first character of that name. -/
theorem resolveParent_decided_at_nearest (document : DocumentView) (line : Nat) :
    ((∀ n ≤ line, n < document.lineCount → ¬document.Tells n) ∧
      (resolveParent document line).value = none) ∨
    ∃ n text, document.IsNearestTelling line n ∧ document.lineText n = some text ∧
      (∀ name, (resolveParent document line).value = some name ↔
        LeavesOpen text.toList name.toList) ∧
      ∀ other otherLine m, other.IsNearestTelling otherLine m → other.lineText m = some text →
        (resolveParent other otherLine).value = (resolveParent document line).value := by
  rcases document.not_tells_or_exists_nearest line with hnone | ⟨n, hnearest⟩
  · exact .inl ⟨hnone, DocumentView.value_resolveParent_of_not_tells hnone⟩
  · obtain ⟨text, htext, -⟩ := hnearest.tells
    refine .inr ⟨n, text, hnearest, htext, fun name => hnearest.value_resolveParent htext, ?_⟩
    intro other otherLine m hother hsame
    refine Option.ext fun name => ?_
    rw [hother.value_resolveParent hsame, hnearest.value_resolveParent htext]

-- The cursor is far below the document, the line above the last one is missing, and the name
-- holds a colon and starts with the only closing brace.
example :
    (resolveParent (.ofPartialLines #[some "font: \x7b", some " \x7da:b : \x7b", none, some "x: 1"])
      0xFFFFFFFFFFFFFFFF).value = some "\x7da:b" := by decide

end StyleCompletion
