/-
Blank lines below the opening of a block.

A line of blanks says nothing of blocks.  So a line that opens a block decides for the lines of
blanks below it: on each of them the search for the block around the cursor finds that block.
-/
import StyleCompletion.Proofs.Block.Opening
import StyleCompletion.Proofs.Block.Search
import StyleCompletion.Proofs.Document.Joined
import StyleCompletion.Proofs.Text.Runs

namespace StyleCompletion

/-! ## A line of blanks -/

/-- A line of blanks says nothing of blocks. -/
theorem lineRole_of_isBlank {cs : List Char} (h : ∀ c ∈ cs, Text.isBlank c = true) :
    lineRole cs = .plain :=
  lineRole_eq_plain_iff.mpr
    ⟨fun _ hreading => Text.notMem_of_forall h (by decide) hreading.brace_mem,
      Text.notMem_of_forall h (by decide)⟩

theorem DocumentView.isSilent_of_isBlank {document : TextDocument}
    {before line after : List Char} (hline : IsLine document.text.toList before line after)
    (hblank : ∀ c ∈ line, Text.isBlank c = true) :
    document.view.IsSilent (before.count '\n') := by
  intro text htext
  obtain rfl := Option.some.inj ((TextDocument.lineText_of_isLine hline).symm.trans htext)
  rw [String.toList_ofList]
  exact lineRole_of_isBlank fun c hc =>
    hblank c ((TextDocument.stripReturn_isPrefix line).subset hc)

/-! ## The lines below -/

section

variable {document : TextDocument} {n : Nat} {before line inner after : List Char}
  (hline : IsLine document.text.toList before line ('\n' :: (inner ++ after)))
  (hinner : ∀ c ∈ inner, Text.isBlank c = true)
  (hafter : after = [] ∨ after.head? = some '\n')

include hline hinner hafter

/-- What is decided on a line is decided on the next one, if that takes blanks only. -/
theorem NearestRole.exists_next {role : LineRole}
    (hnearest : NearestRole document.view (before.count '\n' + 1) n role) :
    ∃ next rest, inner = next ++ rest ∧ (rest = [] ∨ rest.head? = some '\n') ∧
      IsLine document.text.toList (before ++ (line ++ ['\n'])) next (rest ++ after) ∧
      NearestRole document.view ((before ++ (line ++ ['\n'])).count '\n' + 1) n role := by
  obtain ⟨next, rest, rfl, hnext, hrest⟩ := hline.exists_next hafter
  have hsilent := DocumentView.isSilent_of_isBlank hnext
    (fun c hc => hinner c (List.mem_append_left _ hc))
  rw [hline.count_feed_next] at hsilent
  exact ⟨next, rest, rfl, hrest, hnext, hline.count_feed_next ▸ hnearest.succ hsilent⟩

/-- A line decides for all lines of blanks below it: for the one after each line feed in
`inner`. -/
theorem NearestRole.below_blanks {role : LineRole} {k : Nat}
    (hnearest : NearestRole document.view (before.count '\n' + 1) n role)
    (hk : k ≤ inner.count '\n') :
    NearestRole document.view (before.count '\n' + 1 + (k + 1)) n role := by
  induction k generalizing before line inner with
  | zero =>
      obtain ⟨next, rest, -, -, -, hnext⟩ := hnearest.exists_next hline hinner hafter
      rwa [hline.count_feed_next] at hnext
  | succ k ih =>
      obtain ⟨next, rest, rfl, hrest, hnextLine, hnext⟩ :=
        hnearest.exists_next hline hinner hafter
      rw [List.count_append, List.count_eq_zero.mpr hnextLine.no_feed, Nat.zero_add] at hk
      -- There are line feeds to come, so the next line ends in one.
      rcases hrest with rfl | hhead
      · exact absurd hk (by simp)
      obtain ⟨below, rfl⟩ := List.head?_eq_some_iff.mp hhead
      have hbelow := ih hnextLine (fun c hc => hinner c (by simp [hc])) hnext (by simpa using hk)
      rwa [hline.count_feed_next, Nat.add_assoc _ 1, Nat.add_comm 1] at hbelow

/-- On a line that opens a block, and on the lines of blanks below it, that block is the one
around the cursor. -/
theorem resolveParent_below_opening {name : List Char} {k : Nat}
    (hopens : document.view.HasRole (before.count '\n') (.opens name))
    (hfrom : before.count '\n' ≤ k) (hto : k ≤ before.count '\n' + 1 + inner.count '\n') :
    resolveParent document.view k = pure (some (String.ofList name)) := by
  have hlt : k < document.lineCount := by
    rw [TextDocument.lineCount_eq_count, hline.text_eq]
    simp only [List.count_append, List.count_cons_self]
    omega
  have hnearest : NearestRole document.view (k + 1) (before.count '\n') (.opens name) := by
    obtain ⟨below, rfl⟩ := Nat.exists_eq_add_of_le hfrom
    cases below with
    | zero => exact hopens.nearestRole
    | succ below =>
        have hbelow := hopens.nearestRole.below_blanks hline hinner hafter (k := below) (by omega)
        rwa [Nat.add_right_comm] at hbelow
  rw [resolveParent_of_lt hlt, hnearest.parentAbove_opens]

end

end StyleCompletion
