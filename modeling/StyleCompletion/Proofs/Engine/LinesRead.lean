/-
The lines that a completion reads.

The search for a block walks up from the cursor's line, so of a document it reads no line below
the cursor, and its number of lines only as far as it tells that the cursor's line is there.
All other parts of a completion read the cursor's line alone.
-/
import StyleCompletion.Proofs.Engine.Course

namespace StyleCompletion

/-! ## The search for a block -/

/-- What line `n` says of blocks, if it is there. -/
def DocumentView.role? (document : DocumentView) (n : Nat) : Option LineRole :=
  (document.lineText n).map fun line => lineRole line.toList

section

variable {document other : DocumentView}

/-- The search from a line reads what the lines above it say of blocks. -/
theorem parentAbove_congr {n : Nat} (h : ∀ k < n, document.role? k = other.role? k) :
    parentAbove document n = parentAbove other n := by
  induction n with
  | zero => rfl
  | succ n ih =>
      have hrole := h n (Nat.lt_succ_self n)
      have hrest := ih (fun k hk => h k (Nat.lt_succ_of_lt hk))
      rw [DocumentView.role?, DocumentView.role?] at hrole
      rw [parentAbove, parentAbove, hrest]
      -- The line is missing in both documents, or it has one role in both.
      cases hleft : document.lineText n with
      | none =>
          rw [hleft, Option.map_none, eq_comm, Option.map_eq_none_iff] at hrole
          rw [hrole]
      | some line =>
          rw [hleft, Option.map_some, eq_comm, Option.map_eq_some_iff] at hrole
          obtain ⟨text, hright, hrole⟩ := hrole
          rw [hright]
          simp only [hrole]

/-- The search from a line reads the lines up to it that there are by the number of lines. -/
theorem resolveParent_congr {line : Nat}
    (hcount : min (line + 1) document.lineCount = min (line + 1) other.lineCount)
    (hroles : ∀ k ≤ line, document.role? k = other.role? k) :
    resolveParent document line = resolveParent other line := by
  rw [resolveParent, resolveParent, ← hcount]
  apply parentAbove_congr
  intro k hk
  have hle : k ≤ line := by omega
  exact hroles k hle

/-- Two documents that have the line look alike to the search if they agree up to it. -/
theorem resolveParent_congr_of_lt {line : Nat} (hdocument : line < document.lineCount)
    (hother : line < other.lineCount)
    (hlines : ∀ k ≤ line, document.lineText k = other.lineText k) :
    resolveParent document line = resolveParent other line := by
  have hleft : min (line + 1) document.lineCount = line + 1 := Nat.min_eq_left hdocument
  have hright : min (line + 1) other.lineCount = line + 1 := Nat.min_eq_left hother
  apply resolveParent_congr (hleft.trans hright.symm)
  intro k hk
  rw [DocumentView.role?, DocumentView.role?, hlines k hk]

end

/-! ## A completion -/

/-- Two documents that have the cursor's line, with the same text in it and in all lines above
it, give the same result, whatever follows the line.  If a rule answers the request, or if no
property name is due, then the text of the cursor's line alone gives the result. -/
theorem Engine.complete_reads_up_to_cursor {document other : DocumentView} {position : Position}
    (hdocument : position.line < document.lineCount)
    (hother : position.line < other.lineCount)
    (hline : document.lineText position.line = other.lineText position.line)
    (engine : Engine) (files : FileSystem) (path : Path) :
    ((∀ n < position.line, document.lineText n = other.lineText n) →
      engine.complete files ⟨document, path, position⟩ =
        engine.complete files ⟨other, path, position⟩) ∧
    ∀ schema, (engine.store.get files).value.1 = .ok schema →
      (engine.ruleAnswer? schema files ⟨document, path, position⟩).isSome = true ∨
        Request.kind? ⟨document, path, position⟩ ≠ some .propertyName →
      engine.complete files ⟨document, path, position⟩ =
        engine.complete files ⟨other, path, position⟩ := by
  constructor
  · intro habove
    have hlines : ∀ n ≤ position.line, document.lineText n = other.lineText n := by
      intro n hn
      rcases Nat.lt_or_eq_of_le hn with hlt | rfl
      · exact habove n hlt
      · exact hline
    have hparent := resolveParent_congr_of_lt hdocument hother hlines
    apply Engine.complete_congr
    intro schema _
    exact Workspace.complete_congr hline (fun _ _ => hparent)
  · intro schema hschema hdecided
    apply Engine.complete_congr
    intro loaded hloaded
    obtain rfl : schema = loaded := Except.ok.inj (hschema.symm.trans hloaded)
    -- With an answer, or with another context, the block around the cursor is not looked for.
    refine Workspace.complete_congr hline (fun hnone hkind => ?_)
    rcases hdecided with hanswered | hother
    · rw [hnone] at hanswered
      exact absurd hanswered (by simp)
    · exact absurd hkind hother

/-- An engine with a property that has a block and one that has values. -/
def labelEngine : Engine where
  project := .ofCompanion fun _ => none
  store := .preloaded {
    properties := .ofList
      [("font", { type := some "Font" }), ("align", { values := some ["left", "right"] })]
    types := .ofList [("Font", { properties := ["fontSize", "fontFamily"] })] }

/-- A property name inside a block, and the same one with more lines below it; a value, and the
same one below another line. -/
theorem Engine.complete_labelEngine :
    labelEngine.complete FileTree.empty.asFileSystem
        ⟨.ofLines #["font: \x7b", "  fo"], ⟨"label.tss"⟩, ⟨1, 4⟩⟩ =
      labelEngine.complete FileTree.empty.asFileSystem
        ⟨.ofLines #["font: \x7b", "  fo", "\x7d", "x: \x7b"], ⟨"label.tss"⟩, ⟨1, 4⟩⟩ ∧
    Request.kind? ⟨.ofLines #["", "align: le"], ⟨"label.tss"⟩, ⟨1, 9⟩⟩ =
      some (.propertyValue "align") ∧
    labelEngine.complete FileTree.empty.asFileSystem
        ⟨.ofLines #["", "align: le"], ⟨"label.tss"⟩, ⟨1, 9⟩⟩ =
      labelEngine.complete FileTree.empty.asFileSystem
        ⟨.ofLines #["font: \x7b", "align: le", ""], ⟨"label.tss"⟩, ⟨1, 9⟩⟩ := by
  have hkind : Request.kind? ⟨.ofLines #["", "align: le"], ⟨"label.tss"⟩, ⟨1, 9⟩⟩ =
      some (.propertyValue "align") := by decide
  refine ⟨?_, hkind, ?_⟩
  · exact (Engine.complete_reads_up_to_cursor (by decide) (by decide) (by decide) labelEngine
      FileTree.empty.asFileSystem ⟨"label.tss"⟩).1 (by decide)
  · refine (Engine.complete_reads_up_to_cursor (by decide) (by decide) (by decide) labelEngine
      FileTree.empty.asFileSystem ⟨"label.tss"⟩).2 _ rfl (.inr ?_)
    rw [hkind]
    decide

end StyleCompletion
