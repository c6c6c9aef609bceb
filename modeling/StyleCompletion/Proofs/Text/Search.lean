/-
Where a text is cut at a mark.

A mark is a run of characters whose first one stands nowhere else in it, such as `</string>`.
Two occurrences of a mark do not overlap, so a text without the mark does not make up one
together with the start of the next, and a search for the mark passes over the whole text.
-/
import StyleCompletion.Text.Search

namespace StyleCompletion.Text

variable {α : Type}

/-- A part at the start of a text that lacks a character ends before it. -/
theorem exists_between_of_append_eq {c : α} {start rest front back : List α}
    (h : start ++ rest = front ++ c :: back) (hc : c ∉ start) :
    ∃ between, front = start ++ between ∧ rest = between ++ c :: back := by
  rcases List.append_eq_append_iff.mp h with hfront | ⟨beyond, hstart, hback⟩
  · exact hfront
  · cases beyond with
    | nil =>
        refine ⟨[], ?_, hback.symm⟩
        rw [hstart, List.append_nil, List.append_nil]
    | cons d beyond =>
        -- The part would reach over the character and so hold it.
        obtain ⟨rfl, -⟩ := List.cons.inj hback
        exact absurd (hstart ▸ List.mem_append_right _ List.mem_cons_self) hc

section

variable [DecidableEq α] {c : α} {run : List α} (hc : c ∉ run)

include hc

/-- A run without a character ends where that character first stands, -/
theorem takeWhile_ne_append (rest : List α) : (run ++ c :: rest).takeWhile (· ≠ c) = run := by
  have hpass : ∀ d ∈ run, decide (d ≠ c) = true := by simpa using List.forall_mem_ne'.mpr hc
  rw [List.takeWhile_append_of_pos hpass, List.takeWhile_cons_of_neg (by simp), List.append_nil]

/-- and the character is the first one after it. -/
theorem dropWhile_ne_append (rest : List α) :
    (run ++ c :: rest).dropWhile (· ≠ c) = c :: rest := by
  have hpass : ∀ d ∈ run, decide (d ≠ c) = true := by simpa using List.forall_mem_ne'.mpr hc
  rw [List.dropWhile_append_of_pos hpass, List.dropWhile_cons_of_neg (by simp)]

end

section Mark

variable {c : α} {tail : List α} (hmark : c ∉ tail)

include hmark

/-- A text at the start of which there is no mark goes on without one, whether it ends there or
the first character of the mark follows. -/
theorem not_isPrefix_append {text rest : List α} (hne : text ≠ [])
    (htext : ¬(c :: tail) <+: text) (hrest : ∀ d ∈ rest.head?, d = c) :
    ¬(c :: tail) <+: text ++ rest := by
  rintro ⟨after, hafter⟩
  cases rest with
  | nil => exact htext ⟨after, by rw [hafter, List.append_nil]⟩
  | cons d rest =>
      obtain rfl : d = c := hrest d rfl
      cases text with
      | nil => exact hne rfl
      | cons e text =>
          obtain ⟨rfl, hsplit⟩ := List.cons.inj hafter
          obtain ⟨between, rfl, -⟩ := exists_between_of_append_eq hsplit hmark
          exact htext ⟨between, rfl⟩

/-- The first mark behind a text without one is the one that follows it. -/
theorem splitAtFirst?_append_mark [BEq α] [LawfulBEq α] {text : List α}
    (htext : ¬(c :: tail) <:+: text) (rest : List α) :
    splitAtFirst? (c :: tail) (text ++ (c :: tail ++ rest)) = some (text, rest) := by
  induction text with
  | nil =>
      have hstart : (c :: tail).isPrefixOf (c :: tail ++ rest) = true :=
        List.isPrefixOf_iff_prefix.mpr (List.prefix_append _ _)
      rw [List.nil_append, List.cons_append, splitAtFirst?, ← List.cons_append, if_pos hstart,
        List.drop_left]
  | cons d text ih =>
      have hnone : ¬(c :: tail) <+: d :: text ++ (c :: tail ++ rest) :=
        not_isPrefix_append hmark (by simp) (fun h => htext h.isInfix) (by simp)
      have hlater : ¬(c :: tail) <:+: text := fun h => htext (List.infix_cons h)
      rw [← List.isPrefixOf_iff_prefix] at hnone
      rw [List.cons_append, splitAtFirst?, ← List.cons_append, if_neg hnone, ih hlater]
      rfl

end Mark

end StyleCompletion.Text
