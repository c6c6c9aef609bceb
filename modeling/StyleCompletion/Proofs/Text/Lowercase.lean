/-
Lower case of a text piece by piece.

The capital sigma is the one character whose lower case depends on its neighbours.  A text
without it is turned to lower case character by character, so the lower case of a start of the
text is a start of the lower case of the text, and what holds the longer text holds the start.
-/
import StyleCompletion.Matching

namespace StyleCompletion

namespace Text

/-- Without a capital sigma each character has its own lower case, whatever stands around it. -/
theorem lowerAfter_of_notMem {before cs : List Char} (h : 'Σ' ∉ cs) :
    lowerAfter before cs = cs.flatMap lowerChar := by
  induction cs generalizing before with
  | nil => rfl
  | cons c rest ih =>
      rw [List.mem_cons, not_or] at h
      obtain ⟨hc, hrest⟩ := h
      have hne : c ≠ 'Σ' := fun heq => hc heq.symm
      rw [lowerAfter, if_neg hne, ih hrest, List.flatMap_cons]

theorem lower_append {xs ys : List Char} (hxs : 'Σ' ∉ xs) (hys : 'Σ' ∉ ys) :
    lower (xs ++ ys) = lower xs ++ lower ys := by
  have happend : 'Σ' ∉ xs ++ ys := by simp [hxs, hys]
  rw [lower, lower, lower, lowerAfter_of_notMem happend, lowerAfter_of_notMem hxs,
    lowerAfter_of_notMem hys, List.flatMap_append]

end Text

/-- A candidate is accepted if its lower case holds that of the typed text, an empty one
included. -/
theorem candidateMatches_iff_isInfix {candidate typed : String} :
    candidateMatches candidate typed = true ↔
      Text.lower typed.toList <:+: Text.lower candidate.toList := by
  rw [candidateMatches, Bool.or_eq_true, Text.occursIn_iff_isInfix, String.isEmpty_iff]
  constructor
  · rintro (rfl | h)
    · exact List.nil_infix
    · exact h
  · exact Or.inr

/-- A candidate that holds a text holds every start of it. -/
theorem candidateMatches_of_append {candidate typed more : String}
    (htyped : 'Σ' ∉ typed.toList) (hmore : 'Σ' ∉ more.toList)
    (h : candidateMatches candidate (typed ++ more) = true) :
    candidateMatches candidate typed = true := by
  rw [candidateMatches_iff_isInfix, String.toList_append, Text.lower_append htyped hmore] at h
  rw [candidateMatches_iff_isInfix]
  exact (List.prefix_append _ _).isInfix.trans h

end StyleCompletion
