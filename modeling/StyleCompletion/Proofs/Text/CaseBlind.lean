/-
The filter and case.

Lower case is final: no lower case form of a character has another lower case form, and a sigma
that has taken one of its two forms keeps it.  So a text in lower case stays as it is, although
the form of a sigma is read off its neighbours and one capital becomes two characters.  A filter
that compares texts in lower case therefore does not see the case of either text, and it orders
texts by what they hold.
-/
import StyleCompletion.Proofs.Text.Classes
import StyleCompletion.Proofs.Text.Sigma

namespace StyleCompletion

namespace Text

/-! ## Code points that are mapped to -/

namespace CaseRun

/-- The last code point that the run maps to. -/
def lastTarget (run : CaseRun) : Nat := run.target + (run.last - run.first)

/-- A look-up in `runs` finds none of the code points that `run` maps to.  It follows the look-up:
it ends before the runs that start further on, and passes over those that end before.  Where the
targets lie between the capitals of a run they are those that the run leaves out, every other
one. -/
def missedBy (run : CaseRun) : List CaseRun → Bool
  | [] => true
  | other :: rest =>
      Nat.blt run.lastTarget other.first ||
        ((Nat.blt other.last run.target ||
          (other.step == 2 && (run.step == 2 || run.first == run.last) &&
            (run.target + other.first) % 2 == 1)) && run.missedBy rest)

/-- The run maps `n` to `m`. -/
structure Maps (run : CaseRun) (n m : Nat) : Prop where
  first_le : run.first ≤ n
  le_last : n ≤ run.last
  in_step : (n - run.first) % run.step = 0
  target_eq : m = run.target + (n - run.first)

variable {run : CaseRun} {n m : Nat}

theorem Maps.lowerCode?_eq_none (h : run.Maps n m) {runs : List CaseRun}
    (hmissed : run.missedBy runs = true) : lowerCode? runs m = none := by
  obtain ⟨hfirst, hlast, hstep, htarget⟩ := h
  induction runs with
  | nil => rfl
  | cons other rest ih =>
      rw [missedBy, lastTarget] at hmissed
      simp only [Bool.or_eq_true, Bool.and_eq_true, Nat.blt_eq, beq_iff_eq] at hmissed
      rw [lowerCode?]
      by_cases hbelow : m < other.first
      · rw [if_pos hbelow]
      · -- The run does not start further on, so it ends before or leaves the target out.
        rcases hmissed with hfar | ⟨hpassed | ⟨⟨htwo, hevery⟩, hodd⟩, hrest⟩
        · omega
        · rw [if_neg hbelow, if_neg (by omega), ih hrest]
        · have heven : (n - run.first) % 2 = 0 := by
            rcases hevery with hevery | hsingle
            · rwa [hevery] at hstep
            · omega
          rw [if_neg hbelow, htwo]
          split
          · rw [if_neg (by omega)]
          · exact ih hrest

end CaseRun

/-- What is found in a list of runs is mapped by one of them. -/
theorem exists_maps_of_lowerCode? {runs : List CaseRun} {n m : Nat}
    (h : lowerCode? runs n = some m) : ∃ run ∈ runs, run.Maps n m := by
  induction runs with
  | nil => simp [lowerCode?] at h
  | cons run rest ih =>
      rw [lowerCode?] at h
      split at h
      · simp at h
      · split at h
        · split at h
          · next hstep =>
              obtain rfl := Option.some.inj h
              exact ⟨run, List.mem_cons_self, by omega, by omega, hstep, rfl⟩
          · simp at h
        · obtain ⟨found, hmem, hmaps⟩ := ih h
          exact ⟨found, List.mem_cons_of_mem run hmem, hmaps⟩

/-- The capitals that the runs leave out: those of ASCII, and `İ`. -/
def otherCapitals : List CaseRun := [⟨0x41, 0x5A, 1, 0x61⟩, ⟨0x130, 0x130, 1, 0x69⟩]

/-- The code point is that of no capital. -/
def IsNoCapital (n : Nat) : Prop :=
  lowerCode? caseRuns n = none ∧ lowerCode? otherCapitals n = none

/-- No capital is the lower case of another one. -/
theorem isNoCapital_of_lowerCode? {n m : Nat} (h : lowerCode? caseRuns n = some m) :
    IsNoCapital m := by
  obtain ⟨run, hmem, hmaps⟩ := exists_maps_of_lowerCode? h
  have hruns : (caseRuns.all fun run => run.missedBy caseRuns) = true := by decide +kernel
  have hothers : (caseRuns.all fun run => run.missedBy otherCapitals) = true := by decide +kernel
  exact ⟨hmaps.lowerCode?_eq_none (List.all_eq_true.mp hruns run hmem),
    hmaps.lowerCode?_eq_none (List.all_eq_true.mp hothers run hmem)⟩

/-! ## Characters in lower case -/

/-- The character is its own lower case. -/
def isOwnLower (c : Char) : Bool := lowerChar c = [c]

theorem lowerChar_of_isOwnLower {c : Char} (h : isOwnLower c = true) : lowerChar c = [c] :=
  of_decide_eq_true h

theorem ne_sigma_of_isOwnLower {c : Char} (h : isOwnLower c = true) : c ≠ 'Σ' := by
  rintro rfl
  exact absurd h (by decide +kernel)

/-- A character that is no capital is its own lower case. -/
theorem isOwnLower_of_isNoCapital {c : Char} (h : IsNoCapital c.toNat) : isOwnLower c = true := by
  obtain ⟨hruns, hothers⟩ := h
  by_cases hascii : c.toNat < 0x80
  · have hchecked := forall_ascii (p := fun c =>
      (lowerCode? otherCapitals c.toNat).isSome || isOwnLower c) (by decide +kernel) hascii
    simpa [hothers] using hchecked
  · have hdotted : c ≠ 'İ' := by
      rintro rfl
      exact absurd hothers (by decide)
    simp [isOwnLower, lowerChar, hascii, hdotted, hruns]

theorem isNoCapital_toNat_ofNat {n : Nat} (h : IsNoCapital n) :
    IsNoCapital (Char.ofNat n).toNat := by
  by_cases hvalid : n.isValidChar
  · rw [Char.ofNat, dif_pos hvalid]
    exact h
  · -- Where there is no such character, the one of code point zero stands for it.
    rw [Char.ofNat, dif_neg hvalid]
    exact ⟨rfl, rfl⟩

/-- The lower case of a character is in lower case. -/
theorem isOwnLower_of_mem_lowerChar {c d : Char} (h : d ∈ lowerChar c) : isOwnLower d = true := by
  rw [lowerChar] at h
  split at h
  · next hascii =>
      rw [List.mem_singleton.mp h]
      exact forall_ascii (p := fun c => isOwnLower c.toLower) (by decide +kernel) hascii
  · next hascii =>
      split at h
      · have hboth : (['i', '\u0307'].all isOwnLower) = true := by decide +kernel
        exact List.all_eq_true.mp hboth d h
      · next hdotted =>
          split at h
          · next hfound =>
              rw [List.mem_singleton.mp h]
              exact isOwnLower_of_isNoCapital
                (isNoCapital_toNat_ofNat (isNoCapital_of_lowerCode? hfound))
          · -- A character without a lower case form of its own stays as it is.
            next hnone =>
              rw [List.mem_singleton.mp h]
              simp [isOwnLower, lowerChar, hascii, hdotted, hnone]

/-! ## Texts in lower case -/

theorem isOwnLower_of_mem_lowerAfter {before cs : List Char} {d : Char}
    (h : d ∈ lowerAfter before cs) : isOwnLower d = true := by
  induction cs generalizing before with
  | nil => exact absurd h List.not_mem_nil
  | cons c rest ih =>
      rw [lowerAfter, List.mem_append] at h
      rcases h with h | h
      · split at h
        · -- Whichever form a sigma takes, it is in lower case.
          have hforms : isOwnLower 'σ' = true ∧ isOwnLower 'ς' = true := by decide +kernel
          rw [List.mem_singleton.mp h]
          rcases sigmaForm_eq_or before rest with hform | hform
          · rw [hform]
            exact hforms.1
          · rw [hform]
            exact hforms.2
        · exact isOwnLower_of_mem_lowerChar h
      · exact ih h

/-- A text in lower case stays as it is. -/
theorem lower_of_isOwnLower {cs : List Char} (h : ∀ c ∈ cs, isOwnLower c = true) :
    lower cs = cs := by
  have hsigma : 'Σ' ∉ cs := fun hmem => ne_sigma_of_isOwnLower (h _ hmem) rfl
  have hown : cs.map lowerChar = cs.map fun c => [c] :=
    List.map_congr_left fun c hc => lowerChar_of_isOwnLower (h c hc)
  rw [lower, lowerAfter_of_notMem hsigma, List.flatMap_def, hown, ← List.flatMap_def,
    List.flatMap_singleton']

/-- Lower case is taken once and for all. -/
theorem lower_lower (cs : List Char) : lower (lower cs) = lower cs :=
  lower_of_isOwnLower fun _ hc => isOwnLower_of_mem_lowerAfter hc

/-- A text in lower case. -/
def lowerText (text : String) : String := String.ofList (lower text.toList)

theorem lower_toList_lowerText (text : String) :
    lower (lowerText text).toList = lower text.toList := by
  rw [lowerText, String.toList_ofList, lower_lower]

end Text

/-! ## The filter -/

/-- The filter does not see the case of the candidate or of the typed text, every text passes it
for itself, and a candidate that passes for a text passes for all that the text passes for. -/
theorem candidateMatches_case_blind_preorder (candidate typed part : String) :
    candidateMatches (Text.lowerText candidate) typed = candidateMatches candidate typed ∧
    candidateMatches candidate (Text.lowerText typed) = candidateMatches candidate typed ∧
    candidateMatches candidate candidate = true ∧
    (candidateMatches candidate typed = true → candidateMatches typed part = true →
      candidateMatches candidate part = true) := by
  refine ⟨?_, ?_, ?_, fun htyped hpart => ?_⟩
  · rw [Bool.eq_iff_iff, candidateMatches_iff_isInfix, candidateMatches_iff_isInfix,
      Text.lower_toList_lowerText]
  · rw [Bool.eq_iff_iff, candidateMatches_iff_isInfix, candidateMatches_iff_isInfix,
      Text.lower_toList_lowerText]
  · exact candidateMatches_iff_isInfix.mpr (List.infix_refl _)
  · rw [candidateMatches_iff_isInfix] at htyped hpart ⊢
    exact hpart.trans htyped

/-- The name of a street holds a part of itself in other letters, and with it the last word of
that part; the case of its first letter, which two characters stand for, does not matter. -/
theorem candidateMatches_street :
    candidateMatches "İSTANBUL ΟΔΟΣ" "stanbul ΟΔΟΣ" = true ∧
    candidateMatches "stanbul ΟΔΟΣ" "Οδος" = true ∧
    candidateMatches "İSTANBUL ΟΔΟΣ" "Οδος" = true ∧
    candidateMatches (Text.lowerText "İSTANBUL ΟΔΟΣ") "stanbul ΟΔΟΣ" = true := by
  have htyped : candidateMatches "İSTANBUL ΟΔΟΣ" "stanbul ΟΔΟΣ" = true := by decide +kernel
  have hpart : candidateMatches "stanbul ΟΔΟΣ" "Οδος" = true := by decide +kernel
  obtain ⟨hlower, -, -, htrans⟩ :=
    candidateMatches_case_blind_preorder "İSTANBUL ΟΔΟΣ" "stanbul ΟΔΟΣ" "Οδος"
  exact ⟨htyped, hpart, htrans htyped hpart, hlower.trans htyped⟩

end StyleCompletion
