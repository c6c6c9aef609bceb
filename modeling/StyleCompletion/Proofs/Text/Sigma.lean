/-
The capital sigma, and candidates that hold the typed text.

Candidate and typed text are turned to lower case each on its own.  The capital sigma takes its
form from the nearest letters on both sides, so in a candidate it can take another form than in
the typed text alone, and then the candidate is not found to hold what it holds.  This file follows
the forms from a text into the texts around it: those that the text itself settles stay as they
are, and of all others some candidate changes the form.
-/
import StyleCompletion.Proofs.Text.Lowercase

namespace StyleCompletion

namespace Text

/-! ## The form of a sigma -/

/-- The nearest character that is not passed over. -/
def nearest? (cs : List Char) : Option Char := (cs.dropWhile isCaseIgnorable).head?

theorem nearest?_append (xs ys : List Char) :
    nearest? (xs ++ ys) = (nearest? xs).or (nearest? ys) := by
  induction xs with
  | nil => rfl
  | cons x xs ih =>
      by_cases hx : isCaseIgnorable x = true
      · have hpassed (cs : List Char) : nearest? (x :: cs) = nearest? cs := by
          rw [nearest?, List.dropWhile_cons_of_pos hx, nearest?]
        rw [List.cons_append, hpassed, hpassed, ih]
      · have hfound (cs : List Char) : nearest? (x :: cs) = some x := by
          rw [nearest?, List.dropWhile_cons_of_neg hx, List.head?_cons]
        rw [List.cons_append, hfound, hfound, Option.some_or]

/-- The form of a capital sigma is told by the nearest characters before and after it. -/
theorem sigmaForm_eq (before after : List Char) :
    sigmaForm before after =
      if (nearest? before).any isCased && !(nearest? after).any isCased then 'ς' else 'σ' := by
  have hmeets (cs : List Char) : meetsCased cs = (nearest? cs).any isCased := by
    rw [meetsCased, nearest?]
    cases cs.dropWhile isCaseIgnorable <;> rfl
  rw [sigmaForm, hmeets, hmeets]

theorem sigmaForm_eq_or (before after : List Char) :
    sigmaForm before after = 'σ' ∨ sigmaForm before after = 'ς' := by
  rw [sigmaForm]
  split
  · exact .inr rfl
  · exact .inl rfl

/-- The form of a capital sigma between `before`, listed from near to far, and `after` is settled
if what stands further away cannot change it.  After a character without case it is never final;
after a letter the next character decides; with nothing before it, only a letter after it does. -/
def formIsSettled (before after : List Char) : Bool :=
  match nearest? before with
  | some c => !isCased c || (nearest? after).isSome
  | none => (nearest? after).any isCased

/-- A form that is settled is the same whatever stands further away. -/
theorem sigmaForm_append {before after : List Char} (h : formIsSettled before after = true)
    (further beyond : List Char) :
    sigmaForm (before ++ further) (after ++ beyond) = sigmaForm before after := by
  rw [sigmaForm_eq, sigmaForm_eq, nearest?_append, nearest?_append]
  rw [formIsSettled] at h
  cases hbefore : nearest? before with
  | none =>
      rw [hbefore] at h
      cases hafter : nearest? after with
      | none => simp [hafter] at h
      | some d => simp_all
  | some c =>
      rw [hbefore] at h
      cases hafter : nearest? after with
      | none => simp_all
      | some d => simp

section

variable {before after : List Char}

theorem nearest?_letter : nearest? ['a'] = some 'a' ∧ isCased 'a' = true := by decide

/-- A letter further before never undoes a final form. -/
theorem sigmaForm_of_letter_before (h : sigmaForm (before ++ ['a']) after = 'σ') :
    sigmaForm before after = 'σ' := by
  rw [sigmaForm_eq, nearest?_append, nearest?_letter.1] at h
  rw [sigmaForm_eq]
  cases hbefore : nearest? before with
  | none => simp
  | some c => simpa [hbefore] using h

/-- A letter further after never makes a form final. -/
theorem sigmaForm_of_letter_after (h : sigmaForm before (after ++ ['a']) = 'ς') :
    sigmaForm before after = 'ς' := by
  rw [sigmaForm_eq, nearest?_append, nearest?_letter.1] at h
  rw [sigmaForm_eq]
  cases hafter : nearest? after with
  | none => simp [hafter, nearest?_letter.2] at h
  | some c => simpa [hafter] using h

/-- A form that a letter before and a letter after leave as it is, is settled. -/
theorem formIsSettled_of_letters
    (hbefore : sigmaForm (before ++ ['a']) after = sigmaForm before after)
    (hafter : sigmaForm before (after ++ ['a']) = sigmaForm before after) :
    formIsSettled before after = true := by
  simp only [sigmaForm_eq, nearest?_append, nearest?_letter.1] at hbefore hafter
  rw [formIsSettled]
  cases hnear : nearest? before with
  | none =>
      cases hnext : nearest? after with
      | none => simp [hnear, hnext, nearest?_letter.2] at hbefore
      | some d =>
          by_cases hd : isCased d = true
          · simpa using hd
          · simp [hnear, hnext, nearest?_letter.2, hd] at hbefore
  | some c =>
      cases hnext : nearest? after with
      | none =>
          by_cases hc : isCased c = true
          · simp [hnear, hnext, nearest?_letter.2, hc] at hafter
          · simpa using hc
      | some d => simp

end

/-! ## Texts between texts -/

/-- Lower case of `cs`, which follows the reversed text `before` and goes on with `after`. -/
def lowerBetween (before after : List Char) : List Char → List Char
  | [] => []
  | c :: rest =>
      (if c = 'Σ' then [sigmaForm before (rest ++ after)] else lowerChar c) ++
        lowerBetween (c :: before) after rest

theorem lowerAfter_eq_lowerBetween (before cs : List Char) :
    lowerAfter before cs = lowerBetween before [] cs := by
  induction cs generalizing before with
  | nil => rfl
  | cons c rest ih => rw [lowerAfter, lowerBetween, ih, List.append_nil]

theorem lowerBetween_append (before after xs ys : List Char) :
    lowerBetween before after (xs ++ ys) =
      lowerBetween before (ys ++ after) xs ++ lowerBetween (xs.reverse ++ before) after ys := by
  induction xs generalizing before with
  | nil => rfl
  | cons x xs ih =>
      rw [List.cons_append, lowerBetween, ih, lowerBetween, List.append_assoc, List.append_assoc,
        List.reverse_cons, List.append_assoc, List.singleton_append]

/-- The lower case of a text has that of each part, as it is in its place. -/
theorem lower_around (xs cs ys : List Char) :
    lower (xs ++ cs ++ ys) =
      lowerBetween [] (cs ++ ys) xs ++ lowerBetween xs.reverse ys cs ++
        lowerBetween (cs.reverse ++ xs.reverse) [] ys := by
  rw [lower, lowerAfter_eq_lowerBetween, lowerBetween_append, lowerBetween_append,
    List.append_nil, List.append_nil, List.append_nil, List.reverse_append]

/-! ## The sigmas of a text -/

/-- The places of the capital sigmas in a text: what stands before each, from near to far, and what
stands after it. -/
def sigmaPlaces (before : List Char) : List Char → List (List Char × List Char)
  | [] => []
  | c :: rest =>
      if c = 'Σ' then (before, rest) :: sigmaPlaces (c :: before) rest
      else sigmaPlaces (c :: before) rest

/-- The form of a capital sigma of a text, between a reversed text and another one. -/
def formBetween (before after : List Char) (place : List Char × List Char) : Char :=
  sigmaForm (place.1 ++ before) (place.2 ++ after)

/-- There are two forms, so what is not the one is the other. -/
theorem eq_of_other_form {form c d : Char} (hform : form = 'σ' ∨ form = 'ς')
    (hc : c = 'σ' ∨ c = 'ς') (hd : d = 'σ' ∨ d = 'ς') (hcform : c ≠ form) (hdform : d ≠ form) :
    c = d := by
  rcases hform with rfl | rfl
  · exact (hc.resolve_left hcform).trans (hd.resolve_left hdform).symm
  · exact (hc.resolve_right hcform).trans (hd.resolve_right hdform).symm

section

variable {before after : List Char}

/-- Nothing but the forms of the sigmas depends on the texts around. -/
theorem lowerBetween_eq_lowerAfter {front cs : List Char}
    (h : ∀ place ∈ sigmaPlaces front cs,
      formBetween before after place = sigmaForm place.1 place.2) :
    lowerBetween (front ++ before) after cs = lowerAfter front cs := by
  induction cs generalizing front with
  | nil => rfl
  | cons c rest ih =>
      rw [sigmaPlaces] at h
      rw [lowerBetween, lowerAfter, ← List.cons_append]
      by_cases hc : c = 'Σ'
      · rw [if_pos hc] at h
        have hform : sigmaForm (front ++ before) (rest ++ after) = sigmaForm front rest :=
          h (front, rest) List.mem_cons_self
        rw [hform, ih fun place hplace => h place (List.mem_cons_of_mem _ hplace)]
      · rw [if_neg hc] at h
        rw [if_neg hc, if_neg hc, ih h]

/-- Where one of the two forms can only be lost to the texts around, it is counted there less
often than in the text alone, and as often only if no sigma changes its form. -/
theorem count_lowerBetween {form : Char} (hform : form = 'σ' ∨ form = 'ς')
    (hlost : ∀ place, formBetween before after place = form → sigmaForm place.1 place.2 = form)
    (front cs : List Char) :
    (lowerBetween (front ++ before) after cs).count form ≤ (lowerAfter front cs).count form ∧
      ((lowerAfter front cs).count form ≤ (lowerBetween (front ++ before) after cs).count form →
        ∀ place ∈ sigmaPlaces front cs,
          formBetween before after place = sigmaForm place.1 place.2) := by
  induction cs generalizing front with
  | nil => exact ⟨Nat.le_refl _, fun _ place hplace => absurd hplace (by simp [sigmaPlaces])⟩
  | cons c rest ih =>
      obtain ⟨hle, hsame⟩ := ih (c :: front)
      rw [sigmaPlaces, lowerBetween, lowerAfter, ← List.cons_append, List.count_append,
        List.count_append]
      by_cases hc : c = 'Σ'
      · rw [if_pos hc, if_pos hc, if_pos hc, List.forall_mem_cons, List.count_singleton,
          List.count_singleton]
        by_cases halone : sigmaForm front rest = form
        · by_cases hthere : sigmaForm (front ++ before) (rest ++ after) = form
          · rw [if_pos (by simpa using hthere), if_pos (by simpa using halone)]
            exact ⟨by omega, fun hge => ⟨hthere.trans halone.symm, hsame (by omega)⟩⟩
          · -- A form that is lost is missing from the count.
            rw [if_neg (by simpa using hthere), if_pos (by simpa using halone)]
            exact ⟨by omega, fun hge => by omega⟩
        · have hthere : sigmaForm (front ++ before) (rest ++ after) ≠ form :=
            fun heq => halone (hlost (front, rest) heq)
          rw [if_neg (by simpa using hthere), if_neg (by simpa using halone)]
          refine ⟨by omega, fun hge => ⟨?_, hsame (by omega)⟩⟩
          exact eq_of_other_form hform (sigmaForm_eq_or _ _) (sigmaForm_eq_or _ _) hthere halone
      · rw [if_neg hc, if_neg hc, if_neg hc]
        exact ⟨by omega, fun hge => hsame (by omega)⟩

end

/-- Each capital sigma of the text has the form there that it has in the text alone. -/
def KeepsForms (before after cs : List Char) : Prop :=
  ∀ place ∈ sigmaPlaces [] cs, formBetween before after place = sigmaForm place.1 place.2

/-- The text itself settles the form of each of its capital sigmas. -/
def SettlesForms (cs : List Char) : Prop :=
  ∀ place ∈ sigmaPlaces [] cs, formIsSettled place.1 place.2 = true

instance (before after cs : List Char) : Decidable (KeepsForms before after cs) :=
  inferInstanceAs (Decidable (∀ place ∈ _, _))

instance (cs : List Char) : Decidable (SettlesForms cs) :=
  inferInstanceAs (Decidable (∀ place ∈ _, _))

theorem SettlesForms.keepsForms {cs : List Char} (h : SettlesForms cs) (before after : List Char) :
    KeepsForms before after cs :=
  fun place hplace => sigmaForm_append (h place hplace) before after

/-- A text that keeps its forms is found in the lower case of the whole. -/
theorem KeepsForms.isInfix {xs cs ys : List Char} (h : KeepsForms xs.reverse ys cs) :
    lower cs <:+: lower (xs ++ cs ++ ys) := by
  have hsame : lowerBetween xs.reverse ys cs = lower cs := lowerBetween_eq_lowerAfter h
  rw [lower_around, hsame]
  exact List.infix_append _ _ _

/-- A text that is found in the whole keeps its forms there, if one form stands nowhere around it
and can only be lost to what stands around it. -/
theorem keepsForms_of_isInfix {form : Char} (hform : form = 'σ' ∨ form = 'ς')
    {xs cs ys : List Char} (hxs : form ∉ lowerBetween [] (cs ++ ys) xs)
    (hys : form ∉ lowerBetween (cs.reverse ++ xs.reverse) [] ys)
    (hlost : ∀ place, formBetween xs.reverse ys place = form → sigmaForm place.1 place.2 = form)
    (h : lower cs <:+: lower (xs ++ cs ++ ys)) : KeepsForms xs.reverse ys cs := by
  -- The text may be found at another place, but the form is counted in its own place alone.
  have hcount := h.sublist.count_le form
  rw [lower_around, List.count_append, List.count_append, List.count_eq_zero.mpr hxs,
    List.count_eq_zero.mpr hys, Nat.zero_add, Nat.add_zero] at hcount
  exact (count_lowerBetween hform hlost [] cs).2 hcount

/-- A text that is found behind a letter, and before one, settles its forms. -/
theorem settlesForms_of_isInfix {cs : List Char}
    (hbehind : lower cs <:+: lower (['a'] ++ cs ++ []))
    (hbefore : lower cs <:+: lower ([] ++ cs ++ ['a'])) : SettlesForms cs := by
  -- A letter before can only turn sigmas into final ones, and a letter after final ones back.
  have hkept : KeepsForms ['a'] [] cs := by
    apply keepsForms_of_isInfix (.inl rfl) _ _ _ hbehind
    · show 'σ' ∉ ['a']
      decide
    · simp [lowerBetween]
    · intro place hthere
      rw [formBetween, List.append_nil] at hthere
      exact sigmaForm_of_letter_before hthere
  have hkept' : KeepsForms [] ['a'] cs := by
    apply keepsForms_of_isInfix (.inr rfl) _ _ _ hbefore
    · simp [lowerBetween]
    · show 'ς' ∉ ['a']
      decide
    · intro place hthere
      rw [List.reverse_nil, formBetween, List.append_nil] at hthere
      exact sigmaForm_of_letter_after hthere
  intro place hplace
  have hform := hkept place hplace
  have hform' := hkept' place hplace
  rw [formBetween, List.append_nil] at hform hform'
  exact formIsSettled_of_letters hform hform'

end Text

/-! ## Candidates that hold the typed text -/

/-- A candidate that holds the typed text is accepted wherever the capital sigmas of the text have
the form in the candidate that they have in the text alone.  Every candidate that holds the text is
accepted exactly when the text itself settles the form of each of its capital sigmas. -/
theorem candidateMatches_every_holder_iff (typed : String) :
    (∀ before after : String,
      Text.KeepsForms before.toList.reverse after.toList typed.toList →
      candidateMatches (before ++ typed ++ after) typed = true) ∧
    ((∀ before after : String, candidateMatches (before ++ typed ++ after) typed = true) ↔
      Text.SettlesForms typed.toList) := by
  have hkept (before after : String)
      (h : Text.KeepsForms before.toList.reverse after.toList typed.toList) :
      candidateMatches (before ++ typed ++ after) typed = true := by
    rw [candidateMatches_iff_isInfix, String.toList_append, String.toList_append]
    exact h.isInfix
  refine ⟨hkept, fun hall => ?_, fun hsettled before after => ?_⟩
  · -- One letter before the text and one after it already try all that can change.
    have hbehind := candidateMatches_iff_isInfix.mp (hall "a" "")
    have hbefore := candidateMatches_iff_isInfix.mp (hall "" "a")
    rw [String.toList_append, String.toList_append] at hbehind hbefore
    exact Text.settlesForms_of_isInfix hbehind hbefore
  · exact hkept before after (hsettled.keepsForms _ _)

/-- The end of a Greek word is found in the word, and not in every word that goes on behind it. -/
theorem candidateMatches_wordEnd :
    Text.KeepsForms "ΟΔ".toList.reverse "".toList "ΟΣ".toList ∧
    candidateMatches ("ΟΔ" ++ "ΟΣ" ++ "") "ΟΣ" = true ∧
    ¬Text.SettlesForms "ΟΣ".toList ∧
    ∃ before after : String, candidateMatches (before ++ "ΟΣ" ++ after) "ΟΣ" = false := by
  obtain ⟨hkept, hall⟩ := candidateMatches_every_holder_iff "ΟΣ"
  have hforms : Text.KeepsForms "ΟΔ".toList.reverse "".toList "ΟΣ".toList := by decide
  have hopen : ¬Text.SettlesForms "ΟΣ".toList := by decide
  obtain ⟨before, hbefore⟩ := Classical.not_forall.mp (mt hall.mp hopen)
  obtain ⟨after, hafter⟩ := Classical.not_forall.mp hbefore
  exact ⟨hforms, hkept _ _ hforms, hopen, before, after, Bool.eq_false_iff.mpr hafter⟩

/-- A candidate can hold the typed text and not be accepted: the last sigma of a word is final,
and on its own it is not. -/
theorem not_forall_candidateMatches_holder :
    ¬∀ before typed after : String, candidateMatches (before ++ typed ++ after) typed = true := by
  intro hall
  have hrefused : candidateMatches ("ΟΔΟ" ++ "Σ" ++ "") "Σ" = false := by decide
  rw [hall] at hrefused
  exact absurd hrefused (by simp)

end StyleCompletion
