/-
The words of a text, which blanks separate.

Words are never empty and hold no blanks, and words that are joined by spaces are the words of
the text that they are joined to.
-/
import StyleCompletion.Text.Blank

namespace StyleCompletion.Text

theorem words_cons_of_isBlank {c : Char} {rest : List Char} (hc : isBlank c = true) :
    words (c :: rest) = words rest := by
  rw [words, if_pos hc]

/-- A character that is no blank goes on with the word after it, or is one by itself. -/
theorem words_cons_of_not_isBlank {c : Char} (hc : isBlank c = false) (rest : List Char) :
    words (c :: rest) = [c] :: words rest ∨
      ∃ word more, words rest = word :: more ∧ words (c :: rest) = (c :: word) :: more := by
  rw [words, if_neg (by simp [hc])]
  split
  · next word more _ hwords => exact .inr ⟨word, more, hwords, rfl⟩
  · exact .inl rfl

/-- A word is not empty, and each of its characters is one of the text and no blank. -/
theorem of_mem_words {cs word : List Char} (h : word ∈ words cs) :
    word ≠ [] ∧ ∀ c ∈ word, c ∈ cs ∧ isBlank c = false := by
  induction cs generalizing word with
  | nil => exact absurd h List.not_mem_nil
  | cons d rest ih =>
      have hlater : word ∈ words rest → word ≠ [] ∧ ∀ c ∈ word, c ∈ d :: rest ∧ isBlank c = false :=
        fun hmem => ⟨(ih hmem).1, fun c hc =>
          ⟨List.mem_cons_of_mem d ((ih hmem).2 c hc).1, ((ih hmem).2 c hc).2⟩⟩
      by_cases hd : isBlank d = true
      · rw [words_cons_of_isBlank hd] at h
        exact hlater h
      · rw [Bool.not_eq_true] at hd
        rcases words_cons_of_not_isBlank hd rest with hwords | ⟨next, more, hrest, hwords⟩
        · rw [hwords, List.mem_cons] at h
          rcases h with rfl | hmem
          · simp [hd]
          · exact hlater hmem
        · rw [hwords, List.mem_cons] at h
          rcases h with rfl | hmem
          · have hnext := (ih (hrest ▸ List.mem_cons_self)).2
            refine ⟨by simp, fun c hc => ?_⟩
            rcases List.mem_cons.mp hc with rfl | hc
            · exact ⟨List.mem_cons_self, hd⟩
            · exact ⟨List.mem_cons_of_mem d (hnext c hc).1, (hnext c hc).2⟩
          · exact hlater (hrest ▸ List.mem_cons_of_mem next hmem)

/-- A run without blanks at the start of a text, up to a blank or the end, is its first word. -/
theorem words_run_append {run rest : List Char} (hne : run ≠ [])
    (hrun : ∀ c ∈ run, isBlank c = false) (hrest : ∀ c ∈ rest.head?, isBlank c = true) :
    words (run ++ rest) = run :: words rest := by
  induction run with
  | nil => exact absurd rfl hne
  | cons c run ih =>
      obtain ⟨hc, hrun⟩ := List.forall_mem_cons.mp hrun
      rw [List.cons_append, words, if_neg (by simp [hc])]
      cases run with
      | nil =>
          -- The blank after the run, if any, keeps it apart from the next word.
          rw [List.nil_append]
          cases hhead : rest.head? with
          | none => rfl
          | some d => simp [hrest d hhead]
      | cons d run =>
          rw [ih (by simp) hrun]
          simp [hrun d]

theorem words_intercalate {tokens : List (List Char)}
    (h : ∀ token ∈ tokens, token ≠ [] ∧ ∀ c ∈ token, isBlank c = false) :
    words ([' '].intercalate tokens) = tokens := by
  induction tokens with
  | nil => rfl
  | cons token tokens ih =>
      obtain ⟨⟨hne, hplain⟩, hothers⟩ := List.forall_mem_cons.mp h
      cases tokens with
      | nil =>
          have hword : words (token ++ []) = token :: words [] :=
            words_run_append hne hplain (by simp)
          rw [List.append_nil] at hword
          rw [List.intercalate_singleton, hword, words]
      | cons next tokens =>
          have hspace : isBlank ' ' = true := by decide
          rw [List.intercalate_cons_cons, List.append_assoc, List.singleton_append,
            words_run_append hne hplain (by simp [hspace]), words_cons_of_isBlank hspace,
            ih hothers]

end StyleCompletion.Text
