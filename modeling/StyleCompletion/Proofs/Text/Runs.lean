/-
The run of a class of characters that ends a text.

Whatever reads a text from its end first passes over the characters of some class: the blanks,
a name, what is typed of a value, the rest of a line.  Here a text is split at the start of that
run, and the split is the only one of its kind.  A text is a list of any kind of entry, so that
its characters may carry their offsets.
-/

namespace StyleCompletion.Text

variable {α : Type}

/-- A character outside a class is in no text of it. -/
theorem notMem_of_forall {p : α → Bool} {run : List α} (hrun : ∀ c ∈ run, p c = true)
    {c : α} (hc : p c = false) : c ∉ run := by
  intro hmem
  rw [hrun c hmem] at hc
  exact absurd hc (by simp)

/-- A text ends as the part that ends it. -/
theorem getLast?_append_of_ne_nil {front back : List α} (hback : back ≠ []) :
    (front ++ back).getLast? = back.getLast? := by
  rw [List.getLast?_append, List.getLast?_eq_some_getLast hback, Option.some_or]

/-- `front` is empty or ends in a character outside the class. -/
def StopsAt (p : α → Bool) (front : List α) : Prop :=
  ∀ c, front.getLast? = some c → p c = false

theorem StopsAt.append {p : α → Bool} {front back : List α} (hback : back ≠ [])
    (h : StopsAt p back) : StopsAt p (front ++ back) := by
  intro c hc
  rw [getLast?_append_of_ne_nil hback] at hc
  exact h c hc

theorem stopsAt_singleton {p : α → Bool} {c : α} (hc : p c = false) : StopsAt p [c] := by
  intro d hd
  rwa [← Option.some.inj hd]

theorem stopsAt_concat {p : α → Bool} {front : List α} {c : α} (hc : p c = false) :
    StopsAt p (front ++ [c]) :=
  (stopsAt_singleton hc).append (by simp)

/-- Every text is a front and the run of the class after it. -/
theorem exists_run_at_end (p : α → Bool) (cs : List α) :
    ∃ front run, cs = front ++ run ∧ StopsAt p front ∧ ∀ c ∈ run, p c = true := by
  refine ⟨(cs.reverse.dropWhile p).reverse, (cs.reverse.takeWhile p).reverse, ?_, ?_, ?_⟩
  · rw [← List.reverse_append, List.takeWhile_append_dropWhile, List.reverse_reverse]
  · intro c hc
    have hhead := List.head?_dropWhile_not p cs.reverse
    rw [List.getLast?_reverse] at hc
    rw [hc] at hhead
    simpa using hhead
  · intro c hc
    exact List.all_eq_true.mp List.all_takeWhile c (List.mem_reverse.mp hc)

section

variable {p : α → Bool} {front run : List α} (hfront : StopsAt p front)
  (hrun : ∀ c ∈ run, p c = true)

include hfront hrun

/-- Read from its end, a text has the run first, -/
theorem takeWhile_reverse_run : (front ++ run).reverse.takeWhile p = run.reverse := by
  have hpass : ∀ c ∈ run.reverse, p c = true := fun c hc => hrun c (List.mem_reverse.mp hc)
  have hstop : front.reverse.takeWhile p = [] := by
    cases hreverse : front.reverse with
    | nil => rfl
    | cons c rest =>
        have hlast : front.getLast? = some c := by
          rw [← List.head?_reverse, hreverse, List.head?_cons]
        rw [List.takeWhile_cons, hfront c hlast]
        rfl
  rw [List.reverse_append, List.takeWhile_append_of_pos hpass, hstop, List.append_nil]

/-- and then the front. -/
theorem dropWhile_reverse_run : (front ++ run).reverse.dropWhile p = front.reverse := by
  have hsplit := List.takeWhile_append_dropWhile (p := p) (l := (front ++ run).reverse)
  rw [takeWhile_reverse_run hfront hrun] at hsplit
  exact List.append_cancel_left (hsplit.trans List.reverse_append)

/-- There is no other split into a front and a run. -/
theorem run_unique {front' run' : List α} (hfront' : StopsAt p front')
    (hrun' : ∀ c ∈ run', p c = true) (h : front ++ run = front' ++ run') :
    front = front' ∧ run = run' := by
  have hdrop := dropWhile_reverse_run hfront hrun
  rw [h, dropWhile_reverse_run hfront' hrun'] at hdrop
  obtain rfl : front' = front := List.reverse_inj.mp hdrop
  exact ⟨rfl, List.append_cancel_left h⟩

end

end StyleCompletion.Text
