/-
Lists without their duplicates.

Of equal elements the first one is kept.  So the list that is left holds the same elements, each
once, in the order in which they first appear.  The duplicates of two lists in a row are found
list by list, and it makes no difference whether a filter comes before or after.
-/
import StyleCompletion.Text.Search

namespace StyleCompletion.Text

variable {α : Type}

/-! ## First places -/

/-- Some `x` of the list stands before every `y` in it. -/
def AppearsBefore (xs : List α) (x y : α) : Prop :=
  ∃ before after, xs = before ++ x :: after ∧ y ∉ before ∧ y ≠ x

/-- Where elements are made from those of a list in some order, the first places are in that
order. -/
theorem AppearsBefore.exists_of_filterMap {β : Type} {f : β → Option α} {R : β → β → Prop}
    {sources : List β} {x y : α} (h : AppearsBefore (sources.filterMap f) x y)
    (hsources : sources.Pairwise R) :
    ∃ source ∈ sources, f source = some x ∧
      ∀ other ∈ sources, f other = some y → R source other := by
  obtain ⟨before, after, hsplit, hnotMem, hne⟩ := h
  obtain ⟨front, back, rfl, rfl, hback⟩ := List.filterMap_eq_append_iff.mp hsplit
  obtain ⟨between, source, rest, rfl, hbetween, hsource, -⟩ := List.filterMap_eq_cons_iff.mp hback
  refine ⟨source, by simp, hsource, fun other hother hy => ?_⟩
  -- What makes `y` is neither before the source of `x` nor that source itself.
  have hlater : other ∈ rest := by
    simp only [List.mem_append, List.mem_cons] at hother
    rcases hother with hother | hother | rfl | hother
    · exact absurd (List.mem_filterMap.mpr ⟨other, hother, hy⟩) hnotMem
    · exact absurd hy (by simp [hbetween other hother])
    · exact absurd (Option.some.inj (hy.symm.trans hsource)) hne
    · exact hother
  have hback := (List.pairwise_append.mp hsources).2.1
  have hcons := (List.pairwise_append.mp hback).2.1
  exact List.rel_of_pairwise_cons hcons hlater

variable [BEq α] [LawfulBEq α]

/-! ## With a filter -/

/-- Of what was seen before, only that which passes the filter matters. -/
theorem distinctFrom_filter {p : α → Bool} {seen other : List α}
    (h : ∀ x, p x = true → (x ∈ seen ↔ x ∈ other)) (xs : List α) :
    distinctFrom seen (xs.filter p) = (distinctFrom other xs).filter p := by
  induction xs generalizing seen other with
  | nil => rfl
  | cons x rest ih =>
      by_cases hp : p x = true
      · rw [List.filter_cons_of_pos hp]
        simp only [distinctFrom, List.contains_iff_mem]
        by_cases hx : x ∈ other
        · rw [if_pos ((h x hp).mpr hx), if_pos hx]
          exact ih h
        · rw [if_neg (fun hseen => hx ((h x hp).mp hseen)), if_neg hx,
            List.filter_cons_of_pos hp]
          have hnext : ∀ y, p y = true → (y ∈ x :: seen ↔ y ∈ x :: other) := by
            intro y hy
            rw [List.mem_cons, List.mem_cons, h y hy]
          rw [ih hnext]
      · rw [List.filter_cons_of_neg hp]
        simp only [distinctFrom, List.contains_iff_mem]
        by_cases hx : x ∈ other
        · rw [if_pos hx]
          exact ih h
        · -- The element is seen in one list only, but it does not pass.
          rw [if_neg hx, List.filter_cons_of_neg hp]
          apply ih
          intro y hy
          have hne : y ≠ x := by
            rintro rfl
            exact hp hy
          rw [List.mem_cons, h y hy]
          simp [hne]

theorem distinct_filter (p : α → Bool) (xs : List α) :
    distinct (xs.filter p) = (distinct xs).filter p :=
  distinctFrom_filter (fun _ _ => Iff.rfl) xs

/-! ## As the library removes duplicates -/

/-- What was seen before could as well be taken out first. -/
theorem distinctFrom_eq_eraseDups (seen xs : List α) :
    distinctFrom seen xs = (xs.removeAll seen).eraseDups := by
  induction xs generalizing seen with
  | nil => rfl
  | cons x rest ih =>
      simp only [distinctFrom, List.contains_iff_mem]
      by_cases hx : x ∈ seen
      · rw [if_pos hx, ih, List.removeAll, List.removeAll,
          List.filter_cons_of_neg (by simpa using hx)]
      · have hseen : (fun y => !(x :: seen).elem y) = fun y => !y == x && !seen.elem y := by
          funext y
          rw [List.elem_cons]
          cases y == x <;> rfl
        rw [if_neg hx, ih, List.removeAll, List.removeAll, hseen,
          List.filter_cons_of_pos (by simpa using hx), List.eraseDups_cons, List.filter_filter]

theorem distinct_eq_eraseDups (xs : List α) : distinct xs = xs.eraseDups := by
  rw [distinct, distinctFrom_eq_eraseDups, List.removeAll_nil]

@[simp] theorem mem_distinct {x : α} {xs : List α} : x ∈ distinct xs ↔ x ∈ xs := by
  rw [distinct_eq_eraseDups, List.mem_eraseDups]

theorem distinct_cons (x : α) (rest : List α) :
    distinct (x :: rest) = x :: (distinct rest).filter (fun y => !y == x) := by
  rw [distinct_eq_eraseDups, List.eraseDups_cons, ← distinct_eq_eraseDups, distinct_filter]

/-- What the first list holds is left out of the second. -/
theorem distinct_append (xs ys : List α) :
    distinct (xs ++ ys) = distinct xs ++ (distinct ys).filter (fun y => y ∉ distinct xs) := by
  have hnew : (fun y => decide (y ∉ distinct xs)) = fun y => !xs.elem y := by
    funext y
    rw [List.elem_eq_mem, decide_not, decide_eq_decide.mpr mem_distinct]
  rw [hnew, ← distinct_filter, distinct_eq_eraseDups, List.eraseDups_append,
    ← distinct_eq_eraseDups, ← distinct_eq_eraseDups]
  rfl

/-! ## The order of what is left -/

/-- The elements are left in the order in which they first appear. -/
theorem pairwise_distinct (xs : List α) : (distinct xs).Pairwise (AppearsBefore xs) := by
  induction xs with
  | nil => exact .nil
  | cons x rest ih =>
      rw [distinct_cons, List.pairwise_cons]
      refine ⟨fun y hy => ?_, ?_⟩
      · have hne : y ≠ x := by simpa using (List.mem_filter.mp hy).2
        exact ⟨[], rest, rfl, List.not_mem_nil, hne⟩
      · -- The first place of an element other than `x` is one further on.
        refine List.Pairwise.imp_of_mem ?_ (ih.filter _)
        rintro y z - hz ⟨before, after, hrest, hnotMem, hne⟩
        have hzx : z ≠ x := by simpa using (List.mem_filter.mp hz).2
        refine ⟨x :: before, after, by rw [hrest, List.cons_append], ?_, hne⟩
        exact List.not_mem_cons_of_ne_of_not_mem hzx hnotMem

theorem nodup_distinct (xs : List α) : (distinct xs).Nodup :=
  (pairwise_distinct xs).imp fun ⟨_, _, _, _, hne⟩ => hne.symm

end StyleCompletion.Text
