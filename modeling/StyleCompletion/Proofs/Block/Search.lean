/-
The search for the block around a cursor.

The search walks up line by line.  A line that is missing or says nothing of blocks is
passed over, so the nearest line that opens or closes a block decides.
-/
import StyleCompletion.Block

namespace StyleCompletion

/-! ## One line of a document -/

/-- Line `n` is there and has the role `role`. -/
def DocumentView.HasRole (document : DocumentView) (n : Nat) (role : LineRole) : Prop :=
  ∃ text, document.lineText n = some text ∧ lineRole text.toList = role

/-- Line `n` is missing or says nothing of blocks. -/
def DocumentView.IsSilent (document : DocumentView) (n : Nat) : Prop :=
  ∀ text, document.lineText n = some text → lineRole text.toList = .plain

/-- A line is silent, or it opens or closes a block. -/
theorem DocumentView.silent_or_hasRole (document : DocumentView) (n : Nat) :
    document.IsSilent n ∨ (∃ name, document.HasRole n (.opens name)) ∨
      document.HasRole n .closes := by
  cases htext : document.lineText n with
  | none => exact .inl (fun text h => absurd (htext.symm.trans h) (by simp))
  | some text =>
      cases hrole : lineRole text.toList with
      | opens name => exact .inr (.inl ⟨name, text, htext, hrole⟩)
      | closes => exact .inr (.inr ⟨text, htext, hrole⟩)
      | plain =>
          refine .inl (fun other h => ?_)
          rw [htext] at h
          rwa [← Option.some.inj h]

/-! ## One step of the search -/

section Step

variable {document : DocumentView} {n : Nat}

theorem parentAbove_succ_of_isSilent (h : document.IsSilent n) :
    parentAbove document (n + 1) = parentAbove document n := by
  rw [parentAbove]
  cases htext : document.lineText n with
  | none => rfl
  | some text => simp only [h text htext]

theorem parentAbove_succ_of_opens {name : List Char} (h : document.HasRole n (.opens name)) :
    parentAbove document (n + 1) = pure (some (String.ofList name)) := by
  obtain ⟨text, htext, hrole⟩ := h
  simp only [parentAbove, htext, hrole]

theorem parentAbove_succ_of_closes (h : document.HasRole n .closes) :
    parentAbove document (n + 1) = Logged.reporting [.scanStopped n] none := by
  obtain ⟨text, htext, hrole⟩ := h
  simp only [parentAbove, htext, hrole]

end Step

/-! ## The whole search -/

/-- Line `n` has the role `role`, and the lines from there to `stop` are silent. -/
structure NearestRole (document : DocumentView) (stop n : Nat) (role : LineRole) : Prop where
  lt : n < stop
  hasRole : document.HasRole n role
  silent : ∀ k, n < k → k < stop → document.IsSilent k

/-- A line decides for the lines below it, unless a line between them tells. -/
theorem DocumentView.HasRole.nearestRole {document : DocumentView} {n : Nat} {role : LineRole}
    (h : document.HasRole n role) : NearestRole document (n + 1) n role :=
  ⟨by omega, h, fun k hk hstop => by omega⟩

theorem NearestRole.succ {document : DocumentView} {stop n : Nat} {role : LineRole}
    (h : NearestRole document stop n role) (hsilent : document.IsSilent stop) :
    NearestRole document (stop + 1) n role := by
  refine ⟨Nat.lt_succ_of_lt h.lt, h.hasRole, fun k hk hstop => ?_⟩
  rcases Nat.lt_succ_iff_lt_or_eq.mp hstop with hlt | rfl
  · exact h.silent k hk hlt
  · exact hsilent

/-- All lines above `stop` are silent, or the nearest one that is not opens or closes a
block. -/
theorem silent_or_nearestRole (document : DocumentView) (stop : Nat) :
    (∀ k < stop, document.IsSilent k) ∨
      (∃ n name, NearestRole document stop n (.opens name)) ∨
      ∃ n, NearestRole document stop n .closes := by
  induction stop with
  | zero => exact .inl (fun k hk => absurd hk (by omega))
  | succ stop ih =>
      -- The last line decides, unless it is silent; then the lines above it do.
      rcases document.silent_or_hasRole stop with hsilent | ⟨name, hopens⟩ | hcloses
      · rcases ih with hall | ⟨n, name, hn⟩ | ⟨n, hn⟩
        · refine .inl (fun k hk => ?_)
          rcases Nat.lt_succ_iff_lt_or_eq.mp hk with hlt | rfl
          · exact hall k hlt
          · exact hsilent
        · exact .inr (.inl ⟨n, name, hn.succ hsilent⟩)
        · exact .inr (.inr ⟨n, hn.succ hsilent⟩)
      · exact .inr (.inl ⟨stop, name, hopens.nearestRole⟩)
      · exact .inr (.inr ⟨stop, hcloses.nearestRole⟩)

/-- Silent lines are passed over. -/
theorem parentAbove_eq_of_silent {document : DocumentView} {n stop : Nat} (hle : n ≤ stop)
    (hsilent : ∀ k, n ≤ k → k < stop → document.IsSilent k) :
    parentAbove document stop = parentAbove document n := by
  induction hle with
  | refl => rfl
  | @step stop hle ih =>
      rw [parentAbove_succ_of_isSilent (hsilent stop hle (by omega))]
      exact ih (fun k hk hstop => hsilent k hk (by omega))

theorem parentAbove_of_silent {document : DocumentView} {stop : Nat}
    (h : ∀ k < stop, document.IsSilent k) : parentAbove document stop = pure none :=
  parentAbove_eq_of_silent (Nat.zero_le stop) (fun k _ hk => h k hk)

theorem NearestRole.parentAbove_opens {document : DocumentView} {stop n : Nat}
    {name : List Char} (h : NearestRole document stop n (.opens name)) :
    parentAbove document stop = pure (some (String.ofList name)) := by
  rw [parentAbove_eq_of_silent h.lt h.silent, parentAbove_succ_of_opens h.hasRole]

theorem NearestRole.parentAbove_closes {document : DocumentView} {stop n : Nat}
    (h : NearestRole document stop n .closes) :
    parentAbove document stop = Logged.reporting [.scanStopped n] none := by
  rw [parentAbove_eq_of_silent h.lt h.silent, parentAbove_succ_of_closes h.hasRole]

/-- The search finds the block of the nearest line that tells, if that line opens one. -/
theorem value_parentAbove_eq_some_iff {document : DocumentView} {stop : Nat} {name : String} :
    (parentAbove document stop).value = some name ↔
      ∃ n, NearestRole document stop n (.opens name.toList) := by
  constructor
  · intro hvalue
    rcases silent_or_nearestRole document stop with hall | ⟨n, found, hn⟩ | ⟨n, hn⟩
    · rw [parentAbove_of_silent hall] at hvalue
      exact absurd hvalue (by simp)
    · rw [hn.parentAbove_opens] at hvalue
      obtain rfl : String.ofList found = name := Option.some.inj hvalue
      exact ⟨n, by simpa using hn⟩
    · rw [hn.parentAbove_closes] at hvalue
      exact absurd hvalue (by simp [Logged.reporting])
  · rintro ⟨n, hn⟩
    rw [hn.parentAbove_opens]
    simp

/-- The search finds nothing when no line tells or the nearest one that does closes a
block. -/
theorem value_parentAbove_eq_none_iff {document : DocumentView} {stop : Nat} :
    (parentAbove document stop).value = none ↔
      (∀ k < stop, document.IsSilent k) ∨ ∃ n, NearestRole document stop n .closes := by
  constructor
  · intro hvalue
    rcases silent_or_nearestRole document stop with hall | ⟨n, found, hn⟩ | hcloses
    · exact .inl hall
    · rw [hn.parentAbove_opens] at hvalue
      exact absurd hvalue (by simp)
    · exact .inr hcloses
  · rintro (hall | ⟨n, hn⟩)
    · rw [parentAbove_of_silent hall]
      rfl
    · rw [hn.parentAbove_closes]
      rfl

/-- From a line of the document the search starts at that line. -/
theorem resolveParent_of_lt {document : DocumentView} {line : Nat}
    (h : line < document.lineCount) :
    resolveParent document line = parentAbove document (line + 1) := by
  rw [resolveParent, Nat.min_eq_left h]

end StyleCompletion
