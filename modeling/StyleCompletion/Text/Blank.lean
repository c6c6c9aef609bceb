/-
Blank characters, and the words that they separate.
-/
import StyleCompletion.Text.Ranges

namespace StyleCompletion.Text

/-- Code points with the property White_Space. -/
def blankRanges : List (Nat × Nat) := [
  (0x9, 0xD), (0x20, 0x20), (0x85, 0x85), (0xA0, 0xA0), (0x1680, 0x1680), (0x2000, 0x200A),
  (0x2028, 0x2029), (0x202F, 0x202F), (0x205F, 0x205F), (0x3000, 0x3000)
]

/-- Spaces, tabs, line ends and the other blanks of Unicode. -/
def isBlank (c : Char) : Bool := covers blankRanges c.toNat

/-- `cs` without the blanks at its start. -/
def trimLeft (cs : List Char) : List Char := cs.dropWhile isBlank

@[simp] theorem trimLeft_append_of_isBlank {gap cs : List Char}
    (h : ∀ c ∈ gap, isBlank c = true) : trimLeft (gap ++ cs) = trimLeft cs :=
  List.dropWhile_append_of_pos h

@[simp] theorem trimLeft_cons_of_not_isBlank {c : Char} {cs : List Char}
    (h : isBlank c = false) : trimLeft (c :: cs) = c :: cs :=
  List.dropWhile_cons_of_neg (by simp [h])

/-- A text of blanks is trimmed to nothing. -/
theorem trimLeft_of_isBlank {cs : List Char} (h : ∀ c ∈ cs, isBlank c = true) :
    trimLeft cs = [] := by
  rw [← List.append_nil cs, trimLeft_append_of_isBlank h]
  rfl

/-- What is left starts with the first character that is no blank. -/
theorem trimLeft_eq_cons_iff {cs rest : List Char} {c : Char} :
    trimLeft cs = c :: rest ↔
      ∃ gap, (∀ x ∈ gap, isBlank x = true) ∧ isBlank c = false ∧ cs = gap ++ c :: rest := by
  constructor
  · intro h
    refine ⟨cs.takeWhile isBlank, fun x hx => ?_, ?_, ?_⟩
    · exact List.all_eq_true.mp (List.all_takeWhile) x hx
    · have hhead := List.head?_dropWhile_not isBlank cs
      rw [show cs.dropWhile isBlank = c :: rest from h] at hhead
      simpa using hhead
    · rw [← h]
      exact List.takeWhile_append_dropWhile.symm
  · rintro ⟨gap, hgap, hc, rfl⟩
    rw [trimLeft_append_of_isBlank hgap, trimLeft_cons_of_not_isBlank hc]

/-- Only blanks are lost. -/
theorem mem_trimLeft {cs : List Char} {c : Char} (hmem : c ∈ cs) (hc : isBlank c = false) :
    c ∈ trimLeft cs := by
  rw [← List.takeWhile_append_dropWhile (p := isBlank) (l := cs), List.mem_append] at hmem
  rcases hmem with hmem | hmem
  · have hblank := List.all_eq_true.mp (List.all_takeWhile (p := isBlank) (l := cs)) c hmem
    exact absurd hblank (by simp [hc])
  · exact hmem

/-- `cs` without the blanks at its two ends. -/
def trim (cs : List Char) : List Char := (trimLeft (trimLeft cs).reverse).reverse

/-- The maximal runs of characters that are not blank. -/
def words : List Char → List (List Char)
  | [] => []
  | c :: rest =>
      if isBlank c then words rest
      else match rest.head?.map isBlank, words rest with
        -- The next character goes on with the word that `c` starts.
        | some false, word :: more => (c :: word) :: more
        | _, more => [c] :: more

end StyleCompletion.Text
