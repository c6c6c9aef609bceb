/-
How the classes of characters lie to each other.

The blanks and the word characters of ASCII are few, so what holds of all of them is checked
code point by code point.  The tables behind the other classes are long and are only ever asked
about single characters.
-/
import StyleCompletion.Text.Blank
import StyleCompletion.Text.Word

namespace StyleCompletion.Text

/-! ## Code points of a table -/

/-- A code point that a table covers lies in one of its ranges. -/
theorem exists_range_of_covers {ranges : List (Nat × Nat)} {n : Nat}
    (h : covers ranges n = true) : ∃ range ∈ ranges, range.1 ≤ n ∧ n ≤ range.2 := by
  induction ranges with
  | nil => simp at h
  | cons range rest ih =>
      obtain ⟨first, last⟩ := range
      rw [covers] at h
      split at h
      · exact absurd h (by simp)
      · split at h
        · exact ⟨(first, last), by simp, by omega, by omega⟩
        · obtain ⟨range, hmem, hrange⟩ := ih h
          exact ⟨range, List.mem_cons_of_mem _ hmem, hrange⟩

/-- The code points of a table, one by one. -/
def codePoints (ranges : List (Nat × Nat)) : List Nat :=
  ranges.flatMap fun range => List.range' range.1 (range.2 + 1 - range.1)

theorem mem_codePoints_of_covers {ranges : List (Nat × Nat)} {n : Nat}
    (h : covers ranges n = true) : n ∈ codePoints ranges := by
  obtain ⟨range, hmem, hfirst, hlast⟩ := exists_range_of_covers h
  rw [codePoints, List.mem_flatMap]
  exact ⟨range, hmem, List.mem_range'_1.mpr ⟨hfirst, by omega⟩⟩

/-- Where one class excludes another, the other excludes it. -/
theorem excludes_symm {p q : Char → Bool} (h : ∀ c, p c = true → q c = false) {c : Char}
    (hc : q c = true) : p c = false := by
  rw [Bool.eq_false_iff]
  intro hp
  rw [h c hp] at hc
  exact absurd hc (by simp)

/-! ## Blanks -/

/-- What holds of each code point in the table of blanks holds of every blank. -/
theorem forall_isBlank {p : Char → Bool}
    (h : (codePoints blankRanges).all (fun n => p (Char.ofNat n)) = true)
    {c : Char} (hc : isBlank c = true) : p c = true := by
  have hmem : c.toNat ∈ codePoints blankRanges := mem_codePoints_of_covers hc
  have hp := List.all_eq_true.mp h c.toNat hmem
  rwa [Char.ofNat_toNat] at hp

/-- No blank belongs to the word under a cursor. -/
theorem isCursorChar_of_isBlank {c : Char} (hc : isBlank c = true) : isCursorChar c = false := by
  have h := forall_isBlank (p := fun c => !isCursorChar c) (by decide +kernel) hc
  simpa using h

/-- No blank belongs to a name. -/
theorem isNameChar_of_isBlank {c : Char} (hc : isBlank c = true) : isNameChar c = false := by
  have h := forall_isBlank (p := fun c => !isNameChar c) (by decide +kernel) hc
  simpa using h

/-! ## Words of ASCII -/

/-- The letters and digits of ASCII, and `_`. -/
def isAsciiWord (c : Char) : Bool := c.isAlphanum || c = '_'

theorem toNat_lt_of_isAsciiWord {c : Char} (hc : isAsciiWord c = true) : c.toNat < 128 := by
  delta isAsciiWord Char.isAlphanum Char.isAlpha Char.isUpper Char.isLower Char.isDigit at hc
  simp only [Bool.or_eq_true, Bool.and_eq_true, decide_eq_true_eq, UInt32.le_iff_toNat_le,
    ge_iff_le] at hc
  have htoNat : c.toNat = c.val.toNat := rfl
  have hupper : 'Z'.val.toNat = 90 := rfl
  have hlower : 'z'.val.toNat = 122 := rfl
  have hdigit : '9'.val.toNat = 57 := rfl
  rcases hc with hc | rfl
  · omega
  · decide

/-- What holds of each ASCII code point holds of every ASCII character. -/
theorem forall_ascii {p : Char → Bool}
    (h : ((List.range 128).all fun n => p (Char.ofNat n)) = true) {c : Char}
    (hc : c.toNat < 128) : p c = true := by
  have hp := List.all_eq_true.mp h c.toNat (List.mem_range.mpr hc)
  rwa [Char.ofNat_toNat] at hp

/-- What holds of each ASCII code point of a word character holds of every one. -/
theorem forall_isAsciiWord {p : Char → Bool}
    (h : ((List.range 128).all fun n => !isAsciiWord (Char.ofNat n) || p (Char.ofNat n)) = true)
    {c : Char} (hc : isAsciiWord c = true) : p c = true := by
  have hp := forall_ascii (p := fun c => !isAsciiWord c || p c) h (toNat_lt_of_isAsciiWord hc)
  simpa [hc] using hp

theorem isNameChar_of_isAsciiWord {c : Char} (hc : isAsciiWord c = true) : isNameChar c = true :=
  forall_isAsciiWord (by decide +kernel) hc

theorem isCursorChar_of_isAsciiWord {c : Char} (hc : isAsciiWord c = true) :
    isCursorChar c = true :=
  forall_isAsciiWord (by decide +kernel) hc

end StyleCompletion.Text
