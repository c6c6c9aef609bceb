/-
Sets of characters given by ranges of code points.

A property of characters is kept as a list of inclusive ranges in ascending
order, so a look-up stops at the first range that starts past the code point.
-/

namespace StyleCompletion.Text

/-- `covers ranges n` holds when `n` lies in one of the ranges.  The ranges are
inclusive and in ascending order. -/
def covers : List (Nat × Nat) → Nat → Bool
  | [], _ => false
  | (first, last) :: rest, n =>
      if n < first then false
      else if n ≤ last then true
      else covers rest n

@[simp] theorem covers_nil (n : Nat) : covers [] n = false := rfl

/-- A code point below the first range is in none of them. -/
theorem covers_cons_of_lt {first last n : Nat} {rest : List (Nat × Nat)}
    (h : n < first) : covers ((first, last) :: rest) n = false := by
  simp [covers, h]

/-- A code point inside the first range is found there. -/
theorem covers_cons_of_mem {first last n : Nat} {rest : List (Nat × Nat)}
    (hfirst : first ≤ n) (hlast : n ≤ last) :
    covers ((first, last) :: rest) n = true := by
  simp [covers, Nat.not_lt.mpr hfirst, hlast]

end StyleCompletion.Text
