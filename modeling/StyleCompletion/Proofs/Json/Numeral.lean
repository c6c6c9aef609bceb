/-
Whole numbers as they are written in JSON.

A number is kept as its literal, and a literal is read only if its digits are well formed and its
value is not too large.  The decimal digits of a whole number of at most 64 bits are such a
literal: they start with no zero that could be left out, they are collected without loss, and
their value stays far below the largest double.
-/
import StyleCompletion.Proofs.Json.Spelling

namespace StyleCompletion.Json

/-! ## Digits -/

/-- Digits are read up to the first character that is none. -/
theorem readDigits_append {digits rest : List Char} (hne : digits ≠ [])
    (hdigits : ∀ c ∈ digits, c.isDigit = true) (hrest : AfterNumber rest) :
    readDigits (digits ++ rest) = .ok (digits, rest) := by
  have hstop : rest.takeWhile Char.isDigit = [] ∧ rest.dropWhile Char.isDigit = rest := by
    cases rest with
    | nil => exact ⟨rfl, rfl⟩
    | cons c rest =>
        have hc : c.isDigit = false := (hrest c (by simp)).1
        exact ⟨List.takeWhile_cons_of_neg (by simp [hc]), List.dropWhile_cons_of_neg (by simp [hc])⟩
  obtain ⟨c, cs, rfl⟩ := List.exists_cons_of_ne_nil hne
  have hc : c.isDigit = true := hdigits c List.mem_cons_self
  rw [List.cons_append, readDigits, if_pos hc, ← List.cons_append,
    List.takeWhile_append_of_pos hdigits, List.dropWhile_append_of_pos hdigits, hstop.1, hstop.2,
    List.append_nil]

/-- Only the number zero starts with the digit zero. -/
theorem head?_toDigits_ne_zero {n : Nat} (hn : 0 < n) : (Nat.toDigits 10 n).head? ≠ some '0' := by
  induction n using Nat.strongRecOn with
  | ind n ih =>
      by_cases hshort : n < 10
      · rw [Nat.toDigits_of_lt_base hshort, List.head?_cons, Ne, Option.some.injEq,
          Nat.digitChar_eq_zero]
        omega
      · -- The digits of a longer number start with those of the number without its last digit.
        have hhead := ih (n / 10) (by omega) (by omega)
        rw [Nat.toDigits_of_base_le (by omega) (by omega),
          List.head?_append_of_ne_nil _ Nat.toDigits_ne_nil]
        exact hhead

/-- No zero that could be left out stands before the digits of a number. -/
theorem readWhole_toDigits (n : Nat) {rest : List Char} (hrest : AfterNumber rest) :
    readWhole (Nat.toDigits 10 n ++ rest) = .ok (Nat.toDigits 10 n, rest) := by
  have hdigits : ∀ c ∈ Nat.toDigits 10 n, c.isDigit = true :=
    fun c => Nat.isDigit_of_mem_toDigits (by decide) (by decide)
  have hzero : ¬((Nat.toDigits 10 n).head? = some '0' ∧ (Nat.toDigits 10 n).length ≠ 1) := by
    rintro ⟨hhead, hlength⟩
    by_cases hn : 0 < n
    · exact head?_toDigits_ne_zero hn hhead
    · obtain rfl : n = 0 := by omega
      exact hlength rfl
  rw [readWhole, readDigits_append Nat.toDigits_ne_nil hdigits hrest]
  simp only [bind, Except.bind, if_neg hzero]

/-! ## The value -/

/-- Reading more digits makes no number smaller. -/
theorem le_ofDigitChars (digits : List Char) (n : Nat) : n ≤ Nat.ofDigitChars 10 digits n := by
  have hpos : 1 ≤ 10 ^ digits.length := Nat.one_le_pow _ _ (by decide)
  have hscaled : n ≤ 10 ^ digits.length * n := Nat.le_mul_of_pos_left n hpos
  rw [Nat.ofDigitChars_eq_ofDigitChars_zero]
  omega

/-- As long as the value fits, all digits go into the significand. -/
theorem addWhole_eq {digits : List Char} {significand : Nat} {exponent : Int}
    (hfits : Nat.ofDigitChars 10 digits significand ≤ significandMax) :
    (Scaled.mk significand exponent).addWhole digits =
      ⟨Nat.ofDigitChars 10 digits significand, exponent⟩ := by
  induction digits generalizing significand with
  | nil => rfl
  | cons d digits ih =>
      rw [Nat.ofDigitChars_cons, Nat.mul_comm 10] at hfits ⊢
      have hstep := le_ofDigitChars digits (significand * 10 + digitValue d)
      have hnext : ¬significandMax < significand * 10 + digitValue d :=
        Nat.not_lt.mpr (Nat.le_trans hstep hfits)
      simp only [Scaled.addWhole, if_neg hnext]
      exact ih hfits

/-- Rounding at most doubles a number. -/
theorem roundTo53_le (n : Nat) : roundTo53 n ≤ 2 * n := by
  by_cases hn : n = 0
  · rw [hn]
    decide
  · have hunit : 2 ^ (n.log2 - 52) ≤ n :=
      Nat.le_trans (Nat.pow_le_pow_right (by decide) (Nat.sub_le _ _)) (Nat.log2_self_le hn)
    have hdown : n / 2 ^ (n.log2 - 52) * 2 ^ (n.log2 - 52) ≤ n := Nat.div_mul_le_self _ _
    have hup : (n / 2 ^ (n.log2 - 52) + 1) * 2 ^ (n.log2 - 52) ≤ 2 * n := by
      rw [Nat.succ_mul]
      omega
    simp only [roundTo53, Nat.pow_eq]
    split_ifs <;> omega

/-- No number of 64 bits is too large. -/
theorem isTooLarge_eq_false {n : Nat} (h : n ≤ significandMax) :
    Scaled.isTooLarge ⟨n, 0⟩ = false := by
  have hround := roundTo53_le n
  have hunit : roundTo53 (Nat.pow 10 0) = 1 := by decide
  have hlimit : 2 * significandMax < doubleLimit := by decide +kernel
  have hbelow : ¬doubleLimit ≤ roundTo53 n * roundTo53 (Nat.pow 10 0) := by
    rw [hunit]
    omega
  show (if n = 0 then false else if 308 < 0 then true else
    decide (doubleLimit ≤ roundTo53 n * roundTo53 (Nat.pow 10 0))) = false
  rw [decide_eq_false hbelow]
  simp

/-! ## The literal -/

theorem readFraction_of_afterNumber {rest : List Char} (h : AfterNumber rest) :
    readFraction rest = .ok ([], rest) := by
  cases rest with
  | nil => rfl
  | cons c rest =>
      have hc : c ≠ '.' := (h c (by simp)).2.1
      rw [readFraction]
      simp [hc]

theorem readExponent_of_afterNumber {rest : List Char} (h : AfterNumber rest) :
    readExponent rest = .ok (0, rest) := by
  cases rest with
  | nil => rfl
  | cons c rest =>
      obtain ⟨-, -, hsmall, hlarge⟩ := h c (by simp)
      unfold readExponent
      exact if_neg (by simp [hsmall, hlarge])

theorem readUnsigned_toDigits {n : Nat} (h : n ≤ significandMax) {rest : List Char}
    (hrest : AfterNumber rest) : readUnsigned (Nat.toDigits 10 n ++ rest) = .ok rest := by
  have hvalue : (Scaled.mk 0 0).addWhole (Nat.toDigits 10 n) = ⟨n, 0⟩ := by
    have hdigits : Nat.ofDigitChars 10 (Nat.toDigits 10 n) 0 = n := Nat.ofDigitChars_ten_toDigits
    rw [addWhole_eq (by rw [hdigits]; exact h), hdigits]
  rw [readUnsigned, readWhole_toDigits n hrest]
  simp [bind, Except.bind, readFraction_of_afterNumber hrest, readExponent_of_afterNumber hrest,
    hvalue, Scaled.addFraction, isTooLarge_eq_false h]

/-- The decimal digits of a number of at most 64 bits are read wherever they stand. -/
theorem isNumeral_repr {n : Nat} (h : n ≤ significandMax) : IsNumeral n.repr.toList := by
  rw [Nat.toList_repr]
  obtain ⟨c, cs, hcons⟩ := List.exists_cons_of_ne_nil (Nat.toDigits_ne_nil (n := n) (b := 10))
  have hc : c.isDigit = true :=
    Nat.isDigit_of_mem_toDigits (by decide) (by decide) (hcons ▸ List.mem_cons_self)
  refine ⟨⟨c, by simp [hcons], Or.inr hc⟩, fun rest hrest => ?_⟩
  have hread := readUnsigned_toDigits h hrest
  -- A digit is no sign, so all of the literal is read as it stands.
  have hsign : c ≠ '-' := by
    rintro rfl
    exact absurd hc (by decide)
  rw [hcons] at hread ⊢
  rw [readNumber]
  · have hlength : (c :: cs ++ rest).length - rest.length = (c :: cs).length := by
      rw [List.length_append]
      omega
    rw [hread]
    show Except.ok (_, rest) = _
    rw [hlength, List.take_left]
  · intro unsigned heq
    exact hsign (List.cons.inj heq).1

end StyleCompletion.Json
