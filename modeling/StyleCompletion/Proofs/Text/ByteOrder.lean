/-
The order of texts by their bytes.

A character is encoded as a first byte, which tells how many follow it, and the bytes that
follow, each with six bits of its code point.  First bytes grow with the code point, and so do
the bytes after equal first bytes.  So texts lie in the order of their bytes when they lie in
the order of their characters.
-/
import Mathlib.Algebra.Group.Nat.Defs
import Mathlib.Data.List.Lex

namespace StyleCompletion.Text

/-! ## One character -/

/-- The number of bytes that follow the first one of a code point. -/
def laterByteCount (n : Nat) : Nat :=
  if n ≤ 127 then 0 else if n ≤ 2047 then 1 else if n ≤ 65535 then 2 else 3

/-- The first byte of a code point. -/
def firstByte (n : Nat) : Nat :=
  if n ≤ 127 then n
  else if n ≤ 2047 then n / 64 + 192
  else if n ≤ 65535 then n / 64 / 64 + 224
  else n / 64 / 64 / 64 + 240

/-- The last `count` bytes of a code point. -/
def laterBytes : Nat → Nat → List UInt8
  | 0, _ => []
  | count + 1, n => laterBytes count (n / 64) ++ [UInt8.ofNat (n % 64 + 128)]

theorem toNat_lt (c : Char) : c.toNat < 1114112 := by
  have hvalid := c.valid
  have htoNat : c.val.toNat = c.toNat := rfl
  simp only [UInt32.isValidChar, Nat.isValidChar] at hvalid
  omega

theorem utf8EncodeChar_eq (c : Char) :
    String.utf8EncodeChar c =
      UInt8.ofNat (firstByte c.toNat) :: laterBytes (laterByteCount c.toNat) c.toNat := by
  have hlt := toNat_lt c
  simp only [String.utf8EncodeChar, firstByte, laterByteCount, Char.toNat_val]
  generalize c.toNat = n at hlt ⊢
  -- The bits that the encoding masks out of the first byte are not set.
  split
  · rfl
  · split
    · have htwo : n / 64 % 32 = n / 64 := by omega
      simp only [laterBytes, htwo, List.nil_append]
    · split
      · have hthree : n / 4096 % 16 = n / 64 / 64 := by omega
        simp only [laterBytes, hthree, List.nil_append, List.cons_append]
      · have hfour : n / 262144 % 8 = n / 64 / 64 / 64 := by omega
        have hsecond : n / 4096 = n / 64 / 64 := by omega
        simp only [laterBytes, hfour, hsecond, List.nil_append, List.cons_append]

/-- How many bytes follow, and which first bytes there are before so many. -/
theorem firstByte_cases (n : Nat) :
    (laterByteCount n = 0 ∧ n ≤ 127 ∧ firstByte n = n) ∨
    (laterByteCount n = 1 ∧ 127 < n ∧ n ≤ 2047 ∧ firstByte n = n / 64 + 192) ∨
    (laterByteCount n = 2 ∧ 2047 < n ∧ n ≤ 65535 ∧ firstByte n = n / 64 / 64 + 224) ∨
    (laterByteCount n = 3 ∧ 65535 < n ∧ firstByte n = n / 64 / 64 / 64 + 240) := by
  unfold firstByte laterByteCount
  split
  · omega
  · split
    · omega
    · split <;> omega

theorem firstByte_lt {n : Nat} (hn : n < 1114112) : firstByte n < 256 := by
  have hcases := firstByte_cases n
  omega

/-- First bytes grow with the code point.  Where two are equal, as many bytes follow, and the code
points differ in these only. -/
theorem firstByte_lt_or_eq {n m : Nat} (h : n < m) :
    firstByte n < firstByte m ∨
      firstByte n = firstByte m ∧ laterByteCount n = laterByteCount m ∧
        n / 64 ^ laterByteCount n = m / 64 ^ laterByteCount n := by
  have hm := firstByte_cases m
  -- The power is a number only once it is known how many bytes follow.
  rcases firstByte_cases n with ⟨hcount, hn⟩ | ⟨hcount, hn⟩ | ⟨hcount, hn⟩ | ⟨hcount, hn⟩ <;>
    rw [hcount] <;> omega

/-- Of two numbers that differ only in the bits of the bytes that follow, the smaller one has the
smaller bytes. -/
theorem laterBytes_append_lt {count n m : Nat} (h : n < m) (hsame : n / 64 ^ count = m / 64 ^ count)
    (more others : List UInt8) : laterBytes count n ++ more < laterBytes count m ++ others := by
  induction count generalizing n m more others with
  | zero =>
      rw [Nat.pow_zero, Nat.div_one, Nat.div_one] at hsame
      omega
  | succ count ih =>
      rw [laterBytes, laterBytes, List.append_assoc, List.append_assoc]
      rcases Nat.lt_or_ge (n / 64) (m / 64) with hlt | hge
      · -- The bytes before the last one differ already.
        refine ih hlt ?_ _ _
        rwa [Nat.div_div_eq_div_mul, Nat.div_div_eq_div_mul, ← Nat.pow_succ']
      · have heq : n / 64 = m / 64 := by omega
        rw [heq]
        refine List.Lex.append_left _ (.rel ?_) _
        have hn : n % 64 + 128 < 256 := by omega
        have hm : m % 64 + 128 < 256 := by omega
        exact (UInt8.ofNat_lt_iff_lt hn hm).mpr (by omega)

/-- A smaller character has smaller bytes, whatever follows it. -/
theorem utf8EncodeChar_append_lt {c d : Char} (h : c < d) (more others : List UInt8) :
    String.utf8EncodeChar c ++ more < String.utf8EncodeChar d ++ others := by
  have hlt : c.toNat < d.toNat := h
  rw [utf8EncodeChar_eq, utf8EncodeChar_eq, List.cons_append, List.cons_append,
    List.cons_lt_cons_iff]
  rcases firstByte_lt_or_eq hlt with hfirst | ⟨hfirst, hcount, hsame⟩
  · left
    have hc : firstByte c.toNat < 256 := firstByte_lt (toNat_lt c)
    have hd : firstByte d.toNat < 256 := firstByte_lt (toNat_lt d)
    exact (UInt8.ofNat_lt_iff_lt hc hd).mpr hfirst
  · right
    rw [hfirst, ← hcount]
    exact ⟨rfl, laterBytes_append_lt hlt hsame more others⟩

/-! ## Texts -/

/-- The bytes of a text in UTF-8. -/
def bytes (text : String) : List UInt8 := text.toUTF8.data.toList

theorem bytes_eq_flatMap (text : String) :
    bytes text = text.toList.flatMap String.utf8EncodeChar := by
  have hbytes : text.toByteArray = text.toList.utf8Encode := by
    rw [← String.toByteArray_ofList, String.ofList_toList]
  rw [bytes, String.toUTF8_eq_toByteArray, hbytes, List.utf8Encode, List.data_toByteArray]

theorem flatMap_utf8EncodeChar_lt {cs ds : List Char} (h : List.Lex (· < ·) cs ds) :
    cs.flatMap String.utf8EncodeChar < ds.flatMap String.utf8EncodeChar := by
  induction h with
  | nil =>
      -- No character is encoded as no bytes at all.
      rw [List.flatMap_nil, List.flatMap_cons, utf8EncodeChar_eq]
      exact .nil
  | rel hlt =>
      rw [List.flatMap_cons, List.flatMap_cons]
      exact utf8EncodeChar_append_lt hlt _ _
  | cons _ ih =>
      rw [List.flatMap_cons, List.flatMap_cons]
      exact List.Lex.append_left _ ih _

/-- Texts in the order of their characters are in the order of their bytes. -/
theorem bytes_lt_of_lt {text other : String} (h : text < other) : bytes text < bytes other := by
  rw [bytes_eq_flatMap, bytes_eq_flatMap]
  exact flatMap_utf8EncodeChar_lt h

end StyleCompletion.Text
