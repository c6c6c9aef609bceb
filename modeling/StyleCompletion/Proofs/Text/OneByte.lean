/-
Characters of one byte.

All bytes of a longer character are above those of the characters that take one byte.  So such a
character can be looked for in the bytes of a text: its byte is there where the character is, as
often as the character, and ends the bytes where the character ends the text.
-/
import StyleCompletion.Proofs.Text.ByteOrder
import StyleCompletion.Text.Bytes

namespace StyleCompletion.Text

/-! ## One character -/

theorem length_laterBytes (count n : Nat) : (laterBytes count n).length = count := by
  induction count generalizing n with
  | zero => rfl
  | succ count ih => rw [laterBytes, List.length_append, ih, List.length_singleton]

/-- The bytes after the first one are those that no character starts with. -/
theorem le_of_mem_laterBytes {count n : Nat} {byte : UInt8} (h : byte ∈ laterBytes count n) :
    128 ≤ byte.toNat := by
  induction count generalizing n with
  | zero => exact absurd h List.not_mem_nil
  | succ count ih =>
      rw [laterBytes, List.mem_append, List.mem_singleton] at h
      rcases h with h | rfl
      · exact ih h
      · rw [UInt8.toNat_ofNat']
        omega

/-- A character with a byte below 128 is the one of that number, and has no other byte. -/
theorem toNat_eq_of_mem {c : Char} {byte : UInt8} (h : byte ∈ String.utf8EncodeChar c)
    (hbyte : byte.toNat < 128) : c.toNat = byte.toNat := by
  have hfirst := firstByte_cases c.toNat
  have hlt := firstByte_lt (toNat_lt c)
  rw [utf8EncodeChar_eq, List.mem_cons] at h
  rcases h with rfl | h
  · rw [UInt8.toNat_ofNat'] at hbyte ⊢
    omega
  · have hle := le_of_mem_laterBytes h
    omega

/-- `byte` alone is the character `d`. -/
def IsByteOf (d : Char) (byte : UInt8) : Prop := String.utf8EncodeChar d = [byte]

theorem isByteOf_feed : IsByteOf '\n' 0x0A := rfl

theorem isByteOf_return : IsByteOf '\r' 0x0D := rfl

namespace IsByteOf

variable {c d : Char} {byte : UInt8} (hd : IsByteOf d byte)

include hd

theorem mem_self : byte ∈ String.utf8EncodeChar d := by
  rw [hd]
  exact List.mem_singleton.mpr rfl

theorem toNat_lt : byte.toNat < 128 := by
  have hcases := firstByte_cases d.toNat
  have hlength := congrArg List.length hd
  rw [utf8EncodeChar_eq, List.length_cons, length_laterBytes, List.length_singleton] at hlength
  -- Where one byte is all, none follows, and the first one is the number of the character.
  have hnone : laterByteCount d.toNat = 0 := by omega
  have hfirst := hd.mem_self
  rw [utf8EncodeChar_eq, hnone] at hfirst
  obtain rfl := List.mem_singleton.mp hfirst
  rw [UInt8.toNat_ofNat']
  omega

/-- The byte is in no other character. -/
theorem mem_iff : byte ∈ String.utf8EncodeChar c ↔ c = d := by
  constructor
  · intro h
    have hc := toNat_eq_of_mem h hd.toNat_lt
    have hown := toNat_eq_of_mem hd.mem_self hd.toNat_lt
    exact Char.toNat_inj.mp (hc.trans hown.symm)
  · rintro rfl
    exact hd.mem_self

end IsByteOf

/-! ## Texts -/

/-- The bytes of `cs` in UTF-8. -/
def encoded (cs : List Char) : List UInt8 := cs.flatMap String.utf8EncodeChar

@[simp] theorem encoded_append (xs ys : List Char) :
    encoded (xs ++ ys) = encoded xs ++ encoded ys := List.flatMap_append

theorem encoded_cons (c : Char) (cs : List Char) :
    encoded (c :: cs) = String.utf8EncodeChar c ++ encoded cs := List.flatMap_cons

@[simp] theorem length_encoded (cs : List Char) : (encoded cs).length = byteLength cs := by
  induction cs with
  | nil => rfl
  | cons c cs ih =>
      rw [encoded_cons, List.length_append, String.length_utf8EncodeChar, ih, byteLength_cons]

namespace IsByteOf

variable {d : Char} {byte : UInt8} (hd : IsByteOf d byte)

include hd

/-- The byte is in a text exactly if the character is. -/
theorem mem_encoded_iff {cs : List Char} : byte ∈ encoded cs ↔ d ∈ cs := by
  rw [encoded, List.mem_flatMap]
  simp only [hd.mem_iff]
  constructor
  · rintro ⟨c, hc, rfl⟩
    exact hc
  · intro h
    exact ⟨d, h, rfl⟩

/-- The byte is as often in a text as the character. -/
theorem count_encoded (cs : List Char) : (encoded cs).count byte = cs.count d := by
  induction cs with
  | nil => rfl
  | cons c cs ih =>
      rw [encoded_cons, List.count_append, ih, List.count_cons]
      by_cases hc : c = d
      · subst hc
        rw [show String.utf8EncodeChar c = [byte] from hd]
        simp [Nat.add_comm]
      · have hnone : byte ∉ String.utf8EncodeChar c := fun h => hc (hd.mem_iff.mp h)
        rw [List.count_eq_zero.mpr hnone, if_neg (by simpa using hc)]
        omega

/-- The byte is the first one of a text exactly if the character is. -/
theorem head?_encoded_iff {cs : List Char} :
    (encoded cs).head? = some byte ↔ cs.head? = some d := by
  cases cs with
  | nil => simp [encoded]
  | cons c cs =>
      rw [encoded_cons, List.head?_cons, Option.some.injEq]
      rw [List.head?_append_of_ne_nil _ String.utf8EncodeChar_ne_nil]
      constructor
      · intro h
        exact hd.mem_iff.mp (List.mem_of_head? h)
      · rintro rfl
        rw [show String.utf8EncodeChar c = [byte] from hd]
        rfl

/-- The byte is the last one of a text exactly if the character is. -/
theorem getLast?_encoded_iff {cs : List Char} :
    (encoded cs).getLast? = some byte ↔ cs.getLast? = some d := by
  rcases List.eq_nil_or_concat cs with rfl | ⟨front, c, rfl⟩
  · simp [encoded]
  · have hlast : encoded [c] = String.utf8EncodeChar c := List.flatMap_singleton ..
    rw [List.concat_eq_append, encoded_append, hlast, List.getLast?_concat, Option.some.injEq,
      List.getLast?_append_of_ne_nil _ String.utf8EncodeChar_ne_nil]
    constructor
    · intro h
      exact hd.mem_iff.mp (List.mem_of_getLast? h)
    · rintro rfl
      rw [show String.utf8EncodeChar c = [byte] from hd]
      rfl

end IsByteOf

end StyleCompletion.Text
