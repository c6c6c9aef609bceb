/-
Texts measured in the bytes of their UTF-8 form.

Columns, offsets and carets count bytes, while the text itself is a list of
characters.  The functions here cut a text at a byte count: `takeBytes` and
`dropBytes` step back to the start of a character that the count would split,
`splitAtByte?` refuses such a count.
-/

namespace StyleCompletion.Text

/-- Number of bytes of `cs`. -/
def byteLength : List Char → Nat
  | [] => 0
  | c :: rest => c.utf8Size + byteLength rest

@[simp] theorem byteLength_nil : byteLength [] = 0 := rfl

@[simp] theorem byteLength_cons (c : Char) (cs : List Char) :
    byteLength (c :: cs) = c.utf8Size + byteLength cs := rfl

@[simp] theorem byteLength_append (xs ys : List Char) :
    byteLength (xs ++ ys) = byteLength xs + byteLength ys := by
  induction xs with
  | nil => simp
  | cons x xs ih => simp [ih, Nat.add_assoc]

/-- Number of bytes of a text. -/
def size (s : String) : Nat := byteLength s.toList

/-- The longest start of `cs` with at most `n` bytes. -/
def takeBytes (n : Nat) : List Char → List Char
  | [] => []
  | c :: rest => if c.utf8Size ≤ n then c :: takeBytes (n - c.utf8Size) rest else []

/-- What `takeBytes` leaves. -/
def dropBytes (n : Nat) : List Char → List Char
  | [] => []
  | c :: rest => if c.utf8Size ≤ n then dropBytes (n - c.utf8Size) rest else c :: rest

/-- Nothing is lost by a cut. -/
theorem takeBytes_append_dropBytes (n : Nat) (cs : List Char) :
    takeBytes n cs ++ dropBytes n cs = cs := by
  induction cs generalizing n with
  | nil => rfl
  | cons c rest ih =>
      simp only [takeBytes, dropBytes]
      split
      · simp [ih]
      · rfl

/-- The part taken has at most the bytes asked for. -/
theorem byteLength_takeBytes_le (n : Nat) (cs : List Char) :
    byteLength (takeBytes n cs) ≤ n := by
  induction cs generalizing n with
  | nil => simp [takeBytes]
  | cons c rest ih =>
      simp only [takeBytes]
      split
      · have := ih (n - c.utf8Size)
        simp only [byteLength_cons]
        omega
      · simp

/-- A cut at the end of `xs` gives `xs`. -/
@[simp] theorem takeBytes_byteLength_append (xs ys : List Char) :
    takeBytes (byteLength xs) (xs ++ ys) = xs := by
  induction xs with
  | nil =>
      cases ys with
      | nil => rfl
      | cons y ys => simp [takeBytes, Nat.not_le.mpr y.utf8Size_pos]
  | cons x xs ih => simp [takeBytes, ih]

/-- What a cut at the end of `xs` leaves. -/
@[simp] theorem dropBytes_byteLength_append (xs ys : List Char) :
    dropBytes (byteLength xs) (xs ++ ys) = ys := by
  induction xs with
  | nil =>
      cases ys with
      | nil => rfl
      | cons y ys => simp [dropBytes, Nat.not_le.mpr y.utf8Size_pos]
  | cons x xs ih => simp [dropBytes, ih]

/-- A cut at the end of a text, or past it, gives all of it. -/
theorem takeBytes_of_byteLength_le {n : Nat} {cs : List Char} (h : byteLength cs ≤ n) :
    takeBytes n cs = cs := by
  induction cs generalizing n with
  | nil => rfl
  | cons c rest ih =>
      rw [byteLength_cons] at h
      have hfits : c.utf8Size ≤ n := by omega
      have hrest : byteLength rest ≤ n - c.utf8Size := by omega
      rw [takeBytes, if_pos hfits, ih hrest]

/-- Nothing is left past the end of a text. -/
theorem dropBytes_of_byteLength_le {n : Nat} {cs : List Char} (h : byteLength cs ≤ n) :
    dropBytes n cs = [] := by
  have hcut := takeBytes_append_dropBytes n cs
  rw [takeBytes_of_byteLength_le h] at hcut
  exact List.self_eq_append_right.mp hcut.symm

/-- The two parts of `cs` before and after byte `n`, if a character starts or the
text ends there. -/
def splitAtByte? (n : Nat) (cs : List Char) : Option (List Char × List Char) :=
  if byteLength (takeBytes n cs) = n then some (takeBytes n cs, dropBytes n cs) else none

/-- Counts are reported in 32 bits; a larger one is reported as the largest. -/
def saturate (n : Nat) : Nat := min n 0xFFFFFFFF

theorem saturate_of_lt {n : Nat} (h : n < 0x100000000) : saturate n = n := by
  unfold saturate
  omega

end StyleCompletion.Text
