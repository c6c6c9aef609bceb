/-
Strings files, which give the localized texts of a project by key:

    <string name="greeting">Hello</string>
    <string name="empty"/>

Only these entries are read; all other text is passed over.

The reference is the pattern `STRING_ENTRY`, matched again and again as in `complete` of
`I18nRule`: `entryAtStart?` is one match and `stringEntries` all of them.
-/
import StyleCompletion.Markup

namespace StyleCompletion

/-- A key with its text, if its entry has one. -/
structure StringEntry where
  key : List Char
  text : Option (List Char)
deriving DecidableEq, Repr

/-- The key at the start of a text up to a double quote, not empty, and what follows the
quote. -/
def entryKey? (cs : List Char) : Option (List Char × List Char) :=
  match cs.dropWhile (· ≠ '"') with
  | [] => none
  | _ :: rest =>
      match cs.takeWhile (· ≠ '"') with
      | [] => none
      | key => some (key, rest)

/-- The text of an entry after its key, and what follows the entry.  The first `>` ends the
tag: after a `/` the entry ends there, otherwise its text goes to the next `</string>`. -/
def entryText? (cs : List Char) : Option (Option (List Char) × List Char) :=
  match cs.dropWhile (· ≠ '>') with
  | [] => none
  | _ :: rest =>
      if (cs.takeWhile (· ≠ '>')).getLast? = some '/' then some (none, rest)
      else (Text.splitAtFirst? "</string>".toList rest).map fun (text, rest) => (some text, rest)

/-- The entry at the start of a text, and what follows it. -/
def entryAtStart? (cs : List Char) : Option (StringEntry × List Char) := do
  let rest ← dropStart? "<string".toList cs
  let blank ← rest.head?
  if Text.isBlank blank then
    let rest ← dropStart? "name=\"".toList (Text.trimLeft rest)
    let (key, rest) ← entryKey? rest
    let (text, rest) ← entryText? rest
    return (⟨key, text⟩, rest)
  else none

/-! ## What is left is shorter -/

theorem length_dropStart? {start cs rest : List Char} (h : dropStart? start cs = some rest) :
    rest.length ≤ cs.length := by
  unfold dropStart? at h
  split at h
  · simp only [Option.some.injEq] at h
    simp [← h]
  · simp at h

theorem length_splitAtFirst? {needle cs before after : List Char}
    (h : Text.splitAtFirst? needle cs = some (before, after)) : after.length ≤ cs.length := by
  induction cs generalizing before with
  | nil =>
      unfold Text.splitAtFirst? at h
      split at h <;> simp_all
  | cons c rest ih =>
      unfold Text.splitAtFirst? at h
      split at h
      · simp only [Option.some.injEq, Prod.mk.injEq] at h
        simp [← h.2]
      · simp only [Option.map_eq_some_iff, Prod.mk.injEq, Prod.exists] at h
        obtain ⟨_, a, hsplit, _, rfl⟩ := h
        exact Nat.le_succ_of_le (ih hsplit)

theorem length_entryKey? {cs key rest : List Char} (h : entryKey? cs = some (key, rest)) :
    rest.length < cs.length := by
  unfold entryKey? at h
  have hle := (List.dropWhile_suffix (· ≠ '"') (l := cs)).length_le
  split at h
  · simp at h
  · next hdrop =>
      rw [hdrop, List.length_cons] at hle
      split at h
      · simp at h
      · simp only [Option.some.injEq, Prod.mk.injEq] at h
        rw [← h.2]
        omega

theorem length_entryText? {cs rest : List Char} {text : Option (List Char)}
    (h : entryText? cs = some (text, rest)) : rest.length ≤ cs.length := by
  unfold entryText? at h
  have hle := (List.dropWhile_suffix (· ≠ '>') (l := cs)).length_le
  split at h
  · simp at h
  · next hdrop =>
      rw [hdrop, List.length_cons] at hle
      split at h
      · simp only [Option.some.injEq, Prod.mk.injEq] at h
        rw [← h.2]
        omega
      · simp only [Option.map_eq_some_iff, Prod.mk.injEq, Prod.exists] at h
        obtain ⟨_, _, hsplit, _, rfl⟩ := h
        have := length_splitAtFirst? hsplit
        omega

theorem length_entryAtStart? {cs rest : List Char} {entry : StringEntry}
    (h : entryAtStart? cs = some (entry, rest)) : rest.length < cs.length := by
  simp only [entryAtStart?, Option.bind_eq_bind, Option.bind_eq_some_iff] at h
  obtain ⟨r1, h1, b, _, h⟩ := h
  split at h
  · simp only [Option.bind_eq_some_iff, Prod.exists] at h
    obtain ⟨r2, h2, k, r3, h3, t, r4, h4, h5⟩ := h
    simp only [Option.pure_def, Option.some.injEq, Prod.mk.injEq] at h5
    have l1 := length_dropStart? h1
    have l2 := length_dropStart? h2
    have l3 := length_entryKey? h3
    have l4 := length_entryText? h4
    have l5 : (Text.trimLeft r1).length ≤ r1.length := (List.dropWhile_suffix _).length_le
    rw [← h5.2]
    omega
  · simp at h

/-! ## All entries -/

/-- The entries of a strings file, in order. -/
def stringEntries (cs : List Char) : List StringEntry :=
  match cs with
  | [] => []
  | c :: rest =>
      match _ : entryAtStart? (c :: rest) with
      | some (entry, after) => entry :: stringEntries after
      | none => stringEntries rest
termination_by cs.length
decreasing_by
  · exact length_entryAtStart? ‹entryAtStart? (c :: rest) = some (entry, after)›
  · simp

/-- The entries of a strings file, of several under one key the first. -/
def distinctEntries (entries : List StringEntry) : List StringEntry :=
  go [] entries
where
  /-- The entries whose keys are not among `seen`. -/
  go (seen : List (List Char)) : List StringEntry → List StringEntry
    | [] => []
    | entry :: rest =>
        if seen.contains entry.key then go seen rest
        else entry :: go (entry.key :: seen) rest

end StyleCompletion
