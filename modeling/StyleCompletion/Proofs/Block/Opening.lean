/-
Lines that open a block.

A line opens a block when it starts, after blanks, with a name, a colon and an opening
brace, blanks allowed on both sides of the colon.  A name may itself hold colons and braces,
so a line can have several such readings; the one with the longest name counts.  This file
states that form without the search for it, and shows that `blockName?` and `lineRole` follow
it.
-/
import StyleCompletion.Block

namespace StyleCompletion

/-! ## The form of an opening -/

/-- `line` can be read as the opening of a block with the name `name`. -/
inductive BlockReading : List Char → List Char → Prop where
  | intro {indent name gap inner rest : List Char}
      (hindent : ∀ c ∈ indent, Text.isBlank c = true)
      (hname : name ≠ [])
      (hsolid : ∀ c ∈ name, Text.isBlank c = false)
      (hgap : ∀ c ∈ gap, Text.isBlank c = true)
      (hinner : ∀ c ∈ inner, Text.isBlank c = true) :
      BlockReading (indent ++ (name ++ (gap ++ ':' :: (inner ++ '\x7b' :: rest)))) name

/-- `line` opens a block, and `name` is the longest name that it can be read with. -/
def IsBlockOpening (line name : List Char) : Prop :=
  BlockReading line name ∧ ∀ other, BlockReading line other → other.length ≤ name.length

theorem BlockReading.brace_mem {line name : List Char} (h : BlockReading line name) :
    '\x7b' ∈ line := by
  cases h
  simp

/-! ## What follows a name -/

theorem opensBlock_iff {cs : List Char} :
    opensBlock cs = true ↔
      ∃ gap inner rest, (∀ c ∈ gap, Text.isBlank c = true) ∧
        (∀ c ∈ inner, Text.isBlank c = true) ∧
        cs = gap ++ ':' :: (inner ++ '\x7b' :: rest) := by
  constructor
  · intro h
    unfold opensBlock at h
    split at h
    · next after htrim =>
        obtain ⟨gap, hgap, -, rfl⟩ := Text.trimLeft_eq_cons_iff.mp htrim
        obtain ⟨rest, hrest⟩ := List.head?_eq_some_iff.mp (of_decide_eq_true h)
        obtain ⟨inner, hinner, -, rfl⟩ := Text.trimLeft_eq_cons_iff.mp hrest
        exact ⟨gap, inner, rest, hgap, hinner, rfl⟩
    · exact absurd h (by simp)
  · rintro ⟨gap, inner, rest, hgap, hinner, rfl⟩
    have hcolon : Text.isBlank ':' = false := by decide
    have hbrace : Text.isBlank '\x7b' = false := by decide
    rw [opensBlock, Text.trimLeft_append_of_isBlank hgap,
      Text.trimLeft_cons_of_not_isBlank hcolon]
    simp only [Text.trimLeft_append_of_isBlank hinner, Text.trimLeft_cons_of_not_isBlank hbrace,
      List.head?_cons, decide_true]

/-- A reading starts at the first character that is no blank. -/
theorem blockReading_iff {line name : List Char} :
    BlockReading line name ↔
      name ≠ [] ∧ (∀ c ∈ name, Text.isBlank c = false) ∧
        ∃ rest, Text.trimLeft line = name ++ rest ∧ opensBlock rest = true := by
  constructor
  · intro h
    cases h with
    | @intro indent _ gap inner rest hindent hname hsolid hgap hinner =>
        refine ⟨hname, hsolid, _, ?_, opensBlock_iff.mpr ⟨gap, inner, rest, hgap, hinner, rfl⟩⟩
        obtain ⟨c, tail, rfl⟩ := List.exists_cons_of_ne_nil hname
        rw [Text.trimLeft_append_of_isBlank hindent, List.cons_append,
          Text.trimLeft_cons_of_not_isBlank (hsolid c (by simp))]
  · rintro ⟨hname, hsolid, rest, htrim, hopens⟩
    obtain ⟨c, tail, rfl⟩ := List.exists_cons_of_ne_nil hname
    obtain ⟨gap, inner, after, hgap, hinner, rfl⟩ := opensBlock_iff.mp hopens
    obtain ⟨indent, hindent, -, rfl⟩ := Text.trimLeft_eq_cons_iff.mp htrim
    exact BlockReading.intro hindent hname hsolid hgap hinner

/-! ## The search for the name -/

/-- A name that is found is one that a block opening follows. -/
theorem blockName?_sound {cs name : List Char} (h : blockName? cs = some name) :
    name ≠ [] ∧ (∀ c ∈ name, Text.isBlank c = false) ∧
      ∃ rest, cs = name ++ rest ∧ opensBlock rest = true := by
  induction cs generalizing name with
  | nil => exact absurd h (by simp [blockName?])
  | cons c rest ih =>
      rw [blockName?] at h
      split at h
      · exact absurd h (by simp)
      · next hc =>
          have hsolid : Text.isBlank c = false := by simpa using hc
          split at h
          · next tail htail =>
              obtain ⟨-, htailsolid, after, rfl, hopens⟩ := ih htail
              obtain rfl := Option.some.inj h
              exact ⟨by simp, List.forall_mem_cons.mpr ⟨hsolid, htailsolid⟩, after, rfl, hopens⟩
          · split at h
            · next hopens =>
                obtain rfl := Option.some.inj h
                exact ⟨by simp, by simpa using hsolid, rest, rfl, hopens⟩
            · exact absurd h (by simp)

/-- Where a block opening follows a name, one at least as long is found. -/
theorem exists_blockName?_of_opensBlock {name rest : List Char} (hname : name ≠ [])
    (hsolid : ∀ c ∈ name, Text.isBlank c = false) (hopens : opensBlock rest = true) :
    ∃ found, blockName? (name ++ rest) = some found ∧ name.length ≤ found.length := by
  induction name with
  | nil => exact absurd rfl hname
  | cons c tail ih =>
      obtain ⟨hc, htail⟩ := List.forall_mem_cons.mp hsolid
      rw [List.cons_append, blockName?, hc]
      cases tail with
      | nil =>
          -- A longer name may go on past `c`; otherwise `c` alone is the name.
          cases hfound : blockName? rest with
          | none => exact ⟨[c], by simp [hfound, hopens], by simp⟩
          | some found => exact ⟨c :: found, by simp [hfound], by simp⟩
      | cons d tail =>
          obtain ⟨found, hfound, hlen⟩ := ih (by simp) htail
          rw [hfound]
          exact ⟨c :: found, by simp, by simpa using hlen⟩

/-- The search finds the name of the opening that a line is. -/
theorem blockName?_trimLeft_eq_some_iff {line name : List Char} :
    blockName? (Text.trimLeft line) = some name ↔ IsBlockOpening line name := by
  have hlongest {found other : List Char} (hfound : blockName? (Text.trimLeft line) = some found)
      (hother : BlockReading line other) : other.length ≤ found.length := by
    obtain ⟨hne, hsolid, rest, htrim, hopens⟩ := blockReading_iff.mp hother
    obtain ⟨longer, hlonger, hlen⟩ := exists_blockName?_of_opensBlock hne hsolid hopens
    rw [← htrim, hfound] at hlonger
    rwa [Option.some.inj hlonger]
  constructor
  · intro h
    exact ⟨blockReading_iff.mpr (blockName?_sound h), fun other => hlongest h⟩
  · rintro ⟨hreading, hmax⟩
    obtain ⟨hne, hsolid, rest, htrim, hopens⟩ := blockReading_iff.mp hreading
    obtain ⟨found, hfound, hlen⟩ := exists_blockName?_of_opensBlock hne hsolid hopens
    rw [← htrim] at hfound
    have hsound := blockName?_sound hfound
    have hle := hmax found (blockReading_iff.mpr hsound)
    obtain ⟨-, -, after, hafter, -⟩ := hsound
    -- Both names start the trimmed line and have one length.
    have heq : name = found :=
      (List.append_inj (htrim.symm.trans hafter) (by omega)).1
    rw [hfound, heq]

theorem blockName?_trimLeft_eq_none_iff {line : List Char} :
    blockName? (Text.trimLeft line) = none ↔ ∀ name, ¬BlockReading line name := by
  constructor
  · intro h name hreading
    obtain ⟨hne, hsolid, rest, htrim, hopens⟩ := blockReading_iff.mp hreading
    obtain ⟨found, hfound, -⟩ := exists_blockName?_of_opensBlock hne hsolid hopens
    rw [← htrim, h] at hfound
    exact absurd hfound (by simp)
  · intro h
    cases hfound : blockName? (Text.trimLeft line) with
    | none => rfl
    | some name => exact absurd (blockReading_iff.mpr (blockName?_sound hfound)) (h name)

/-! ## The role of a line -/

/-- A line opens a block unless a closing brace stands past the start of the name. -/
theorem lineRole_eq_opens_iff {line name : List Char} :
    lineRole line = .opens name ↔
      IsBlockOpening line name ∧ '\x7d' ∉ (Text.trimLeft line).tail := by
  rw [← blockName?_trimLeft_eq_some_iff, lineRole]
  cases hfound : blockName? (Text.trimLeft line) with
  | none => by_cases hclose : '\x7d' ∈ line <;> simp [hclose]
  | some found => by_cases hclose : '\x7d' ∈ (Text.trimLeft line).tail <;> simp [hclose]

/-- A line says nothing of blocks when it has no opening and no closing brace. -/
theorem lineRole_eq_plain_iff {line : List Char} :
    lineRole line = .plain ↔ (∀ name, ¬BlockReading line name) ∧ '\x7d' ∉ line := by
  rw [← blockName?_trimLeft_eq_none_iff, lineRole]
  cases hfound : blockName? (Text.trimLeft line) with
  | none => by_cases hclose : '\x7d' ∈ line <;> simp [hclose]
  | some found => by_cases hclose : '\x7d' ∈ (Text.trimLeft line).tail <;> simp [hclose]

/-- Before a colon, a space and a brace at the end of a line, the whole name is found. -/
theorem blockName?_append_opening {name : List Char} (hname : name ≠ [])
    (hsolid : ∀ c ∈ name, Text.isBlank c = false) :
    blockName? (name ++ [':', ' ', '\x7b']) = some name := by
  induction name with
  | nil => exact absurd rfl hname
  | cons c tail ih =>
      obtain ⟨hc, htail⟩ := List.forall_mem_cons.mp hsolid
      rw [List.cons_append, blockName?, hc]
      cases tail with
      | nil =>
          -- The colon goes no further: a blank follows it, and after the blank no colon.
          have hstop : blockName? [':', ' ', '\x7b'] = none := by decide
          have hopens : opensBlock [':', ' ', '\x7b'] = true := by decide
          simp [hstop, hopens]
      | cons d tail =>
          rw [ih (by simp) htail]
          simp

/-- A line of blanks, a name, a colon, a space and a brace opens the block of that name. -/
theorem lineRole_opening {blanks name : List Char}
    (hblanks : ∀ c ∈ blanks, Text.isBlank c = true) (hname : name ≠ [])
    (hsolid : ∀ c ∈ name, Text.isBlank c = false ∧ c ≠ '\x7d') :
    lineRole (blanks ++ (name ++ [':', ' ', '\x7b'])) = .opens name := by
  have htrim : Text.trimLeft (blanks ++ (name ++ [':', ' ', '\x7b'])) =
      name ++ [':', ' ', '\x7b'] := by
    obtain ⟨c, tail, rfl⟩ := List.exists_cons_of_ne_nil hname
    rw [Text.trimLeft_append_of_isBlank hblanks, List.cons_append,
      Text.trimLeft_cons_of_not_isBlank (hsolid c (by simp)).1]
  refine lineRole_eq_opens_iff.mpr ⟨blockName?_trimLeft_eq_some_iff.mp ?_, fun hmem => ?_⟩
  · rw [htrim]
    exact blockName?_append_opening hname (fun c hc => (hsolid c hc).1)
  · rw [htrim] at hmem
    rcases List.mem_append.mp (List.mem_of_mem_tail hmem) with hmem | hmem
    · exact (hsolid _ hmem).2 rfl
    · exact absurd hmem (by decide)

end StyleCompletion
