/-
The files of a tree, in the order of a walk.

A walk goes through the entries of each directory in the order of the bytes of their names, and
through all of a directory among them before it goes on.  So of two files the one comes first
whose way takes the smaller name where the two ways part.  The list of the files of a tree has
every file once, in this order.
-/
import StyleCompletion.FileTree
import StyleCompletion.Proofs.Text.ByteOrder

namespace StyleCompletion

namespace FileTree

/-! ## Files and their order -/

/-- The names `way` lead from the top of the tree to a file. -/
inductive HasFile : FileTree → List String → Prop where
  | file {bytes : ByteArray} : HasFile (.file bytes) []
  | entry {children : List (String × FileTree)} {name : String} {child : FileTree}
      {way : List String} (hmem : (name, child) ∈ children) (hchild : child.HasFile way) :
      HasFile (.directory children) (name :: way)

/-- No directory has two entries of one name. -/
inductive NamesDiffer : FileTree → Prop where
  | file {bytes : ByteArray} : NamesDiffer (.file bytes)
  | directory {children : List (String × FileTree)} (hnames : (children.map Prod.fst).Nodup)
      (hchildren : ∀ entry ∈ children, entry.2.NamesDiffer) : NamesDiffer (.directory children)

/-- A walk comes to the first file before the second: where their ways part, its name has the
smaller bytes. -/
def VisitedBefore (first second : List String) : Prop :=
  ∃ common name other rest others,
    first = common ++ name :: rest ∧ second = common ++ other :: others ∧
      Text.bytes name < Text.bytes other

theorem VisitedBefore.cons {first second : List String} (h : VisitedBefore first second)
    (name : String) : VisitedBefore (name :: first) (name :: second) := by
  obtain ⟨common, smaller, other, rest, others, rfl, rfl, hlt⟩ := h
  exact ⟨name :: common, smaller, other, rest, others, rfl, rfl, hlt⟩

/-! ## The list of files -/

theorem filesByChild_eq_map (children : List (String × FileTree)) :
    filesByChild children =
      children.map fun entry => (entry.1, entry.2.files.map (entry.1 :: ·)) := by
  induction children with
  | nil => rfl
  | cons entry children ih => rw [filesByChild, List.map_cons, ih]

theorem mem_files_directory {children : List (String × FileTree)} {way : List String} :
    way ∈ (directory children).files ↔
      ∃ name child rest, (name, child) ∈ children ∧ rest ∈ child.files ∧ way = name :: rest := by
  rw [files, List.mem_flatMap]
  simp only [List.mem_mergeSort, filesByChild_eq_map, List.mem_map]
  constructor
  · rintro ⟨_, ⟨⟨name, child⟩, hmem, rfl⟩, hway⟩
    obtain ⟨rest, hrest, rfl⟩ := List.mem_map.mp hway
    exact ⟨name, child, rest, hmem, hrest, rfl⟩
  · rintro ⟨name, child, rest, hmem, hrest, rfl⟩
    exact ⟨_, ⟨(name, child), hmem, rfl⟩, List.mem_map_of_mem hrest⟩

/-- The list has every file of the tree, and nothing else. -/
theorem mem_files {tree : FileTree} {way : List String} :
    way ∈ tree.files ↔ tree.HasFile way := by
  constructor
  · intro h
    induction way generalizing tree with
    | nil =>
        cases tree with
        | file bytes => exact .file
        | directory children =>
            obtain ⟨name, child, rest, -, -, hway⟩ := mem_files_directory.mp h
            exact absurd hway (by simp)
    | cons name way ih =>
        cases tree with
        | file bytes => exact absurd h (by simp [files])
        | directory children =>
            obtain ⟨_, child, rest, hmem, hrest, hway⟩ := mem_files_directory.mp h
            obtain ⟨rfl, rfl⟩ := List.cons.inj hway
            exact .entry hmem (ih hrest)
  · intro h
    induction h with
    | file => simp [files]
    | entry hmem _ ih => exact mem_files_directory.mpr ⟨_, _, _, hmem, ih, rfl⟩

/-- The ways that are listed for an entry start with its name. -/
theorem exists_cons_of_mem_filesByChild {children : List (String × FileTree)}
    {listed : String × List (List String)} (hlisted : listed ∈ filesByChild children)
    {way : List String} (hway : way ∈ listed.2) : ∃ rest, way = listed.1 :: rest := by
  rw [filesByChild_eq_map] at hlisted
  obtain ⟨entry, -, rfl⟩ := List.mem_map.mp hlisted
  obtain ⟨rest, -, rfl⟩ := List.mem_map.mp hway
  exact ⟨rest, rfl⟩

/-- The entries of a directory whose names differ are listed in the order of the bytes of their
names. -/
theorem pairwise_mergeSort_filesByChild {children : List (String × FileTree)}
    (hnames : (children.map Prod.fst).Nodup) :
    ((filesByChild children).mergeSort fun a b => a.1 ≤ b.1).Pairwise
      fun a b => Text.bytes a.1 < Text.bytes b.1 := by
  have hsorted : ((filesByChild children).mergeSort fun a b => a.1 ≤ b.1).Pairwise
      fun a b => decide (a.1 ≤ b.1) = true := by
    refine List.pairwise_mergeSort (fun a b c hab hbc => ?_) (fun a b => ?_) _
    · rw [decide_eq_true_eq] at hab hbc ⊢
      exact String.le_trans hab hbc
    · simpa using String.le_total a.1 b.1
  have hdiffer : ((filesByChild children).mergeSort fun a b => a.1 ≤ b.1).Pairwise
      fun a b => a.1 ≠ b.1 := by
    have hperm := (List.mergeSort_perm (filesByChild children) fun a b => a.1 ≤ b.1).map Prod.fst
    have hsame : (filesByChild children).map Prod.fst = children.map Prod.fst := by
      rw [filesByChild_eq_map, List.map_map]
      rfl
    rw [hsame] at hperm
    exact List.pairwise_map.mp (hperm.nodup_iff.mpr hnames)
  refine (hsorted.and hdiffer).imp fun ⟨hle, hne⟩ => ?_
  exact Text.bytes_lt_of_lt (Std.lt_of_le_of_ne (of_decide_eq_true hle) hne)

/-- The files of a tree are listed in the order in which a walk comes to them. -/
theorem pairwise_files {tree : FileTree} (h : tree.NamesDiffer) :
    tree.files.Pairwise VisitedBefore := by
  induction h with
  | file =>
      rw [files]
      exact List.pairwise_singleton ..
  | @directory children hnames _ ih =>
      rw [files, List.pairwise_flatMap]
      refine ⟨fun listed hlisted => ?_, ?_⟩
      · rw [List.mem_mergeSort, filesByChild_eq_map] at hlisted
        obtain ⟨entry, hentry, rfl⟩ := List.mem_map.mp hlisted
        exact List.pairwise_map.mpr ((ih entry hentry).imp fun hbefore => hbefore.cons _)
      · -- Files below two entries part at the names of the entries.
        refine List.Pairwise.imp_of_mem ?_ (pairwise_mergeSort_filesByChild hnames)
        intro listed next hlisted hnext hlt first hfirst second hsecond
        rw [List.mem_mergeSort] at hlisted hnext
        obtain ⟨rest, rfl⟩ := exists_cons_of_mem_filesByChild hlisted hfirst
        obtain ⟨others, rfl⟩ := exists_cons_of_mem_filesByChild hnext hsecond
        exact ⟨[], listed.1, next.1, rest, others, rfl, rfl, hlt⟩

end FileTree

end StyleCompletion
