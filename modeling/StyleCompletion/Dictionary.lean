/-
Dictionaries that keep the order in which their keys first came.
-/

namespace StyleCompletion

/-- Entries under distinct names, in order of first insertion. -/
structure Dictionary (α : Type) where
  entries : List (String × α)
  nodup : (entries.map Prod.fst).Nodup

namespace Dictionary

variable {α : Type}

/-- The dictionary without entries. -/
def empty : Dictionary α := ⟨[], by simp⟩

instance : Inhabited (Dictionary α) := ⟨empty⟩

@[ext] theorem ext {d e : Dictionary α} (h : d.entries = e.entries) : d = e := by
  cases d
  cases e
  simp_all

/-- Number of entries. -/
def size (d : Dictionary α) : Nat := d.entries.length

/-- The names, in order. -/
def keys (d : Dictionary α) : List String := d.entries.map Prod.fst

/-- The entry under `name`. -/
def get? (d : Dictionary α) (name : String) : Option α := d.entries.lookup name

/-- As names are distinct, each entry is the one under its name. -/
theorem get?_of_mem (d : Dictionary α) {name : String} {value : α}
    (h : (name, value) ∈ d.entries) : d.get? name = some value := by
  obtain ⟨front, back, hsplit⟩ := List.append_of_mem h
  refine List.lookup_eq_some_iff.mpr ⟨front, back, hsplit, fun entry hentry => ?_⟩
  have hnodup := d.nodup
  rw [hsplit, List.map_append, List.nodup_append] at hnodup
  have hne := hnodup.2.2 entry.1 (List.mem_map_of_mem hentry) name (by simp)
  simpa using fun heq => hne heq.symm

/-- Puts `value` under `name`: in the place of the entry that is there, or at the end. -/
def put (name : String) (value : α) : List (String × α) → List (String × α)
  | [] => [(name, value)]
  | (other, old) :: rest =>
      if other = name then (name, value) :: rest else (other, old) :: put name value rest

/-- A known name keeps its place, a new one comes last. -/
theorem map_fst_put (name : String) (value : α) (entries : List (String × α)) :
    (put name value entries).map Prod.fst =
      if name ∈ entries.map Prod.fst then entries.map Prod.fst
      else entries.map Prod.fst ++ [name] := by
  induction entries with
  | nil => simp [put]
  | cons entry rest ih =>
      obtain ⟨other, old⟩ := entry
      by_cases h : other = name
      · simp [put, h]
      · have h' : ¬name = other := fun e => h e.symm
        by_cases hmem : name ∈ rest.map Prod.fst <;> simp_all [put]

/-- Puts `value` under `name`: in the place of the entry that is there, or at the end. -/
def insert (d : Dictionary α) (name : String) (value : α) : Dictionary α where
  entries := put name value d.entries
  nodup := by
    have hd := d.nodup
    rw [map_fst_put]
    split
    · exact hd
    · next hmem =>
        rw [List.nodup_append]
        refine ⟨hd, by simp, ?_⟩
        intro a ha b hb
        rw [List.mem_singleton] at hb
        exact fun e => hmem (hb ▸ e ▸ ha)

/-- The dictionary of a list of entries.  Of several under one name the last counts, in
the place of the first. -/
def ofList (entries : List (String × α)) : Dictionary α :=
  entries.foldl (fun d entry => d.insert entry.1 entry.2) empty

end Dictionary

end StyleCompletion
