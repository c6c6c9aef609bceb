/-
Members that a record does not know.

A shape tells where in a value its reader looks for records, and by which names.  A value may gain
a member in any record of its shape, at any place in it, under any name that is none of the
record's own.  Its reader finds the same fields as before, and in at most one of them a value that
has gained a member in turn.  So a reader that goes down to values it takes as they are gives the
same result.
-/
import StyleCompletion.Proofs.Json.Record

namespace StyleCompletion

/-! ## Shapes -/

/-- What a reader looks at in a value. -/
inductive Shape where
  /-- The value as it is. -/
  | whole
  /-- A record with fields in order, each under one or more names. -/
  | record (fields : List (List String × Shape))
  /-- An object with any names, and with values of one shape under all of them. -/
  | table (entry : Shape)

namespace Shape

/-- In a record of its shape `old` gains a member under a name that is none of the record's own,
and is `new` then. -/
inductive GainsUnknown : Shape → Json → Json → Prop where
  | here {fields : List (List String × Shape)} {name : String}
      (hname : ∀ field ∈ fields, name ∉ field.1)
      (front back : List (String × Json)) (value : Json) :
      GainsUnknown (.record fields) (.object (front ++ back))
        (.object (front ++ (name, value) :: back))
  | member {fields : List (List String × Shape)} {field : List String × Shape} {name : String}
      {old new : Json} (hfield : field ∈ fields) (hname : name ∈ field.1)
      (hgains : GainsUnknown field.2 old new) (front back : List (String × Json)) :
      GainsUnknown (.record fields) (.object (front ++ (name, old) :: back))
        (.object (front ++ (name, new) :: back))
  | item {fields : List (List String × Shape)} {field : List String × Shape}
      {old new : Json} (front : List Json) (hfield : fields[front.length]? = some field)
      (hgains : GainsUnknown field.2 old new) (back : List Json) :
      GainsUnknown (.record fields) (.array (front ++ old :: back)) (.array (front ++ new :: back))
  | entry {shape : Shape} {old new : Json} (hgains : GainsUnknown shape old new) (name : String)
      (front back : List (String × Json)) :
      GainsUnknown (.table shape) (.object (front ++ (name, old) :: back))
        (.object (front ++ (name, new) :: back))

/-- The two values are one, or the second has gained a member. -/
def Alike (shape : Shape) (old new : Json) : Prop := old = new ∨ shape.GainsUnknown old new

/-- A reader that members it does not know make no difference to. -/
def Respects {α : Type} (shape : Shape) (read : Json → Option α) : Prop :=
  ∀ old new, shape.GainsUnknown old new → read old = read new

/-- A value that is taken as it is has no place for a member. -/
theorem respects_whole {α : Type} (read : Json → Option α) : whole.Respects read := by
  intro old new h
  cases h

variable {α : Type} {shape : Shape} {read : Json → Option α}

theorem Respects.eq_of_alike (hread : shape.Respects read) {old new : Json}
    (h : shape.Alike old new) : read old = read new := by
  rcases h with rfl | h
  · rfl
  · exact hread old new h

/-- A field that is alike is read alike, present or absent. -/
theorem Respects.fieldOr?_eq (hread : shape.Respects read) (default : α) {old new : Option Json}
    (h : Option.Rel shape.Alike old new) :
    Json.fieldOr? default read old = Json.fieldOr? default read new := by
  cases h with
  | none => rfl
  | some halike => exact hread.eq_of_alike halike

/-! ## Fields that are found -/

theorem rel_alike_refl (field : Option Json) : Option.Rel shape.Alike field field := by
  cases field with
  | none => exact .none
  | some value => exact .some (.inl rfl)

/-- What follows a step with related results does not tell them apart. -/
theorem bind_eq_of_rel {β γ : Type} {R : β → β → Prop} {old new : Option β} {f g : β → Option γ}
    (hrel : Option.Rel R old new) (h : ∀ a b, R a b → f a = g b) : old.bind f = new.bind g := by
  cases hrel with
  | none => rfl
  | some hab => exact h _ _ hab

section Members

variable {names : List String} {name : String} (front back : List (String × Json)) (value : Json)

theorem filter_of_name_mem (hname : name ∈ names) :
    (front ++ (name, value) :: back).filter (fun member => names.contains member.1) =
      front.filter (fun member => names.contains member.1) ++
        (name, value) :: back.filter fun member => names.contains member.1 := by
  simp [hname]

theorem filter_of_name_notMem (hname : name ∉ names) :
    (front ++ (name, value) :: back).filter (fun member => names.contains member.1) =
      (front ++ back).filter fun member => names.contains member.1 := by
  simp [hname]

/-- A member of a field that has others is one of several, whatever its value is. -/
theorem soleMember?_of_others (hname : name ∈ names)
    (h : ¬(front ++ back).filter (fun member => names.contains member.1) = []) :
    Json.soleMember? names (front ++ (name, value) :: back) = none := by
  apply Json.soleMember?_of_two_le
  rw [List.filter_append, ← List.length_eq_zero_iff, List.length_append] at h
  rw [filter_of_name_mem front back value hname, List.length_append, List.length_cons]
  omega

/-- The only member of a field is its value. -/
theorem soleMember?_of_no_others (hname : name ∈ names)
    (h : (front ++ back).filter (fun member => names.contains member.1) = []) :
    Json.soleMember? names (front ++ (name, value) :: back) = some (some value) := by
  rw [List.filter_append, List.append_eq_nil_iff] at h
  rw [Json.soleMember?, filter_of_name_mem front back value hname, h.1, h.2]
  rfl

end Members

variable {fields : List (List String × Shape)} {field : List String × Shape}

/-- Under distinct names a name belongs to one field only. -/
theorem eq_of_name_mem (hnames : (fields.flatMap Prod.fst).Nodup) {other : List String × Shape}
    {name : String} (hfield : field ∈ fields) (hother : other ∈ fields) (hname : name ∈ field.1)
    (hname' : name ∈ other.1) : field = other := by
  induction fields with
  | nil => exact absurd hfield List.not_mem_nil
  | cons first rest ih =>
      rw [List.flatMap_cons, List.nodup_append] at hnames
      obtain ⟨-, hrest, hapart⟩ := hnames
      have hlater {later : List String × Shape} (hlater : later ∈ rest)
          (hmem : name ∈ later.1) (hfirst : name ∈ first.1) : False :=
        hapart name hfirst name (List.mem_flatMap.mpr ⟨later, hlater, hmem⟩) rfl
      rcases List.mem_cons.mp hfield with hfirst | hfield
      · rcases List.mem_cons.mp hother with hfirst' | hother
        · rw [hfirst, hfirst']
        · exact (hlater hother hname' (hfirst ▸ hname)).elim
      · rcases List.mem_cons.mp hother with hfirst' | hother
        · exact (hlater hfield hname (hfirst' ▸ hname')).elim
        · exact ih hrest hfield hother

/-- In an object the field is found as before: absent, twice, or with a value that is alike. -/
theorem GainsUnknown.rel_soleMember? {old new : List (String × Json)}
    (h : (record fields).GainsUnknown (.object old) (.object new))
    (hnames : (fields.flatMap Prod.fst).Nodup) (hfield : field ∈ fields) :
    Option.Rel (Option.Rel field.2.Alike) (Json.soleMember? field.1 old)
      (Json.soleMember? field.1 new) := by
  have hsame (hfilter : old.filter (fun member => field.1.contains member.1) =
      new.filter fun member => field.1.contains member.1) :
      Option.Rel (Option.Rel field.2.Alike) (Json.soleMember? field.1 old)
        (Json.soleMember? field.1 new) := by
    rw [Json.soleMember?, Json.soleMember?, hfilter]
    split
    · exact .some .none
    · exact .some (rel_alike_refl _)
    · exact .none
  cases h with
  | here hname front back value =>
      apply hsame
      rw [filter_of_name_notMem front back value (hname field hfield)]
  | @member _ changed name oldValue newValue hchanged hname hgains front back =>
      by_cases hown : name ∈ field.1
      · obtain rfl : field = changed := eq_of_name_mem hnames hfield hchanged hown hname
        by_cases hothers : (front ++ back).filter (fun member => field.1.contains member.1) = []
        · rw [soleMember?_of_no_others front back _ hown hothers,
            soleMember?_of_no_others front back _ hown hothers]
          exact .some (.some (.inr hgains))
        · rw [soleMember?_of_others front back _ hown hothers,
            soleMember?_of_others front back _ hown hothers]
          exact .none
      · apply hsame
        rw [filter_of_name_notMem front back _ hown, filter_of_name_notMem front back _ hown]

/-! ## Records and tables -/

/-- The values found for `fields` are alike, field by field. -/
def FieldsAlike (fields : List (List String × Shape)) (old new : List (Option Json)) : Prop :=
  ∀ (i : Nat) (field : List String × Shape), fields[i]? = some field →
    Option.Rel field.2.Alike (old.getD i none) (new.getD i none)

/-- Where the steps of two readers are related one by one, so are their results. -/
theorem rel_mapM {f g : List String × Shape → Option (Option Json)}
    (h : ∀ field ∈ fields, Option.Rel (Option.Rel field.2.Alike) (f field) (g field)) :
    Option.Rel (FieldsAlike fields) (fields.mapM f) (fields.mapM g) := by
  induction fields with
  | nil => exact .some (fun i field hfield => absurd hfield (by simp))
  | cons first rest ih =>
      rw [List.mapM_cons, List.mapM_cons]
      have hfirst := h first List.mem_cons_self
      have hrest := ih fun field hfield => h field (List.mem_cons_of_mem first hfield)
      generalize f first = oldFirst at hfirst
      generalize g first = newFirst at hfirst
      generalize rest.mapM f = oldRest at hrest
      generalize rest.mapM g = newRest at hrest
      cases hfirst with
      | none => exact .none
      | some hfirst =>
          cases hrest with
          | none => exact .none
          | some hrest =>
              refine .some fun i field hfield => ?_
              cases i with
              | zero =>
                  obtain rfl : first = field := by simpa using hfield
                  simpa using hfirst
              | succ i => simpa using hrest i field (by simpa using hfield)

/-- A reader that asks for the first of the fields, or for all, finds them alike. -/
theorem GainsUnknown.rel_fields? {asked : List (List String × Shape)} {old new : Json}
    (h : (record fields).GainsUnknown old new) (hasked : asked <+: fields)
    (hnames : (fields.flatMap Prod.fst).Nodup) :
    Option.Rel (FieldsAlike asked) (old.fields? (asked.map Prod.fst))
      (new.fields? (asked.map Prod.fst)) := by
  have hobject {oldMembers newMembers : List (String × Json)}
      (h : (record fields).GainsUnknown (.object oldMembers) (.object newMembers)) :
      Option.Rel (FieldsAlike asked) ((Json.object oldMembers).fields? (asked.map Prod.fst))
        ((Json.object newMembers).fields? (asked.map Prod.fst)) := by
    rw [Json.fields?, Json.fields?, List.mapM_map, List.mapM_map]
    exact rel_mapM fun field hfield => h.rel_soleMember? hnames (hasked.subset hfield)
  cases h with
  | here hname front back value => exact hobject (.here hname front back value)
  | member hfield hname hgains front back => exact hobject (.member hfield hname hgains front back)
  | @item _ changed oldItem newItem front hchanged hgains back =>
      have hlength : (front ++ newItem :: back).length = (front ++ oldItem :: back).length := by
        rw [List.length_append, List.length_append, List.length_cons, List.length_cons]
      rw [Json.fields?, Json.fields?, hlength]
      split
      · refine .some fun i field hfield => ?_
        rw [Json.getD_fields_array, Json.getD_fields_array]
        rcases Nat.lt_trichotomy i front.length with hlt | rfl | hgt
        · rw [List.getElem?_append_left hlt, List.getElem?_append_left hlt]
          exact rel_alike_refl _
        · -- The field at the place of the item is the one by whose shape it gained a member.
          obtain ⟨others, rfl⟩ := hasked
          have hlt := (List.getElem?_eq_some_iff.mp hfield).1
          rw [List.getElem?_append_left hlt, hfield] at hchanged
          obtain rfl : field = changed := Option.some.inj hchanged
          simpa using Option.Rel.some (.inr hgains)
        · obtain ⟨k, rfl⟩ := Nat.exists_eq_add_of_lt hgt
          have hpast (value : Json) :
              (front ++ value :: back)[front.length + k + 1]? = back[k]? := by
            rw [List.getElem?_append_right (by omega), show
              front.length + k + 1 - front.length = k + 1 by omega, List.getElem?_cons_succ]
          rw [hpast, hpast]
          exact rel_alike_refl _
      · exact .none

theorem Alike.rel_fields? {asked : List (List String × Shape)} {old new : Json}
    (h : (record fields).Alike old new) (hasked : asked <+: fields)
    (hnames : (fields.flatMap Prod.fst).Nodup) :
    Option.Rel (FieldsAlike asked) (old.fields? (asked.map Prod.fst))
      (new.fields? (asked.map Prod.fst)) := by
  rcases h with rfl | h
  · cases old.fields? (asked.map Prod.fst) with
    | none => exact .none
    | some found => exact .some (fun i field hfield => rel_alike_refl _)
  · exact h.rel_fields? hasked hnames

end Shape

end StyleCompletion
