/-
Records of JSON members: which members a record looks at, and that it finds its own fields.

A record asks for each field by name.  Members under other names never matter to it, and of the
members that are written for its fields, under distinct names, it finds each one again, present
or absent.
-/
import StyleCompletion.Json.Basic

namespace StyleCompletion.Json

/-- Where each step gives a value, all of them do. -/
theorem mapM_eq_some_map {α β : Type} {f : α → Option β} {g : α → β} {l : List α}
    (h : ∀ a ∈ l, f a = some (g a)) : l.mapM f = some (l.map g) := by
  induction l with
  | nil => rfl
  | cons a l ih =>
      have hrest := ih fun b hb => h b (List.mem_cons_of_mem a hb)
      rw [List.mapM_cons, h a List.mem_cons_self, hrest]
      rfl

/-! ## Texts -/

theorem text?_eq_some_iff {json : Json} {value : String} :
    json.text? = some value ↔ json = .text value := by
  cases json <;> simp [text?]

theorem mapM_text?_eq_some_iff {items : List Json} {texts : List String} :
    items.mapM text? = some texts ↔ items = texts.map .text := by
  induction items generalizing texts with
  | nil => cases texts <;> simp
  | cons item items ih =>
      cases texts with
      | nil => simp [List.mapM_cons, Option.bind_eq_some_iff]
      | cons text texts => simp [List.mapM_cons, Option.bind_eq_some_iff, text?_eq_some_iff, ih]

theorem texts?_eq_some_iff {json : Json} {texts : List String} :
    json.texts? = some texts ↔ json = .array (texts.map .text) := by
  cases json <;> simp [texts?, mapM_text?_eq_some_iff]

/-! ## Members that do not matter -/

/-- Only members under one of `wanted` names can be the field `key`, if `key` is one of them. -/
theorem soleMember?_filter {key : String} (wanted : List String) (hkey : key ∈ wanted)
    (members : List (String × Json)) :
    soleMember? [key] (members.filter fun member => wanted.contains member.1) =
      soleMember? [key] members := by
  have hsame : (members.filter fun member => wanted.contains member.1).filter
      (fun member => [key].contains member.1) =
        members.filter fun member => [key].contains member.1 := by
    rw [List.filter_filter]
    apply List.filter_congr
    intro member _
    by_cases h : member.1 = key
    · simp [h, hkey]
    · simp [h]
  rw [soleMember?, hsame, soleMember?]

theorem filter_of_notMem {key : String} {members : List (String × Json)}
    (h : key ∉ members.map Prod.fst) :
    members.filter (fun member => [key].contains member.1) = [] := by
  rw [List.filter_eq_nil_iff]
  intro member hmem hname
  have hname : member.1 = key := by simpa using hname
  exact h (hname ▸ List.mem_map_of_mem hmem)

/-- What is looked up is the first member of the name. -/
theorem lookup_eq_head?_filter (key : String) (members : List (String × Json)) :
    members.lookup key =
      (members.filter fun member => [key].contains member.1).head?.map Prod.snd := by
  induction members with
  | nil => rfl
  | cons member rest ih =>
      obtain ⟨name, value⟩ := member
      by_cases hname : key = name
      · simp [hname]
      · have hother : name ≠ key := fun heq => hname heq.symm
        rw [List.lookup_cons, beq_false_of_ne hname, List.filter_cons_of_neg (by simp [hother])]
        exact ih

/-- Under distinct names every member is looked up by its own. -/
theorem lookup_of_mem {members : List (String × Json)} (honce : (members.map Prod.fst).Nodup)
    {member : String × Json} (h : member ∈ members) : members.lookup member.1 = some member.2 := by
  induction members with
  | nil => cases h
  | cons first members ih =>
      rw [List.map_cons, List.nodup_cons] at honce
      rcases List.mem_cons.mp h with rfl | hmem
      · rw [List.lookup_cons_self]
      · have hne : member.1 ≠ first.1 := fun heq => honce.1 (heq ▸ List.mem_map_of_mem hmem)
        rw [List.lookup_cons, beq_false_of_ne hne]
        exact ih honce.2 hmem

/-- A field is found if no more than one member is written for it. -/
theorem soleMember?_eq_some_iff {key : String} {members : List (String × Json)}
    {value : Option Json} :
    soleMember? [key] members = some value ↔
      (members.map Prod.fst).count key ≤ 1 ∧ members.lookup key = value := by
  have hcount : (members.map Prod.fst).count key =
      (members.filter fun member => [key].contains member.1).length := by
    rw [List.count_eq_countP, List.countP_map, List.countP_eq_length_filter]
    congr 2
    funext member
    rw [Bool.eq_iff_iff]
    simp
  rw [hcount, lookup_eq_head?_filter, soleMember?]
  generalize members.filter (fun member => [key].contains member.1) = found
  -- None, one and several members are what both sides tell apart.
  rcases found with _ | ⟨first, _ | ⟨second, more⟩⟩ <;> simp

/-- A field is absent if there is no member of its name. -/
theorem soleMember?_of_notMem {key : String} {members : List (String × Json)}
    (h : key ∉ members.map Prod.fst) : soleMember? [key] members = some none := by
  rw [soleMember?, filter_of_notMem h]

/-- A field that several members are written for is refused. -/
theorem soleMember?_of_two_le {keys : List String} {members : List (String × Json)}
    (h : 2 ≤ (members.filter fun member => keys.contains member.1).length) :
    soleMember? keys members = none := by
  rw [soleMember?]
  split
  · next hnone =>
      rw [hnone] at h
      exact absurd h (by simp)
  · next hone =>
      rw [hone] at h
      exact absurd h (by simp)
  · rfl

/-- The order of its members makes no difference to a record. -/
theorem soleMember?_perm {keys : List String} {members others : List (String × Json)}
    (h : members.Perm others) : soleMember? keys members = soleMember? keys others := by
  have hfilter := h.filter fun member => keys.contains member.1
  -- Nothing and a single member are the lists that another order leaves as they are.
  rcases Nat.lt_or_ge (members.filter fun member => keys.contains member.1).length 2 with hlt | hge
  · have hsame : members.filter (fun member => keys.contains member.1) =
        others.filter fun member => keys.contains member.1 := by
      rcases Nat.le_one_iff_eq_zero_or_eq_one.mp (Nat.le_of_lt_succ hlt) with hnone | hone
      · have hnil := List.length_eq_zero_iff.mp hnone
        rw [hnil] at hfilter ⊢
        exact (List.nil_perm.mp hfilter).symm
      · obtain ⟨member, hmember⟩ := List.length_eq_one_iff.mp hone
        rw [hmember] at hfilter ⊢
        exact List.singleton_perm.mp hfilter
    rw [soleMember?, soleMember?, hsame]
  · rw [soleMember?_of_two_le hge, soleMember?_of_two_le (hfilter.length_eq ▸ hge)]

/-- The fields of an array are its items, and missing past its end. -/
theorem getD_fields_array (items : List Json) (count i : Nat) :
    (items.map some ++ List.replicate count none).getD i none = items[i]? := by
  rw [List.getD_eq_getElem?_getD]
  rcases Nat.lt_or_ge i items.length with hlt | hge
  · rw [List.getElem?_append_left (by simpa using hlt), List.getElem?_map,
      List.getElem?_eq_getElem hlt]
    rfl
  · rw [List.getElem?_append_right (by simpa using hge), List.getElem?_eq_none hge,
      List.getElem?_replicate]
    split <;> rfl

/-! ## Members that are written for fields -/

/-- The members of a record, without the fields that are absent. -/
def presentMembers (fields : List (String × Option Json)) : List (String × Json) :=
  fields.filterMap fun field => field.2.map (field.1, ·)

/-- Members have the names of their fields, in order. -/
theorem map_fst_presentMembers_sublist (fields : List (String × Option Json)) :
    ((presentMembers fields).map Prod.fst).Sublist (fields.map Prod.fst) := by
  induction fields with
  | nil => exact List.Sublist.slnil
  | cons field fields ih =>
      obtain ⟨key, value⟩ := field
      cases value with
      | none => exact ih.cons key
      | some value => exact ih.cons_cons key

/-- No member of a record has a name that is not one of a field. -/
theorem notMem_presentMembers {fields : List (String × Option Json)} {key : String}
    (h : key ∉ fields.map Prod.fst) : key ∉ (presentMembers fields).map Prod.fst :=
  fun hmem => h ((map_fst_presentMembers_sublist fields).subset hmem)

/-- Under distinct names each field is the only one of its name. -/
theorem soleMember?_presentMembers {fields : List (String × Option Json)} {key : String}
    {value : Option Json} (hnodup : (fields.map Prod.fst).Nodup) (h : (key, value) ∈ fields) :
    soleMember? [key] (presentMembers fields) = some value := by
  obtain ⟨front, back, rfl⟩ := List.append_of_mem h
  rw [List.map_append, List.map_cons, List.nodup_append, List.nodup_cons] at hnodup
  obtain ⟨-, ⟨hback, -⟩, hfront⟩ := hnodup
  have hnotFront : key ∉ front.map Prod.fst := fun hmem =>
    hfront key hmem key List.mem_cons_self rfl
  have hsplit : presentMembers (front ++ (key, value) :: back) =
      presentMembers front ++ (value.toList.map (key, ·) ++ presentMembers back) := by
    cases value <;> simp [presentMembers]
  have hown : (value.toList.map (key, ·)).filter (fun member => [key].contains member.1) =
      value.toList.map (key, ·) := by
    cases value <;> simp
  rw [soleMember?, hsplit, List.filter_append, List.filter_append, hown,
    filter_of_notMem (notMem_presentMembers hnotFront),
    filter_of_notMem (notMem_presentMembers hback)]
  cases value <;> rfl

/-- Under distinct names each field is looked up by its name. -/
theorem lookup_presentMembers {fields : List (String × Option Json)} {key : String}
    {value : Option Json} (hnodup : (fields.map Prod.fst).Nodup) (h : (key, value) ∈ fields) :
    (presentMembers fields).lookup key = value :=
  (soleMember?_eq_some_iff.mp (soleMember?_presentMembers hnodup h)).2

/-- All fields of a record are found. -/
theorem fields?_presentMembers (fields : List (String × Option Json))
    (hnodup : (fields.map Prod.fst).Nodup) :
    (object (presentMembers fields)).fields? (fields.map fun field => [field.1]) =
      some (fields.map Prod.snd) := by
  rw [fields?, List.mapM_map]
  exact mapM_eq_some_map fun field hfield => soleMember?_presentMembers hnodup hfield

end StyleCompletion.Json
