/-
A schema is read back from its own text.

Entry by entry and part by part, reading undoes writing: a dictionary keeps its names and their
order, and what is not known of a property is left out and found missing.  A schema that is
written has none of the members that the nested shape asks for, so it is read in the flat shape.
-/
import StyleCompletion.Proofs.Schema.Shapes

namespace StyleCompletion

/-! ## Dictionaries -/

namespace Dictionary

variable {α : Type}

theorem put_of_notMem {name : String} {value : α} {entries : List (String × α)}
    (h : name ∉ entries.map Prod.fst) : put name value entries = entries ++ [(name, value)] := by
  induction entries with
  | nil => rfl
  | cons entry rest ih =>
      obtain ⟨other, old⟩ := entry
      rw [List.map_cons, List.mem_cons, not_or] at h
      rw [put, if_neg (Ne.symm h.1), ih h.2, List.cons_append]

/-- Entries under new and distinct names come last, in their order. -/
theorem entries_foldl_insert {d : Dictionary α} {entries : List (String × α)}
    (h : ((d.entries ++ entries).map Prod.fst).Nodup) :
    (entries.foldl (fun d entry => d.insert entry.1 entry.2) d).entries = d.entries ++ entries := by
  induction entries generalizing d with
  | nil => rw [List.foldl_nil, List.append_nil]
  | cons entry rest ih =>
      have hnew : entry.1 ∉ d.entries.map Prod.fst := by
        rw [List.map_append, List.map_cons, List.nodup_append] at h
        exact fun hmem => h.2.2 entry.1 hmem entry.1 List.mem_cons_self rfl
      have hinsert : (d.insert entry.1 entry.2).entries = d.entries ++ [entry] :=
        put_of_notMem hnew
      rw [List.append_cons, ← hinsert] at h
      rw [List.foldl_cons, ih h, hinsert, ← List.append_cons]

/-- A dictionary is the one of its own entries. -/
theorem ofList_entries (d : Dictionary α) : ofList d.entries = d :=
  Dictionary.ext (entries_foldl_insert (d := empty) d.nodup)

end Dictionary

namespace Schema

/-- A dictionary is read back with its names in order, if its values are. -/
theorem ofJson?_dictionaryToJson {α : Type} {read : Json → Option α} {write : α → Json}
    (h : ∀ value, read (write value) = some value) (d : Dictionary α) :
    Dictionary.ofJson? read (dictionaryToJson write d) = some d := by
  have hentries : d.entries.mapM (fun entry => (read (write entry.2)).map (entry.1, ·)) =
      some (d.entries.map id) :=
    Json.mapM_eq_some_map fun entry _ => by rw [h, Option.map_some]; rfl
  rw [dictionaryToJson, Dictionary.ofJson?, List.mapM_map]
  rw [List.map_id] at hentries
  exact (congrArg (Option.map Dictionary.ofList) hentries).trans
    (congrArg some (Dictionary.ofList_entries d))

/-! ## Entries -/

theorem texts?_textsToJson (texts : List String) :
    Json.texts? (textsToJson texts) = some texts :=
  Json.texts?_eq_some_iff.mpr rfl

theorem ofJson?_tagToJson (info : TagInfo) : TagInfo.ofJson? (tagToJson info) = some info := rfl

theorem ofJson?_typeToJson (info : TypeInfo) : TypeInfo.ofJson? (typeToJson info) = some info := by
  have hfields : (typeToJson info).fields? [["properties"]] =
      some [some (textsToJson info.properties)] := rfl
  simp [TypeInfo.ofJson?, hfields, Json.fieldOr?, texts?_textsToJson]

/-- What is known of a property is written, and nothing else. -/
theorem propertyToJson_eq (info : PropertyInfo) :
    propertyToJson info = .object (Json.presentMembers
      [("type", info.type.map Json.text), ("values", info.values.map textsToJson)]) := by
  obtain ⟨type, values⟩ := info
  cases type <;> cases values <;> rfl

theorem ofJson?_propertyToJson (info : PropertyInfo) :
    PropertyInfo.ofJson? (propertyToJson info) = some info := by
  have hfields := Json.fields?_presentMembers
    [("type", info.type.map Json.text), ("values", info.values.map textsToJson)] (by simp)
  simp only [List.map_cons, List.map_nil] at hfields
  have htype : Json.fieldOr? none (Json.nullable? Json.text?) (info.type.map Json.text) =
      some info.type := by
    cases info.type <;> rfl
  have hvalues : Json.fieldOr? none (Json.nullable? Json.texts?) (info.values.map textsToJson) =
      some info.values := by
    cases info.values with
    | none => rfl
    | some values =>
        show (Json.texts? (textsToJson values)).map some = some (some values)
        rw [texts?_textsToJson, Option.map_some]
  rw [propertyToJson_eq, PropertyInfo.ofJson?, hfields]
  simp [htype, hvalues]

/-! ## Schemas -/

/-- A schema is read back from the value that it is written as. -/
theorem ofJson?_toJson (schema : Schema) : ofJson? schema.toJson = some schema := by
  have hflat : schema.toJson = flatDocument (some (dictionaryToJson tagToJson schema.tags))
      (some (dictionaryToJson propertyToJson schema.properties))
      (some (dictionaryToJson typeToJson schema.types)) := rfl
  rw [hflat, ofJson?_flatDocument]
  simp [ofParts?, Json.fieldOr?, ofJson?_dictionaryToJson ofJson?_tagToJson,
    ofJson?_dictionaryToJson ofJson?_propertyToJson, ofJson?_dictionaryToJson ofJson?_typeToJson]

theorem fits_textsToJson (depth : Nat) (texts : List String) :
    Json.Fits (depth + 1) (textsToJson texts) := by
  simp [textsToJson]

theorem fits_dictionaryToJson {α : Type} {write : α → Json} {depth : Nat}
    (h : ∀ value, Json.Fits depth (write value)) (d : Dictionary α) :
    Json.Fits (depth + 1) (dictionaryToJson write d) := by
  rw [dictionaryToJson, Json.fits_object_iff]
  intro member hmember
  obtain ⟨entry, -, rfl⟩ := List.mem_map.mp hmember
  exact h entry.2

theorem fits_propertyToJson (depth : Nat) (info : PropertyInfo) :
    Json.Fits (depth + 2) (propertyToJson info) := by
  obtain ⟨type, values⟩ := info
  cases type <;> cases values <;> simp [propertyToJson, fits_textsToJson]

/-- A schema is four levels deep, however large it is. -/
theorem fits_toJson (depth : Nat) (schema : Schema) : Json.Fits (depth + 4) schema.toJson := by
  have htag (info : TagInfo) : Json.Fits (depth + 2) (tagToJson info) := by simp [tagToJson]
  have htype (info : TypeInfo) : Json.Fits (depth + 2) (typeToJson info) := by
    simp [typeToJson, fits_textsToJson]
  simp [toJson, fits_dictionaryToJson htag, fits_dictionaryToJson (fits_propertyToJson depth),
    fits_dictionaryToJson htype]

theorem parse_render (schema : Schema) : Schema.parse schema.render = .ok schema :=
  Json.decode_compact (fits_toJson 123 schema) (ofJson?_toJson schema)

/-- Every schema is read back from its own text, with the names of its tags, properties and
types in the same order. -/
theorem ofText_render (schema : Schema) : ofText schema.render = .ok schema := by
  rw [ofText, parse_render]
  rfl

end Schema

end StyleCompletion
