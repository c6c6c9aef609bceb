/-
Members of a schema document that belong to no field.

A document is a record, and so are the objects `alloy` and `titanium` in it and each entry of its
parts.  All of them may hold members under names of their own, and those never decide anything:
neither which of the two shapes a document has, nor whether it is refused, nor which schema it is.
-/
import StyleCompletion.Proofs.Json.UnknownMembers
import StyleCompletion.Proofs.Schema.Shapes

namespace StyleCompletion

/-! ## The shapes of a document -/

namespace Shape

/-- The entry of a tag. -/
def tag : Shape := .record [(["displayName", "apiName"], .whole)]

/-- The entry of a property. -/
def property : Shape := .record [(["type"], .whole), (["values"], .whole)]

/-- The entry of a structured type. -/
def type : Shape := .record [(["properties"], .whole)]

/-- The three parts of a schema, side by side. -/
def parts : List (List String × Shape) :=
  [(["tags"], .table tag), (["properties"], .table property), (["types"], .table type)]

/-- The object that holds the tags in the nested shape. -/
def alloy : Shape := .record [(["tags"], .table tag)]

/-- The object that holds the other two parts in the nested shape. -/
def titanium : Shape := .record [(["properties"], .table property), (["types"], .table type)]

/-- A document, which is looked at for both of its shapes. -/
def document : Shape :=
  -- As an array a document has the parts only, which is why they come first.
  .record (parts ++ [(["alloy"], alloy), (["titanium"], titanium)])

/-! ## Entries and parts -/

/-- An object with values of one shape is read value by value. -/
theorem Respects.table {α : Type} {shape : Shape} {read : Json → Option α}
    (hread : shape.Respects read) : (table shape).Respects (Dictionary.ofJson? read) := by
  intro old new h
  cases h with
  | @entry _ oldValue newValue hgains name front back =>
      simp only [Dictionary.ofJson?, List.mapM_append, List.mapM_cons,
        hread oldValue newValue hgains]

theorem respects_tag : tag.Respects TagInfo.ofJson? := by
  intro old new h
  refine bind_eq_of_rel (h.rel_fields? List.prefix_rfl (by decide)) fun found foundNew hfound => ?_
  have hname := (respects_whole Json.text?).fieldOr?_eq "" (hfound 0 _ rfl)
  simp only [hname]

theorem respects_property : property.Respects PropertyInfo.ofJson? := by
  intro old new h
  refine bind_eq_of_rel (h.rel_fields? List.prefix_rfl (by decide)) fun found foundNew hfound => ?_
  have htype := (respects_whole (Json.nullable? Json.text?)).fieldOr?_eq none (hfound 0 _ rfl)
  have hvalues := (respects_whole (Json.nullable? Json.texts?)).fieldOr?_eq none (hfound 1 _ rfl)
  simp only [htype, hvalues]

theorem respects_type : type.Respects TypeInfo.ofJson? := by
  intro old new h
  refine bind_eq_of_rel (h.rel_fields? List.prefix_rfl (by decide)) fun found foundNew hfound => ?_
  have hproperties := (respects_whole Json.texts?).fieldOr?_eq [] (hfound 0 _ rfl)
  simp only [hproperties]

end Shape

namespace Schema

/-- Parts that are alike are the same schema. -/
theorem ofParts?_eq_of_alike {tags properties types tags' properties' types' : Option Json}
    (htags : Option.Rel (Shape.table .tag).Alike tags tags')
    (hproperties : Option.Rel (Shape.table .property).Alike properties properties')
    (htypes : Option.Rel (Shape.table .type).Alike types types') :
    ofParts? tags properties types = ofParts? tags' properties' types' := by
  rw [ofParts?, ofParts?, Shape.respects_tag.table.fieldOr?_eq _ htags,
    Shape.respects_property.table.fieldOr?_eq _ hproperties,
    Shape.respects_type.table.fieldOr?_eq _ htypes]

/-! ## Documents -/

theorem ofFlat?_eq_of_gainsUnknown {old new : Json} (h : Shape.document.GainsUnknown old new) :
    ofFlat? old = ofFlat? new := by
  refine Shape.bind_eq_of_rel (h.rel_fields? (List.prefix_append ..) (by decide))
    fun found foundNew hfound => ?_
  exact ofParts?_eq_of_alike (hfound 0 _ rfl) (hfound 1 _ rfl) (hfound 2 _ rfl)

/-- In the nested shape the parts are found in two records, each of which is alike. -/
theorem ofNested?_object_eq_of_gainsUnknown {members newMembers : List (String × Json)}
    (h : Shape.document.GainsUnknown (.object members) (.object newMembers)) :
    ofNested? (.object members) = ofNested? (.object newMembers) := by
  have hfield (field : List String × Shape)
      (hmem : field ∈ Shape.parts ++ [(["alloy"], .alloy), (["titanium"], .titanium)]) :
      Option.Rel (Option.Rel field.2.Alike) (Json.soleMember? field.1 members)
        (Json.soleMember? field.1 newMembers) := h.rel_soleMember? (by decide) hmem
  refine Shape.bind_eq_of_rel (hfield (["alloy"], .alloy) (by simp)) fun _ _ hfound => ?_
  refine Shape.bind_eq_of_rel hfound fun alloy alloyNew halloy => ?_
  refine Shape.bind_eq_of_rel (hfield (["titanium"], .titanium) (by simp)) fun _ _ hfound => ?_
  refine Shape.bind_eq_of_rel hfound fun titanium titaniumNew htitanium => ?_
  refine Shape.bind_eq_of_rel (halloy.rel_fields? List.prefix_rfl (by decide))
    fun tags tagsNew htags => ?_
  refine Shape.bind_eq_of_rel (htitanium.rel_fields? List.prefix_rfl (by decide))
    fun rest restNew hrest => ?_
  exact ofParts?_eq_of_alike (htags 0 _ rfl) (hrest 0 _ rfl) (hrest 1 _ rfl)

/-- A document that gains a member has the nested shape as before. -/
theorem ofNested?_eq_of_gainsUnknown {old new : Json} (h : Shape.document.GainsUnknown old new) :
    ofNested? old = ofNested? new := by
  cases h with
  | here hname front back value =>
      exact ofNested?_object_eq_of_gainsUnknown (.here hname front back value)
  | member hfield hname hgains front back =>
      exact ofNested?_object_eq_of_gainsUnknown (.member hfield hname hgains front back)
  | item => rfl

/-- Members that belong to no field never matter.  Where a document gains one, in any of its
records and at any place in it, it stands for the same schema as before, or is refused for its
shape as before. -/
theorem unknown_members_never_matter {old new : Json} (h : Shape.document.GainsUnknown old new) :
    ofJson? new = ofJson? old ∧
    ∀ oldText newText : String, Json.parse oldText = .ok old → Json.parse newText = .ok new →
      (∃ schema, ofText oldText = .ok schema ∧ ofText newText = .ok schema) ∨
      (ofText oldText = .error (.invalid none .wrongShape) ∧
        ofText newText = .error (.invalid none .wrongShape)) := by
  have hsame : ofJson? new = ofJson? old := by
    rw [ofJson?, ofJson?, ofNested?_eq_of_gainsUnknown h, ofFlat?_eq_of_gainsUnknown h]
  refine ⟨hsame, fun oldText newText hold hnew => ?_⟩
  rw [ofText_of_parse hold, ofText_of_parse hnew, hsame]
  cases ofJson? old with
  | none => exact .inr ⟨rfl, rfl⟩
  | some schema => exact .inl ⟨schema, rfl, rfl⟩

/-- A document in the nested shape, with its tags as the first item of an array and with this
entry for one tag. -/
def labelDocument (entry : List (String × Json)) : Json :=
  .object [("alloy", .array [.object [("Label", .object entry)]]), ("titanium", .object [])]

/-- The entry of a tag. -/
def labelEntry : List (String × Json) := [("apiName", .text "Ti.UI.Label")]

/-- The same entry behind a member that would be a field in the entry of a property. -/
def notedLabelEntry : List (String × Json) := ("values", .text "none") :: labelEntry

/-- The member makes no difference to the tag. -/
theorem unknown_members_in_labelDocument :
    Shape.document.GainsUnknown (labelDocument labelEntry) (labelDocument notedLabelEntry) ∧
    ∃ schema, ofText (labelDocument labelEntry).compact = .ok schema ∧
      ofText (labelDocument notedLabelEntry).compact = .ok schema ∧
      schema.tag "Label" = some { displayName := "Ti.UI.Label" } := by
  have hentry : Shape.tag.GainsUnknown (.object labelEntry) (.object notedLabelEntry) :=
    .here (by simp) [] labelEntry (.text "none")
  have halloy : Shape.alloy.GainsUnknown (.array [.object [("Label", .object labelEntry)]])
      (.array [.object [("Label", .object notedLabelEntry)]]) :=
    .item [] rfl (.entry hentry "Label" [] []) []
  have hgains : Shape.document.GainsUnknown (labelDocument labelEntry)
      (labelDocument notedLabelEntry) :=
    .member (List.mem_append_right _ List.mem_cons_self) List.mem_cons_self halloy []
      [("titanium", .object [])]
  have hold : Json.parse (labelDocument labelEntry).compact = .ok (labelDocument labelEntry) :=
    Json.parse_compact (by simp [labelDocument, labelEntry, Json.depthLimit])
  have hnew : Json.parse (labelDocument notedLabelEntry).compact =
      .ok (labelDocument notedLabelEntry) :=
    Json.parse_compact (by simp [labelDocument, notedLabelEntry, labelEntry, Json.depthLimit])
  have hschema : ofJson? (labelDocument labelEntry) =
      some { tags := .ofList [("Label", { displayName := "Ti.UI.Label" })] } := rfl
  have htext := (ofText_eq_ok_iff hold).mpr hschema
  refine ⟨hgains, ?_⟩
  rcases (unknown_members_never_matter hgains).2 _ _ hold hnew with
    ⟨schema, hread, hreadNew⟩ | ⟨hrefused, -⟩
  · obtain rfl := Except.ok.inj (hread.symm.trans htext)
    exact ⟨_, hread, hreadNew, rfl⟩
  · rw [htext] at hrefused
    exact absurd hrefused (by simp)

end Schema

end StyleCompletion
