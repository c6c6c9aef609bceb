/-
The two shapes of a schema document.

The nested shape puts the same three parts under `alloy` and `titanium` that the flat shape puts
side by side.  Where the flat document is a schema, the nested one is the same schema, whatever
else stands beside `alloy` and `titanium`.  Where the flat document is refused, the nested one is
not: it is then taken for a flat document that has none of the three parts, and read as the empty
schema.
-/
import StyleCompletion.Proofs.Json.Record
import StyleCompletion.Proofs.Json.Spelling
import StyleCompletion.Schema.Store

namespace StyleCompletion

/-! ## Texts and the values they hold -/

/-- Of a text that is a value, what it stands for is decided by the value alone. -/
theorem Json.decode_of_parse {α : Type} {read : Json → Option α} {text : String} {value : Json}
    (h : Json.parse text = .ok value) :
    Json.decode .any read text =
      match read value with
      | some result => .ok result
      | none => .error .wrongShape := by
  simp only [Json.parse, Json.decode] at h ⊢
  cases hvalue : Json.readValue (Json.readerFuel text.toList) Json.depthLimit .any text.toList with
  | error fault => simp [hvalue, bind, Except.bind] at h
  | ok found =>
      obtain ⟨other, rest⟩ := found
      simp only [hvalue, bind, Except.bind] at h ⊢
      cases hend : Json.readEnd rest with
      | error fault => simp [hend] at h
      | ok =>
        simp [hend, pure, Except.pure] at h
        subst h
        cases read other <;> simp [pure, Except.pure]

namespace Schema

/-- The document with the three parts side by side, as far as they are present. -/
def flatDocument (tags properties types : Option Json) : Json :=
  .object (Json.presentMembers [("tags", tags), ("properties", properties), ("types", types)])

/-- The members `alloy` and `titanium` with the three parts in them, as far as they are
present. -/
def nestedMembers (tags properties types : Option Json) : List (String × Json) :=
  [("alloy", .object (Json.presentMembers [("tags", tags)])),
    ("titanium", .object (Json.presentMembers [("properties", properties), ("types", types)]))]

variable {tags properties types : Option Json}

theorem ofFlat?_flatDocument :
    ofFlat? (flatDocument tags properties types) = ofParts? tags properties types := by
  have hfields := Json.fields?_presentMembers
    [("tags", tags), ("properties", properties), ("types", types)] (by simp)
  simp only [List.map_cons, List.map_nil] at hfields
  rw [ofFlat?, flatDocument, hfields]
  rfl

/-- A document without `alloy` does not have the nested shape. -/
theorem ofNested?_of_notMem {members : List (String × Json)}
    (h : "alloy" ∉ members.map Prod.fst) : ofNested? (.object members) = none := by
  rw [ofNested?, Json.soleMember?_of_notMem h]
  rfl

/-- The flat document stands for its parts. -/
theorem ofJson?_flatDocument :
    ofJson? (flatDocument tags properties types) = ofParts? tags properties types := by
  have hnested : ofNested? (flatDocument tags properties types) = none :=
    ofNested?_of_notMem (Json.notMem_presentMembers (by simp))
  rw [ofJson?, hnested, Option.none_or, ofFlat?_flatDocument]

/-- Beside `alloy` and `titanium` nothing matters to the nested shape. -/
theorem ofNested?_object {outer : List (String × Json)}
    (h : outer.filter (fun member => ["alloy", "titanium"].contains member.1) =
      nestedMembers tags properties types) :
    ofNested? (.object outer) = ofParts? tags properties types := by
  have halloy : Json.soleMember? ["alloy"] outer =
      some (some (.object (Json.presentMembers [("tags", tags)]))) := by
    rw [← Json.soleMember?_filter ["alloy", "titanium"] (by simp), h]
    rfl
  have htitanium : Json.soleMember? ["titanium"] outer =
      some (some (.object
        (Json.presentMembers [("properties", properties), ("types", types)]))) := by
    rw [← Json.soleMember?_filter ["alloy", "titanium"] (by simp), h]
    rfl
  have htags := Json.fields?_presentMembers [("tags", tags)] (by simp)
  have hrest := Json.fields?_presentMembers
    [("properties", properties), ("types", types)] (by simp)
  simp only [List.map_cons, List.map_nil] at htags hrest
  rw [ofNested?, halloy, htitanium]
  simp only [Option.bind_eq_bind, Option.bind_some, htags, hrest]
  rfl

/-- Without parts there is nothing to refuse. -/
theorem ofFlat?_nestedMembers :
    ofFlat? (.object (nestedMembers tags properties types)) = some {} := by
  have habsent (key : String) (h : key ∉ ["alloy", "titanium"]) :
      Json.soleMember? [key] (nestedMembers tags properties types) = some none :=
    Json.soleMember?_of_notMem h
  have hfields : (Json.object (nestedMembers tags properties types)).fields?
      [["tags"], ["properties"], ["types"]] = some [none, none, none] := by
    simp [Json.fields?, habsent]
  rw [ofFlat?, hfields]
  rfl

theorem filter_nestedMembers :
    (nestedMembers tags properties types).filter
        (fun member => ["alloy", "titanium"].contains member.1) =
      nestedMembers tags properties types := by
  simp [nestedMembers]

/-! ## Texts of the two shapes -/

theorem ofText_of_parse {text : String} {value : Json} (h : Json.parse text = .ok value) :
    ofText text =
      match ofJson? value with
      | some schema => .ok schema
      | none => .error (.invalid none .wrongShape) := by
  rw [ofText, Schema.parse, Json.decode_of_parse h]
  cases ofJson? value <;> rfl

/-- A text is a schema exactly if the value that it holds is one. -/
theorem ofText_eq_ok_iff {text : String} {value : Json} (h : Json.parse text = .ok value)
    {schema : Schema} : ofText text = .ok schema ↔ ofJson? value = some schema := by
  rw [ofText_of_parse h]
  cases ofJson? value <;> simp

/-- Whenever the flat document is a schema, each document that has the same parts under `alloy`
and `titanium` is the same schema, whatever stands beside these two. -/
theorem same_schema_in_both_shapes {outer : List (String × Json)}
    (houter : outer.filter (fun member => ["alloy", "titanium"].contains member.1) =
      nestedMembers tags properties types) :
    (∀ schema, ofJson? (flatDocument tags properties types) = some schema →
      ofJson? (.object outer) = some schema) ∧
    ∀ (flat nested : String) (schema : Schema),
      Json.parse flat = .ok (flatDocument tags properties types) →
      Json.parse nested = .ok (.object outer) →
      ofText flat = .ok schema → ofText nested = .ok schema := by
  have hvalue (schema : Schema)
      (h : ofJson? (flatDocument tags properties types) = some schema) :
      ofJson? (.object outer) = some schema := by
    rw [ofJson?_flatDocument] at h
    rw [ofJson?, ofNested?_object houter, h, Option.some_or]
  refine ⟨hvalue, fun flat nested schema hflat hnested h => ?_⟩
  rw [ofText_eq_ok_iff hflat] at h
  rw [ofText_eq_ok_iff hnested]
  exact hvalue schema h

/-- Tags with one entry. -/
def labelTags : Json := .object [("Label", .object [("apiName", .text "Ti.UI.Label")])]

/-- Properties with one entry. -/
def fontProperties : Json := .object [("font", .object [("type", .text "Font")])]

/-- The members of the nested shape among others, some of them under the names of parts. -/
def crowdedMembers : List (String × Json) :=
  [("tags", .null)] ++ nestedMembers (some labelTags) (some fontProperties) none ++
    [("types", .text "none"), ("tags", .array [])]

/-- Members `tags` and `types` beside the nested parts leave the schema as it is. -/
theorem same_schema_crowdedMembers :
    ∃ schema,
      ofText (flatDocument (some labelTags) (some fontProperties) none).compact = .ok schema ∧
      ofText (Json.object crowdedMembers).compact = .ok schema ∧
      schema.tags.keys = ["Label"] ∧ schema.propertyType "font" = some "Font" := by
  have hflat : Json.parse (flatDocument (some labelTags) (some fontProperties) none).compact =
      .ok (flatDocument (some labelTags) (some fontProperties) none) :=
    Json.parse_compact (by
      simp [flatDocument, Json.presentMembers, labelTags, fontProperties, Json.depthLimit])
  have hnested : Json.parse (Json.object crowdedMembers).compact = .ok (.object crowdedMembers) :=
    Json.parse_compact (by
      simp [crowdedMembers, nestedMembers, Json.presentMembers, labelTags, fontProperties,
        Json.depthLimit])
  have houter : crowdedMembers.filter (fun member => ["alloy", "titanium"].contains member.1) =
      nestedMembers (some labelTags) (some fontProperties) none := rfl
  have hschema : ofJson? (flatDocument (some labelTags) (some fontProperties) none) = some {
      tags := .ofList [("Label", { displayName := "Ti.UI.Label" })]
      properties := .ofList [("font", { type := some "Font" })] } := rfl
  have htext := (ofText_eq_ok_iff hflat).mpr hschema
  exact ⟨_, htext, (same_schema_in_both_shapes houter).2 _ _ _ hflat hnested htext, rfl, rfl⟩

/-! ## Parts that are refused -/

theorem ofJson?_nestedMembers :
    ofJson? (.object (nestedMembers tags properties types)) =
      some ((ofJson? (flatDocument tags properties types)).getD {}) := by
  rw [ofJson?, ofNested?_object filter_nestedMembers, ofFlat?_nestedMembers, ofJson?_flatDocument]
  cases ofParts? tags properties types <;> rfl

/-- A document of the nested shape is never refused.  It stands for the same schema as the flat
document with its parts, and for the empty one where the flat document is refused. -/
theorem nested_document_never_refused {flat nested : String}
    (hflat : Json.parse flat = .ok (flatDocument tags properties types))
    (hnested : Json.parse nested = .ok (.object (nestedMembers tags properties types))) :
    ofText nested = .ok ((ofText flat).toOption.getD {}) := by
  rw [ofText_eq_ok_iff hnested, ofJson?_nestedMembers, ofText_of_parse hflat]
  cases ofJson? (flatDocument tags properties types) <;> rfl

/-- Tags with a text in the place of an entry. -/
def bareTags : Json := .object [("Window", .text "Ti.UI.Window")]

/-- The flat document with these tags. -/
def bareFlat : Json := flatDocument (some bareTags) (some fontProperties) (some (.object []))

/-- The nested document with these tags. -/
def bareNested : Json :=
  .object (nestedMembers (some bareTags) (some fontProperties) (some (.object [])))

theorem parse_bareFlat : Json.parse bareFlat.compact = .ok bareFlat :=
  Json.parse_compact (by
    simp [bareFlat, flatDocument, Json.presentMembers, bareTags, fontProperties, Json.depthLimit])

theorem parse_bareNested : Json.parse bareNested.compact = .ok bareNested :=
  Json.parse_compact (by
    simp [bareNested, nestedMembers, Json.presentMembers, bareTags, fontProperties,
      Json.depthLimit])

theorem ofText_bareFlat : ofText bareFlat.compact = .error (.invalid none .wrongShape) := by
  rw [ofText_of_parse parse_bareFlat]
  rfl

/-- Refused side by side, such tags are lost without an error in the nested document, and the
properties beside them too. -/
theorem nested_bareTags_read_as_empty :
    ofText bareFlat.compact = .error (.invalid none .wrongShape) ∧
      ofText bareNested.compact = .ok {} := by
  refine ⟨ofText_bareFlat, ?_⟩
  rw [nested_document_never_refused parse_bareFlat parse_bareNested, ofText_bareFlat]
  rfl

/-- So a nested document is not refused whenever the flat document with its parts is. -/
theorem not_forall_nested_refused :
    ¬∀ (tags properties types : Json) (flat nested : String),
      Json.parse flat = .ok (flatDocument (some tags) (some properties) (some types)) →
      Json.parse nested =
        .ok (.object (nestedMembers (some tags) (some properties) (some types))) →
      (∀ schema, ofText flat ≠ .ok schema) → ∀ schema, ofText nested ≠ .ok schema := by
  intro h
  refine h bareTags fontProperties (.object []) _ _ parse_bareFlat parse_bareNested ?_ {} ?_
  · intro schema hschema
    rw [ofText_bareFlat] at hschema
    exact absurd hschema (by simp)
  · rw [ofText_of_parse parse_bareNested]
    rfl

end Schema

end StyleCompletion
