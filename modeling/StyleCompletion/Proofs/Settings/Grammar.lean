/-
The grammar of settings texts.

Settings are written as an object of at most two members, or as an array of at most two items.
The reader checks a text twice, against the form of settings while it reads and once more on the
value that it has read; together the two checks let through what the grammar has and nothing else,
in whatever order the members stand.
-/
import Mathlib.Data.List.Nodup
import StyleCompletion.Proofs.Json.Accepted
import StyleCompletion.Proofs.Json.Record
import StyleCompletion.Proofs.Json.Spelling
import StyleCompletion.Settings

namespace StyleCompletion

/-! ## Parts and what they stand for -/

namespace Json

/-- A missing part stands for the default, and a present one for the value it is written from. -/
inductive StandsFor {α : Type} (default : α) (write : α → Json) : Option Json → α → Prop where
  | missing : StandsFor default write none default
  | present (value : α) : StandsFor default write (some (write value)) value

theorem fieldOr?_eq_some_iff {α : Type} {default value : α} {read : Json → Option α}
    {write : α → Json} (hread : ∀ json value, read json = some value ↔ json = write value)
    {part : Option Json} :
    fieldOr? default read part = some value ↔ StandsFor default write part value := by
  constructor
  · intro h
    cases part with
    | none =>
        cases h
        exact .missing
    | some json =>
        rw [(hread json value).mp h]
        exact .present value
  · rintro (_ | _)
    · rfl
    · exact (hread _ _).mpr rfl

/-- A part that is present has every form that all written values have. -/
theorem StandsFor.accepts {α : Type} {default value : α} {write : α → Json} {form : Form}
    {part : Option Json} (h : StandsFor default write part value)
    (hwrite : ∀ value, form.accepts (write value) = true) {json : Json} (hpart : part = some json) :
    form.accepts json = true := by
  cases h with
  | missing => cases hpart
  | present =>
      cases hpart
      exact hwrite value

/-! ## Forms of records -/

theorem accepts_array_texts (texts : List String) :
    (Form.listOf .text).accepts (.array (texts.map .text)) = true := by
  have hitems : (Form.listOf .text).acceptsItems (texts.map .text) = true := by
    induction texts with
    | nil => rfl
    | cons text texts ih =>
        simp [Form.acceptsItems, Form.item?, Form.accepts, Form.takesText, ih]
  simp [Form.accepts, Form.takesArray, hitems]

/-- Under other names the fields are the same without this one. -/
theorem lookup_filter_of_ne {key name : String} (h : name ≠ key) (fields : List (String × Form)) :
    (fields.filter (·.1 ≠ key)).lookup name = fields.lookup name := by
  induction fields with
  | nil => rfl
  | cons field fields ih =>
      obtain ⟨other, form⟩ := field
      by_cases hother : other = key
      · rw [List.filter_cons_of_neg (by simp [hother]), ih, hother, List.lookup_cons,
          beq_false_of_ne h]
      · rw [List.filter_cons_of_pos (by simp [hother]), List.lookup_cons, List.lookup_cons, ih]

/-- An object has the form of a record if each member has the form of its field, and no two are
written for the same. -/
theorem acceptsMembers_record {fields : List (String × Form)} {members : List (String × Json)}
    (honce : (members.map Prod.fst).Nodup)
    (h : ∀ member ∈ members, ∃ form, fields.lookup member.1 = some form ∧
      form.accepts member.2 = true) :
    (Form.record fields).acceptsMembers members = true := by
  induction members generalizing fields with
  | nil => rfl
  | cons member members ih =>
      obtain ⟨key, value⟩ := member
      rw [List.map_cons, List.nodup_cons] at honce
      obtain ⟨form, hform, haccepts⟩ := h (key, value) List.mem_cons_self
      have hrest : (Form.record (fields.filter (·.1 ≠ key))).acceptsMembers members = true := by
        refine ih honce.2 fun other hother => ?_
        have hne : other.1 ≠ key := by
          intro heq
          have hmem : other.1 ∈ members.map Prod.fst := List.mem_map_of_mem hother
          exact honce.1 (heq ▸ hmem)
        rw [lookup_filter_of_ne hne]
        exact h other (List.mem_cons_of_mem _ hother)
      rw [Form.acceptsMembers, Form.member?, hform]
      exact Bool.and_eq_true_iff.mpr ⟨haccepts, hrest⟩

/-- An array has the form of a record if each item has the form of the field at its place, and no
item stands past the last field. -/
theorem acceptsItems_record {fields : List (String × Form)} {items : List Json}
    (hcount : items.length ≤ fields.length)
    (h : ∀ (i : Nat) field item, fields[i]? = some field → items[i]? = some item →
      field.2.accepts item = true) :
    (Form.record fields).acceptsItems items = true := by
  induction items generalizing fields with
  | nil => rfl
  | cons item items ih =>
      cases fields with
      | nil => simp at hcount
      | cons field fields =>
          have hitem : field.2.accepts item = true := h 0 field item rfl rfl
          have hrest : (Form.record fields).acceptsItems items = true :=
            ih (by simpa using hcount) fun i => h (i + 1)
          rw [Form.acceptsItems, Form.item?]
          exact Bool.and_eq_true_iff.mpr ⟨hitem, hrest⟩

end Json

/-! ## Settings -/

namespace Settings

open Json (StandsFor)

/-- The settings that two parts give. -/
structure GivenBy (settings : Settings) (objectTypes indent : Option Json) : Prop where
  objectTypes : StandsFor ["Font"] (fun types => .array (types.map .text)) objectTypes
    settings.objectTypes
  indent : StandsFor "\t" .text indent settings.indent

/-- The grammar of settings. -/
inductive WrittenAs (settings : Settings) : Json → Prop where
  /-- An object with no other members, and none of the two twice. -/
  | object {members : List (String × Json)}
      (hknown : ∀ member ∈ members, member.1 = "objectTypes" ∨ member.1 = "indent")
      (honce : (members.map Prod.fst).Nodup)
      (hparts : settings.GivenBy (members.lookup "objectTypes") (members.lookup "indent")) :
      WrittenAs settings (.object members)
  /-- An array of the parts in order, the last ones perhaps missing. -/
  | array {items : List Json} (hcount : items.length ≤ 2)
      (hparts : settings.GivenBy items[0]? items[1]?) :
      WrittenAs settings (.array items)

theorem ofFields?_eq_some_iff {settings : Settings} {objectTypes indent : Option Json} :
    ofFields? objectTypes indent = some settings ↔ settings.GivenBy objectTypes indent := by
  have hparts : ofFields? objectTypes indent = some settings ↔
      Json.fieldOr? ["Font"] Json.texts? objectTypes = some settings.objectTypes ∧
        Json.fieldOr? "\t" Json.text? indent = some settings.indent := by
    cases settings
    simp [ofFields?, Option.bind_eq_some_iff]
  rw [hparts, Json.fieldOr?_eq_some_iff fun _ _ => Json.texts?_eq_some_iff,
    Json.fieldOr?_eq_some_iff fun _ _ => Json.text?_eq_some_iff]
  exact ⟨fun h => ⟨h.1, h.2⟩, fun h => ⟨h.1, h.2⟩⟩

/-- If there are no other names, none is repeated if neither of the two is. -/
theorem nodup_iff_of_known {members : List (String × Json)}
    (hknown : ∀ member ∈ members, member.1 = "objectTypes" ∨ member.1 = "indent") :
    (members.map Prod.fst).Nodup ↔
      (members.map Prod.fst).count "objectTypes" ≤ 1 ∧
        (members.map Prod.fst).count "indent" ≤ 1 := by
  rw [List.nodup_iff_count_le_one]
  refine ⟨fun h => ⟨h _, h _⟩, fun h name => ?_⟩
  by_cases hname : name ∈ members.map Prod.fst
  · obtain ⟨member, hmember, rfl⟩ := List.mem_map.mp hname
    rcases hknown member hmember with heq | heq
    · exact heq ▸ h.1
    · exact heq ▸ h.2
  · simp [List.count_eq_zero_of_not_mem hname]

theorem ofJson?_object_iff {settings : Settings} {members : List (String × Json)} :
    ofJson? (.object members) = some settings ↔
      (∀ member ∈ members, member.1 = "objectTypes" ∨ member.1 = "indent") ∧
        (members.map Prod.fst).Nodup ∧
          settings.GivenBy (members.lookup "objectTypes") (members.lookup "indent") := by
  have hread : ofJson? (.object members) = some settings ↔
      ((members.map Prod.fst).count "objectTypes" ≤ 1 ∧
          (members.map Prod.fst).count "indent" ≤ 1) ∧
        (∀ member ∈ members, member.1 = "objectTypes" ∨ member.1 = "indent") ∧
          settings.GivenBy (members.lookup "objectTypes") (members.lookup "indent") := by
    simp [ofJson?, Json.fields?, List.mapM_cons, Option.bind_eq_some_iff,
      Json.soleMember?_eq_some_iff, ofFields?_eq_some_iff]
  rw [hread]
  constructor
  · rintro ⟨honce, hknown, hparts⟩
    exact ⟨hknown, (nodup_iff_of_known hknown).mpr honce, hparts⟩
  · rintro ⟨hknown, honce, hparts⟩
    exact ⟨(nodup_iff_of_known hknown).mp honce, hknown, hparts⟩

theorem ofJson?_array_iff {settings : Settings} {items : List Json} :
    ofJson? (.array items) = some settings ↔
      items.length ≤ 2 ∧ settings.GivenBy items[0]? items[1]? := by
  by_cases hcount : items.length ≤ 2
  · have hfields : Json.fields? [["objectTypes"], ["indent"]] (.array items) =
        some (items.map some ++ List.replicate (2 - items.length) none) := if_pos hcount
    rw [and_iff_right hcount, ← ofFields?_eq_some_iff,
      ← Json.getD_fields_array items (2 - items.length) 0,
      ← Json.getD_fields_array items (2 - items.length) 1]
    simp only [ofJson?, hfields]
    rfl
  · have hfields : Json.fields? [["objectTypes"], ["indent"]] (.array items) = none :=
      if_neg hcount
    simp [ofJson?, hfields, hcount]

/-- What is made of a value is what the grammar says. -/
theorem ofJson?_eq_some_iff {settings : Settings} {json : Json} :
    ofJson? json = some settings ↔ settings.WrittenAs json := by
  constructor
  · intro h
    cases json with
    | object members =>
        obtain ⟨hknown, honce, hparts⟩ := ofJson?_object_iff.mp h
        exact .object hknown honce hparts
    | array items =>
        obtain ⟨hcount, hparts⟩ := ofJson?_array_iff.mp h
        exact .array hcount hparts
    | null | bool | number | text => cases h
  · rintro (⟨hknown, honce, hparts⟩ | ⟨hcount, hparts⟩)
    · exact ofJson?_object_iff.mpr ⟨hknown, honce, hparts⟩
    · exact ofJson?_array_iff.mpr ⟨hcount, hparts⟩

/-- The form of settings refuses nothing that the grammar has. -/
theorem WrittenAs.accepts {settings : Settings} {json : Json} (h : settings.WrittenAs json) :
    form.accepts json = true := by
  cases h with
  | object hknown honce hparts =>
      rw [Json.Form.accepts]
      refine Json.acceptsMembers_record honce fun member hmember => ?_
      have hlookup := Json.lookup_of_mem honce hmember
      rcases hknown member hmember with hname | hname
      · rw [hname] at hlookup ⊢
        exact ⟨_, rfl, hparts.objectTypes.accepts Json.accepts_array_texts hlookup⟩
      · rw [hname] at hlookup ⊢
        exact ⟨_, rfl, hparts.indent.accepts (fun _ => rfl) hlookup⟩
  | array hcount hparts =>
      rw [Json.Form.accepts]
      refine Json.acceptsItems_record hcount fun i field item hfield hitem => ?_
      rcases i with _ | _ | i
      · obtain rfl := Option.some.inj hfield
        exact hparts.objectTypes.accepts Json.accepts_array_texts hitem
      · obtain rfl := Option.some.inj hfield
        exact hparts.indent.accepts (fun _ => rfl) hitem
      · exact absurd hfield (by simp)

/-- A text is read as settings exactly if it is a JSON text of their grammar, and the settings are
what the grammar makes of it. -/
theorem parse_accepts_exactly_grammar (text : String) (settings : Settings) :
    parse text = .ok settings ↔
      ∃ json, Json.parse text = .ok json ∧ settings.WrittenAs json := by
  rw [parse, Json.decode_eq_ok_iff_accepts]
  constructor
  · rintro ⟨json, hparse, -, hread⟩
    exact ⟨json, hparse, ofJson?_eq_some_iff.mp hread⟩
  · rintro ⟨json, hparse, hwritten⟩
    exact ⟨json, hparse, hwritten.accepts, ofJson?_eq_some_iff.mpr hwritten⟩

/-- An object with the parts in the other order. -/
def swappedSettings : Json :=
  .object [("indent", .text "  "), ("objectTypes", .array [.text "Font", .text "View"])]

/-- An array that ends before the indent. -/
def briefSettings : Json := .array [.array []]

theorem parse_swappedSettings_briefSettings :
    parse swappedSettings.compact = .ok { objectTypes := ["Font", "View"], indent := "  " } ∧
      parse briefSettings.compact = .ok { objectTypes := [] } := by
  constructor
  · refine (parse_accepts_exactly_grammar _ _).mpr ⟨_, Json.parse_compact ?_, ?_⟩
    · simp [swappedSettings, Json.depthLimit]
    · exact .object (by simp) (by simp) ⟨.present ["Font", "View"], .present _⟩
  · refine (parse_accepts_exactly_grammar _ _).mpr ⟨_, Json.parse_compact ?_, ?_⟩
    · simp [briefSettings, Json.depthLimit]
    · exact .array (by simp) ⟨.present [], .missing⟩

end Settings

end StyleCompletion
