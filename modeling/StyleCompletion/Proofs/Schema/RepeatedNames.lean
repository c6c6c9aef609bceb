/-
Names that come more than once in a part of a schema.

The entries of a part are put into a dictionary one after the other.  So a name stands where it
comes first, and under it stands what comes last; but an entry that a later one replaces has to
be readable all the same.  The order of the tags in a schema text is the order in which they are
offered.
-/
import Mathlib.Data.List.Induction
import StyleCompletion.Proofs.Rule.Library
import StyleCompletion.Proofs.Schema.Shapes

namespace StyleCompletion

/-! ## One more entry -/

namespace Dictionary

variable {α : Type}

theorem keys_insert (d : Dictionary α) (name : String) (value : α) :
    (d.insert name value).keys = if name ∈ d.keys then d.keys else d.keys ++ [name] :=
  map_fst_put name value d.entries

theorem lookup_put (name other : String) (value : α) (entries : List (String × α)) :
    (put name value entries).lookup other =
      if other = name then some value else entries.lookup other := by
  induction entries with
  | nil => by_cases hother : other = name <;> simp [put, hother]
  | cons entry rest ih =>
      obtain ⟨found, old⟩ := entry
      rw [put]
      by_cases hfound : found = name
      · -- The entry is replaced where it stands.
        rw [if_pos hfound, List.lookup_cons, List.lookup_cons, hfound]
        by_cases hother : other = name
        · simp [hother]
        · simp [hother, beq_false_of_ne hother]
      · rw [if_neg hfound, List.lookup_cons, List.lookup_cons, ih]
        by_cases hother : other = name
        · simp [hother, beq_false_of_ne (Ne.symm hfound)]
        · simp [hother]

/-- What was put under a name is found there, and nothing else changes. -/
theorem get?_insert (d : Dictionary α) (name other : String) (value : α) :
    (d.insert name value).get? other = if other = name then some value else d.get? other :=
  lookup_put name other value d.entries

variable {read : Json → Option α} {entries : List (String × Json)} {d : Dictionary α}

/-- Reading one more entry is reading the ones before it, and then putting it in. -/
theorem ofJson?_concat (read : Json → Option α) (entries : List (String × Json))
    (name : String) (json : Json) :
    ofJson? read (.object (entries ++ [(name, json)])) =
      (ofJson? read (.object entries)).bind fun d => (read json).map (d.insert name) := by
  simp only [ofJson?, List.mapM_append, List.mapM_cons, List.mapM_nil]
  cases entries.mapM fun member => (read member.2).map (member.1, ·) with
  | none => rfl
  | some found =>
      cases read json with
      | none => rfl
      | some value => simp [ofList]

/-! ## All entries -/

/-- A part is read exactly if each of its entries is, also one that a later one replaces. -/
theorem exists_ofJson?_iff :
    (∃ d, ofJson? read (.object entries) = some d) ↔
      ∀ entry ∈ entries, ∃ value, read entry.2 = some value := by
  induction entries using List.reverseRecOn with
  | nil => exact ⟨fun _ entry hentry => absurd hentry List.not_mem_nil, fun _ => ⟨empty, rfl⟩⟩
  | append_singleton front entry ih =>
      obtain ⟨name, json⟩ := entry
      rw [ofJson?_concat, List.forall_mem_append, ← ih, List.forall_mem_singleton]
      simp only [Option.bind_eq_some_iff, Option.map_eq_some_iff]
      constructor
      · rintro ⟨d, before, hbefore, value, hvalue, -⟩
        exact ⟨⟨before, hbefore⟩, value, hvalue⟩
      · rintro ⟨⟨before, hbefore⟩, value, hvalue⟩
        exact ⟨_, before, hbefore, value, hvalue, rfl⟩

/-- One more element is a new one, or it leaves the list of those before it as it is. -/
theorem eraseDups_concat (names : List String) (name : String) :
    (names ++ [name]).eraseDups =
      if name ∈ names.eraseDups then names.eraseDups else names.eraseDups ++ [name] := by
  rw [List.eraseDups_append, List.removeAll]
  by_cases hname : name ∈ names
  · rw [if_pos (List.mem_eraseDups.mpr hname), List.filter_cons_of_neg (by simpa using hname)]
    simp
  · rw [if_neg (fun hmem => hname (List.mem_eraseDups.mp hmem)),
      List.filter_cons_of_pos (by simpa using hname), List.filter_nil, List.eraseDups_cons]
    simp

/-- Names stand in the order in which they come first. -/
theorem keys_of_ofJson? (h : ofJson? read (.object entries) = some d) :
    d.keys = (entries.map Prod.fst).eraseDups := by
  induction entries using List.reverseRecOn generalizing d with
  | nil =>
      obtain rfl : empty = d := Option.some.inj h
      rfl
  | append_singleton front entry ih =>
      obtain ⟨name, json⟩ := entry
      rw [ofJson?_concat] at h
      obtain ⟨before, hbefore, hafter⟩ := Option.bind_eq_some_iff.mp h
      obtain ⟨value, -, rfl⟩ := Option.map_eq_some_iff.mp hafter
      rw [keys_insert, ih hbefore, List.map_append, List.map_singleton, eraseDups_concat]

/-- Under a name stands what comes last. -/
theorem get?_of_ofJson? (h : ofJson? read (.object entries) = some d) (name : String) :
    d.get? name = (entries.reverse.lookup name).bind read := by
  induction entries using List.reverseRecOn generalizing d with
  | nil =>
      obtain rfl : empty = d := Option.some.inj h
      rfl
  | append_singleton front entry ih =>
      obtain ⟨last, json⟩ := entry
      rw [ofJson?_concat] at h
      obtain ⟨before, hbefore, hafter⟩ := Option.bind_eq_some_iff.mp h
      obtain ⟨value, hvalue, rfl⟩ := Option.map_eq_some_iff.mp hafter
      rw [get?_insert, ih hbefore, List.reverse_append, List.reverse_singleton,
        List.singleton_append, List.lookup_cons]
      by_cases hname : name = last
      · simp [hname, hvalue]
      · simp [hname, beq_false_of_ne hname]

end Dictionary

/-! ## Documents in the flat shape -/

namespace Schema

/-- The names that a document is read by, in either shape. -/
def documentNames : List String := ["tags", "properties", "types", "alloy", "titanium"]

/-- An object in the flat shape: of the members that a document is read by it has the three
parts and no others, each part at most once and in any order. -/
def IsFlat (members : List (String × Json)) (tags properties types : Option Json) : Prop :=
  (members.filter fun member => documentNames.contains member.1).Perm
    (Json.presentMembers [("tags", tags), ("properties", properties), ("types", types)])

/-- Such an object is read as the document of its three parts alone. -/
theorem IsFlat.ofJson?_eq {members : List (String × Json)} {tags properties types : Option Json}
    (h : IsFlat members tags properties types) :
    ofJson? (.object members) = ofParts? tags properties types := by
  have hsole (key : String) (hkey : key ∈ documentNames) :
      Json.soleMember? [key] members = Json.soleMember? [key]
        (Json.presentMembers [("tags", tags), ("properties", properties), ("types", types)]) := by
    rw [← Json.soleMember?_filter documentNames hkey]
    exact Json.soleMember?_perm h
  have hflat : ofFlat? (.object members) = ofFlat? (flatDocument tags properties types) := by
    simp only [ofFlat?, flatDocument, Json.fields?, List.mapM_cons, List.mapM_nil,
      hsole "tags" (by decide), hsole "properties" (by decide), hsole "types" (by decide)]
  have hnested : ofNested? (.object members) = ofNested? (flatDocument tags properties types) := by
    simp only [ofNested?, flatDocument, hsole "alloy" (by decide), hsole "titanium" (by decide)]
  rw [← ofJson?_flatDocument, ofJson?, ofJson?, hflat, hnested]

/-- A part that is missing is read as one without entries. -/
theorem fieldOr?_map_object {α : Type} (read : Json → Option α)
    (part : Option (List (String × Json))) :
    Json.fieldOr? .empty (Dictionary.ofJson? read) (part.map .object) =
      Dictionary.ofJson? read (.object (part.getD [])) := by
  cases part with
  | none => rfl
  | some entries => rfl

variable {tags properties types : Option (List (String × Json))} {schema : Schema}

/-- A schema is read part by part. -/
theorem ofParts?_eq_some_iff :
    ofParts? (tags.map .object) (properties.map .object) (types.map .object) = some schema ↔
      Dictionary.ofJson? TagInfo.ofJson? (.object (tags.getD [])) = some schema.tags ∧
      Dictionary.ofJson? PropertyInfo.ofJson? (.object (properties.getD [])) =
        some schema.properties ∧
      Dictionary.ofJson? TypeInfo.ofJson? (.object (types.getD [])) = some schema.types := by
  simp only [ofParts?, fieldOr?_map_object, Option.bind_eq_bind, Option.bind_eq_some_iff,
    Option.pure_def, Option.some.injEq]
  constructor
  · rintro ⟨readTags, htags, readProperties, hproperties, readTypes, htypes, rfl⟩
    exact ⟨htags, hproperties, htypes⟩
  · rintro ⟨htags, hproperties, htypes⟩
    exact ⟨_, htags, _, hproperties, _, htypes, rfl⟩

/-- So it is read exactly if its three parts are. -/
theorem exists_ofParts?_iff :
    (∃ schema, ofParts? (tags.map .object) (properties.map .object) (types.map .object) =
        some schema) ↔
      (∃ d, Dictionary.ofJson? TagInfo.ofJson? (.object (tags.getD [])) = some d) ∧
      (∃ d, Dictionary.ofJson? PropertyInfo.ofJson? (.object (properties.getD [])) = some d) ∧
      ∃ d, Dictionary.ofJson? TypeInfo.ofJson? (.object (types.getD [])) = some d := by
  simp only [ofParts?_eq_some_iff]
  constructor
  · rintro ⟨schema, htags, hproperties, htypes⟩
    exact ⟨⟨_, htags⟩, ⟨_, hproperties⟩, ⟨_, htypes⟩⟩
  · rintro ⟨⟨readTags, htags⟩, ⟨readProperties, hproperties⟩, ⟨readTypes, htypes⟩⟩
    exact ⟨⟨readTags, readProperties, readTypes⟩, htags, hproperties, htypes⟩

end Schema

/-! ## The tags that are offered -/

/-- Where no word is typed the tags are offered in the order of the schema. -/
theorem map_label_offerTags (schema : Schema) (settings : Settings) :
    (offerTags schema none settings).map Candidate.label = schema.tags.keys := by
  simp [offerTags, Dictionary.keys]

/-- At a tag the rules of the library have no say, and the tags of the schema are offered. -/
theorem Workspace.value_complete_of_tag {workspace : Workspace} {request : Request}
    (hrules : workspace.rules = .standard) (hkind : request.kind? = some .tag)
    (schema : Schema) (files : FileSystem) :
    (workspace.complete schema files request).value =
      offerTags schema request.word? workspace.settings := by
  have hcursor : request.cursor? ≠ none := by
    intro hnone
    rw [Request.kind?, Request.context?, hnone] at hkind
    exact absurd hkind (by simp)
  obtain ⟨cursor, hcursor⟩ := Option.ne_none_iff_exists'.mp hcursor
  have hcontext : contextKind? cursor.before = some .tag := by
    rw [Request.kind?, Request.context?, hcursor, Option.bind_some,
      Request.linePrefix_of_cursor? hcursor, classify, String.toList_ofList,
      Option.map_map] at hkind
    simpa [Function.comp_def] using hkind
  -- With a colon in it the prefix would be that of a value.
  have hcolon : ':' ∉ cursor.before := by
    intro hmem
    rw [contextKind?_of_colon_mem hmem] at hcontext
    obtain ⟨property, -, hvalue⟩ := Option.map_eq_some_iff.mp hcontext
    exact absurd hvalue (by simp)
  have hfind : workspace.rules.find (String.ofList cursor.before) = pure none := by
    rw [hrules]
    exact RuleSet.find_standard_of_no_colon (by simpa using hcolon)
  rw [value_complete_of_no_rule hcursor hfind hcontext, Request.word?_of_cursor? hcursor]
  rfl

/-! ## Repeated names -/

namespace Schema

variable {tags properties types : Option (List (String × Json))}

/-- In each part of a document in the flat shape a name keeps its first place and its last value.
The document is a schema exactly if every entry of its parts can be read, replaced or not.  So
where no word is typed each tag is offered once, in the order in which the text first names
them. -/
theorem repeated_names_keep_first_place_and_last_value {text : String}
    {members : List (String × Json)} (htext : Json.parse text = .ok (.object members))
    (hflat : IsFlat members (tags.map .object) (properties.map .object) (types.map .object)) :
    ((∃ schema, ofText text = .ok schema) ↔
      (∀ entry ∈ tags.getD [], ∃ info, TagInfo.ofJson? entry.2 = some info) ∧
      (∀ entry ∈ properties.getD [], ∃ info, PropertyInfo.ofJson? entry.2 = some info) ∧
      ∀ entry ∈ types.getD [], ∃ info, TypeInfo.ofJson? entry.2 = some info) ∧
    ∀ schema, ofText text = .ok schema →
      (schema.tags.keys = ((tags.getD []).map Prod.fst).eraseDups ∧
        schema.properties.keys = ((properties.getD []).map Prod.fst).eraseDups ∧
        schema.types.keys = ((types.getD []).map Prod.fst).eraseDups) ∧
      (∀ name,
        schema.tag name = ((tags.getD []).reverse.lookup name).bind TagInfo.ofJson? ∧
        schema.property name =
          ((properties.getD []).reverse.lookup name).bind PropertyInfo.ofJson? ∧
        schema.typeInfo name = ((types.getD []).reverse.lookup name).bind TypeInfo.ofJson?) ∧
      (∀ settings, (offerTags schema none settings).map Candidate.label =
        ((tags.getD []).map Prod.fst).eraseDups) ∧
      ∀ (engine : Engine) (files : FileSystem) (request : Request),
        engine.rules = .standard → (engine.store.get files).value.1 = .ok schema →
        request.kind? = some .tag → request.word? = none →
        ∃ candidates, (engine.complete files request).value.1 = .ok candidates ∧
          candidates.map Candidate.label = ((tags.getD []).map Prod.fst).eraseDups := by
  have hread (schema : Schema) : ofText text = .ok schema ↔
      ofParts? (tags.map .object) (properties.map .object) (types.map .object) = some schema := by
    rw [ofText_eq_ok_iff htext, hflat.ofJson?_eq]
  simp only [hread]
  refine ⟨?_, fun schema hschema => ?_⟩
  · rw [exists_ofParts?_iff, Dictionary.exists_ofJson?_iff, Dictionary.exists_ofJson?_iff,
      Dictionary.exists_ofJson?_iff]
  · obtain ⟨htags, hproperties, htypes⟩ := ofParts?_eq_some_iff.mp hschema
    have hkeys := Dictionary.keys_of_ofJson? htags
    have hlabels (settings : Settings) := (map_label_offerTags schema settings).trans hkeys
    refine ⟨⟨hkeys, Dictionary.keys_of_ofJson? hproperties, Dictionary.keys_of_ofJson? htypes⟩,
      fun name => ⟨Dictionary.get?_of_ofJson? htags name,
        Dictionary.get?_of_ofJson? hproperties name, Dictionary.get?_of_ofJson? htypes name⟩,
      hlabels, fun engine files request hrules hstore hkind hword => ?_⟩
    refine ⟨offerTags schema none engine.settings, ?_, hlabels engine.settings⟩
    rw [Engine.value_complete, hstore, ← hword]
    exact congrArg Except.ok (Workspace.value_complete_of_tag hrules hkind schema files)

/-- Tags of which one is named twice, as an array of its fields and as an object. -/
def repeatedTags : List (String × Json) :=
  [("Window", .array [.text "W"]), ("Label", .object []),
    ("Window", .object [("apiName", .text "Ti.UI.Window")])]

/-- A property that is named twice. -/
def repeatedProperties : List (String × Json) :=
  [("font", .object [("type", .text "Font")]), ("font", .object [])]

/-- A document with these two parts, among members that belong to no part. -/
def repeatedMembers : List (String × Json) :=
  [("properties", .object repeatedProperties), ("version", .null), ("tags", .object repeatedTags)]

/-- The tag named twice stands first and shows its second name, the property has lost its type,
and behind a quote the two tags are offered. -/
theorem repeated_names_in_repeatedMembers :
    ∃ schema, ofText (Json.object repeatedMembers).compact = .ok schema ∧
      schema.tags.keys = ["Window", "Label"] ∧
      schema.tag "Window" = some { displayName := "Ti.UI.Window" } ∧
      schema.property "font" = some {} ∧
      ∃ candidates,
        (({ plainEngine with store := .preloaded schema } : Engine).complete
          FileTree.empty.asFileSystem (atEndOf "\"")).value.1 = .ok candidates ∧
        candidates.map Candidate.label = ["Window", "Label"] := by
  have htext : Json.parse (Json.object repeatedMembers).compact = .ok (.object repeatedMembers) :=
    Json.parse_compact (by
      simp [repeatedMembers, repeatedTags, repeatedProperties, Json.depthLimit])
  have hflat : IsFlat repeatedMembers ((some repeatedTags).map .object)
      ((some repeatedProperties).map .object)
      ((none : Option (List (String × Json))).map .object) :=
    List.Perm.swap ..
  obtain ⟨hexists, hall⟩ := repeated_names_keep_first_place_and_last_value htext hflat
  have hreadable : (∀ entry ∈ repeatedTags, ∃ info, TagInfo.ofJson? entry.2 = some info) ∧
      ∀ entry ∈ repeatedProperties, ∃ info, PropertyInfo.ofJson? entry.2 = some info := by
    simp only [repeatedTags, repeatedProperties, List.forall_mem_cons]
    exact ⟨⟨⟨_, rfl⟩, ⟨_, rfl⟩, ⟨_, rfl⟩, by simp⟩, ⟨_, rfl⟩, ⟨_, rfl⟩, by simp⟩
  obtain ⟨schema, hschema⟩ := hexists.mpr ⟨hreadable.1, hreadable.2, by simp⟩
  obtain ⟨⟨hkeys, -, -⟩, hget, -, hcomplete⟩ := hall schema hschema
  obtain ⟨candidates, hanswer, hlabels⟩ := hcomplete { plainEngine with store := .preloaded schema }
    FileTree.empty.asFileSystem (atEndOf "\"") rfl rfl (by decide) (by decide)
  exact ⟨schema, hschema, hkeys, (hget "Window").1, (hget "font").2.1, candidates, hanswer, hlabels⟩

end Schema

end StyleCompletion
