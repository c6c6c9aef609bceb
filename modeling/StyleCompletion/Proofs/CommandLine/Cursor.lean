/-
The cursor that accepted arguments tell.

Each argument has its demands on the others, and arguments are accepted exactly if the demands of
all of them are met.  The demands of line, column and offset leave two cases: an offset without a
line, or a line and a column without an offset.  So a command knows its cursor, and only an offset
past the end of the document is refused.
-/
import StyleCompletion.CommandLine.Run

namespace StyleCompletion.CommandLine

/-! ## Demands that are met -/

namespace Values

variable {values : Values} {slot other : Slot}

/-- An argument that was given excludes this one. -/
def Excuses (values : Values) (slot : Slot) : Prop :=
  ∃ other, values.gives other = true ∧ slot.excludes other = true

/-- The arguments that were given meet the demands of all arguments.  What is called for may be
missing only if an argument that was given excludes it. -/
structure MeetDemands (values : Values) : Prop where
  apart : ∀ slot other, values.gives slot = true → other ∈ slot.demands.conflicts →
    values.gives other = false
  required : ∀ slot, slot.demands.required = true →
    values.gives slot = true ∨ values.Excuses slot
  together : ∀ slot other, values.gives slot = true → other ∈ slot.demands.requires →
    values.gives other = true ∨ values.Excuses other
  substituted : ∀ slot, slot.demands.requiredUnless ≠ [] →
    values.gives slot = true ∨ ∃ other ∈ slot.demands.requiredUnless, values.gives other = true

theorem rulesOut_iff : values.rulesOut slot = true ↔ values.Excuses slot := by
  simp only [rulesOut, List.any_eq_true, Slot.mem_all, true_and, Bool.and_eq_true, Excuses]

theorem callsFor_iff :
    values.callsFor slot = true ↔ slot.demands.required = true ∨
      ∃ other, values.gives other = true ∧ slot ∈ other.demands.requires := by
  simp only [callsFor, Bool.or_eq_true, List.any_eq_true, Slot.mem_all, true_and,
    Bool.and_eq_true, List.contains_iff_mem]

theorem lacksSubstitute_iff :
    values.lacksSubstitute slot = true ↔ slot.demands.requiredUnless ≠ [] ∧
      ∀ other ∈ slot.demands.requiredUnless, values.gives other = false := by
  simp only [lacksSubstitute, Bool.and_eq_true, Bool.not_eq_true', List.isEmpty_eq_false_iff,
    List.any_eq_false, Bool.not_eq_true]

theorem lacks_eq_false_iff :
    values.lacks slot = false ↔ values.gives slot = true ∨
      (values.callsFor slot = true → values.Excuses slot) ∧
        values.lacksSubstitute slot = false := by
  rw [← rulesOut_iff, lacks]
  cases values.gives slot <;> cases values.callsFor slot <;> cases values.rulesOut slot <;>
    simp

/-- Of two arguments that exclude each other one was not given. -/
theorem MeetDemands.rulesOut_eq_false (h : values.MeetDemands) (hgives : values.gives slot = true) :
    values.rulesOut slot = false := by
  rw [← Bool.not_eq_true, rulesOut_iff]
  rintro ⟨other, hother, hexcludes⟩
  -- One of the two has the other among its conflicts.
  rw [Slot.excludes, Bool.or_eq_true, List.contains_iff_mem, List.contains_iff_mem] at hexcludes
  rcases hexcludes with hmem | hmem
  · exact absurd hother (by simp [h.apart slot other hgives hmem])
  · exact absurd hgives (by simp [h.apart other slot hother hmem])

/-- No argument is missing. -/
theorem MeetDemands.lacks_eq_false (h : values.MeetDemands) (slot : Slot) :
    values.lacks slot = false := by
  rw [lacks_eq_false_iff]
  by_cases hgives : values.gives slot = true
  · exact .inl hgives
  · refine .inr ⟨fun hcalls => ?_, ?_⟩
    · rcases callsFor_iff.mp hcalls with hrequired | ⟨other, hother, hmem⟩
      · exact (h.required slot hrequired).resolve_left hgives
      · exact (h.together other slot hother hmem).resolve_left hgives
    · rw [← Bool.not_eq_true, lacksSubstitute_iff]
      rintro ⟨hsome, hnone⟩
      obtain ⟨other, hmem, hother⟩ := (h.substituted slot hsome).resolve_left hgives
      exact absurd hother (by simp [hnone other hmem])

/-- Where no two arguments exclude each other and none is missing, the demands are met. -/
theorem meetDemands_of_lacks_eq_false
    (hclash : ∀ slot, values.gives slot = true → values.rulesOut slot = false)
    (hlacks : ∀ slot, values.lacks slot = false) : values.MeetDemands where
  apart slot other hgives hmem := by
    rw [← Bool.not_eq_true]
    intro hother
    have hexcludes : slot.excludes other = true := by simp [Slot.excludes, hmem]
    exact absurd (rulesOut_iff.mpr ⟨other, hother, hexcludes⟩) (by simp [hclash slot hgives])
  required slot hrequired :=
    (lacks_eq_false_iff.mp (hlacks slot)).imp_right fun h => h.1 (callsFor_iff.mpr (.inl hrequired))
  together slot other hgives hmem :=
    (lacks_eq_false_iff.mp (hlacks other)).imp_right fun h =>
      h.1 (callsFor_iff.mpr (.inr ⟨slot, hgives, hmem⟩))
  substituted slot hsome := by
    refine (lacks_eq_false_iff.mp (hlacks slot)).imp_right fun h => ?_
    -- Otherwise none of the substitutes would be there.
    refine Classical.byContradiction fun hnone => ?_
    have hlacking := lacksSubstitute_iff.mpr ⟨hsome, fun other hmem =>
      Bool.eq_false_iff.mpr fun hother => hnone ⟨other, hmem, hother⟩⟩
    exact absurd hlacking (by simp [h.2])

/-- What the check passes meets the demands. -/
theorem meetDemands_of_check {arguments : Arguments} (h : values.check = .ok arguments) :
    values.MeetDemands ∧ ∃ document schema, arguments = values.arguments document schema := by
  rw [check] at h
  split at h
  · exact absurd h (by simp)
  · next hclash =>
      split at h
      · exact absurd h (by simp)
      · next hlacks =>
          simp only [List.any_eq_true, Slot.mem_all, true_and, not_exists, Bool.and_eq_true,
            not_and, Bool.not_eq_true] at hclash hlacks
          split at h
          · next document schema _ _ =>
              exact ⟨meetDemands_of_lacks_eq_false hclash hlacks, document, schema,
                (Except.ok.inj h).symm⟩
          · exact absurd h (by simp)

/-- An argument that must be given, and that none excludes, was given. -/
theorem MeetDemands.gives_of_required (h : values.MeetDemands) (slot : Slot)
    (hrequired : slot.demands.required = true) (hfree : ∀ other, slot.excludes other = false) :
    values.gives slot = true := by
  refine (h.required slot hrequired).resolve_right ?_
  rintro ⟨other, -, hexcludes⟩
  exact absurd hexcludes (by simp [hfree other])

/-- The check passes all that meets the demands. -/
theorem MeetDemands.exists_check (h : values.MeetDemands) :
    ∃ arguments, values.check = .ok arguments := by
  have hdocument : values.document.isSome = true :=
    h.gives_of_required .document rfl (fun other => by cases other <;> rfl)
  have hschema : values.schema.isSome = true :=
    h.gives_of_required .schema rfl (fun other => by cases other <;> rfl)
  obtain ⟨document, hdocument⟩ := Option.isSome_iff_exists.mp hdocument
  obtain ⟨schema, hschema⟩ := Option.isSome_iff_exists.mp hschema
  refine ⟨values.arguments document schema, ?_⟩
  rw [check, if_neg, if_neg]
  · simp only [hdocument, hschema]
  · simp [h.lacks_eq_false]
  · simp only [List.any_eq_true, not_exists, Bool.and_eq_true, not_and, Bool.not_eq_true]
    exact fun slot _ hgives => h.rulesOut_eq_false hgives

/-! ## Line, column and offset -/

/-- An offset was given without a line, or a line and a column without an offset. -/
theorem MeetDemands.cursor (h : values.MeetDemands) :
    (values.gives .offset = true ∧ values.gives .line = false) ∨
      (values.gives .line = true ∧ values.gives .column = true ∧ values.gives .offset = false) := by
  rcases h.substituted .offset (by simp [Slot.demands]) with hoffset | ⟨other, hmem, hline⟩
  · -- The line has the offset among its conflicts.
    refine .inl ⟨hoffset, Bool.eq_false_iff.mpr fun hline => ?_⟩
    have hnone := h.apart .line .offset hline (by simp [Slot.demands])
    exact absurd hoffset (by simp [hnone])
  · obtain rfl : other = .line := by simpa [Slot.demands] using hmem
    refine .inr ⟨hline, ?_, h.apart .line .offset hline (by simp [Slot.demands])⟩
    -- The line calls for the column, which nothing excludes.
    refine (h.together .line .column hline (by simp [Slot.demands])).resolve_right ?_
    rintro ⟨other, -, hexcludes⟩
    cases other <;> exact absurd hexcludes (by decide)

end Values

/-! ## Steps that may fail -/

section

variable {ε δ α β : Type} {first : Except ε α} {next : α → Except ε β} {e : ε}

theorem bind_eq_ok_iff {b : β} :
    first >>= next = .ok b ↔ ∃ a, first = .ok a ∧ next a = .ok b := by
  cases first with
  | error e => simp [bind, Except.bind]
  | ok a => simp [bind, Except.bind]

theorem bind_eq_error_iff :
    first >>= next = .error e ↔ first = .error e ∨ ∃ a, first = .ok a ∧ next a = .error e := by
  cases first with
  | error e => simp [bind, Except.bind]
  | ok a => simp [bind, Except.bind]

/-- An error that was mapped comes from one that was not. -/
theorem exists_of_mapError_eq_error {f : ε → δ} {d : δ} (h : first.mapError f = .error d) :
    ∃ e, first = .error e ∧ f e = d := by
  cases first with
  | error e => exact ⟨e, rfl, Except.error.inj h⟩
  | ok a => exact absurd (show (.ok a : Except δ α) = .error d from h) (by simp)

end

/-! ## Accepted arguments -/

theorem parse_eq_ok_iff {words : List String} {arguments : Arguments} :
    parse words = .ok arguments ↔
      ∃ values, collect words = .ok values ∧ values.check = .ok arguments := bind_eq_ok_iff

/-- Arguments are accepted exactly if they can be read and meet all demands. -/
theorem exists_parse_eq_ok_iff {words : List String} :
    (∃ arguments, parse words = .ok arguments) ↔
      ∃ values, collect words = .ok values ∧ values.MeetDemands := by
  simp only [parse_eq_ok_iff]
  constructor
  · rintro ⟨arguments, values, hcollect, hcheck⟩
    exact ⟨values, hcollect, (Values.meetDemands_of_check hcheck).1⟩
  · rintro ⟨values, hcollect, hmeets⟩
    obtain ⟨arguments, hcheck⟩ := hmeets.exists_check
    exact ⟨arguments, values, hcollect, hcheck⟩

namespace Arguments

/-- The cursor is told in one way: by an offset, or by a line and a column. -/
def TellsCursor (arguments : Arguments) : Prop :=
  (arguments.offset.isSome = true ∧ arguments.line = none) ∨
    (arguments.line.isSome = true ∧ arguments.column.isSome = true ∧ arguments.offset = none)

theorem tellsCursor_of_parse {words : List String} {arguments : Arguments}
    (h : parse words = .ok arguments) : arguments.TellsCursor := by
  obtain ⟨values, -, hcheck⟩ := parse_eq_ok_iff.mp h
  obtain ⟨hmeets, document, schema, rfl⟩ := Values.meetDemands_of_check hcheck
  have hcursor := hmeets.cursor
  simpa only [TellsCursor, Values.arguments, Values.gives, Option.isSome_eq_false_iff,
    Option.isNone_iff_eq_none] using hcursor

/-- Where the cursor is told, only an offset past the end of the document is refused. -/
theorem TellsCursor.position?_eq_error_iff {arguments : Arguments} (h : arguments.TellsCursor)
    {document : TextDocument} {failure : Failure} :
    arguments.position? document = .error failure ↔
      ∃ offset, arguments.offset = some offset ∧ document.byteLength < offset ∧
        failure = .offsetPastEnd offset document.byteLength := by
  rcases h with ⟨hoffset, -⟩ | ⟨hline, hcolumn, hoffset⟩
  · obtain ⟨offset, hoffset⟩ := Option.isSome_iff_exists.mp hoffset
    simp only [position?, hoffset, Option.some.injEq, exists_eq_left']
    by_cases hpast : document.byteLength < offset
    · simp [hpast, eq_comm]
    · simp [hpast]
  · obtain ⟨line, hline⟩ := Option.isSome_iff_exists.mp hline
    obtain ⟨column, hcolumn⟩ := Option.isSome_iff_exists.mp hcolumn
    simp [position?, hoffset, hline, hcolumn]

/-! ## A run without a cursor -/

/-- Settings that cannot be read are no missing cursor. -/
theorem readSettings_ne_noCursor (files : FileSystem) (path : Option Path) :
    readSettings files path ≠ .error .noCursor := by
  intro h
  cases path with
  | none => exact absurd h (by simp [readSettings])
  | some path =>
      rcases bind_eq_error_iff.mp h with hread | ⟨text, -, hparse⟩
      · obtain ⟨fault, -, hfailure⟩ := exists_of_mapError_eq_error hread
        exact absurd hfailure (by simp)
      · obtain ⟨fault, -, hfailure⟩ := exists_of_mapError_eq_error hparse
        exact absurd hfailure (by simp)

/-- A cursor is missed only where its position is asked for. -/
theorem exists_position?_of_prepare {arguments : Arguments} {files : FileSystem}
    (h : prepare arguments files = .error .noCursor) :
    ∃ document, arguments.position? document = .error .noCursor := by
  rcases bind_eq_error_iff.mp h with hread | ⟨text, -, h⟩
  · obtain ⟨fault, -, hfailure⟩ := exists_of_mapError_eq_error hread
    exact absurd hfailure (by simp)
  · rcases bind_eq_error_iff.mp h with hposition | ⟨position, -, h⟩
    · exact ⟨TextDocument.ofText text, hposition⟩
    · rcases bind_eq_error_iff.mp h with hsettings | ⟨settings, -, h⟩
      · exact absurd hsettings (readSettings_ne_noCursor files arguments.config)
      · exact absurd h (by simp [pure, Except.pure])

/-- A run that misses the cursor fails before it asks for candidates. -/
theorem prepare_of_run {arguments : Arguments} {files : FileSystem}
    (h : (run arguments files).value = .error .noCursor) :
    prepare arguments files = .error .noCursor := by
  rw [run] at h
  split at h
  · next failure hprepare =>
      rw [hprepare]
      exact congrArg Except.error (Except.error.inj h)
  · next document position settings hprepare =>
      simp only [Logged.value_bind] at h
      split at h <;> exact absurd h (by simp)

end Arguments

/-- Arguments that are accepted are those that meet all demands, and they tell the cursor: by an
offset without a line, or by a line and a column without an offset.  So the position of the cursor
is refused exactly for an offset past the end of the document, and no run lacks a cursor. -/
theorem parse_tells_cursor (words : List String) :
    ((∃ arguments, parse words = .ok arguments) ↔
      ∃ values, collect words = .ok values ∧ values.MeetDemands) ∧
    ∀ arguments, parse words = .ok arguments →
      ((arguments.offset.isSome = true ∧ arguments.line = none) ∨
        (arguments.line.isSome = true ∧ arguments.column.isSome = true ∧
          arguments.offset = none)) ∧
      (∀ document failure, arguments.position? document = .error failure ↔
        ∃ offset, arguments.offset = some offset ∧ document.byteLength < offset ∧
          failure = .offsetPastEnd offset document.byteLength) ∧
      ∀ files, (run arguments files).value ≠ .error .noCursor := by
  refine ⟨exists_parse_eq_ok_iff, fun arguments hparse => ?_⟩
  have htells := Arguments.tellsCursor_of_parse hparse
  refine ⟨htells, fun document failure => htells.position?_eq_error_iff, fun files hrun => ?_⟩
  obtain ⟨document, hposition⟩ :=
    Arguments.exists_position?_of_prepare (Arguments.prepare_of_run hrun)
  obtain ⟨offset, -, -, hfailure⟩ := htells.position?_eq_error_iff.mp hposition
  exact absurd hfailure (by simp)

/-- Arguments with a column beside an offset, and a document that looks like an option. -/
def offsetWords : List String :=
  ["--column=7", "--schema", "s.json", "--offset", "+12", "--", "--line"]

theorem parse_offsetWords :
    parse offsetWords = .ok {
      document := ⟨"--line"⟩, schema := ⟨"s.json"⟩, config := none, line := none
      column := some 7, offset := some 12, projectRoot := none, format := .json } := rfl

/-- The column calls for a line, which the offset excuses; the offset itself is past the end of a
document of three bytes. -/
theorem parse_tells_offset :
    ∃ arguments, parse offsetWords = .ok arguments ∧ arguments.column = some 7 ∧
      (arguments.offset.isSome = true ∧ arguments.line = none) ∧
      arguments.position? (TextDocument.ofText "abc") = .error (.offsetPastEnd 12 3) := by
  obtain ⟨htells, hposition, -⟩ := (parse_tells_cursor offsetWords).2 _ parse_offsetWords
  refine ⟨_, parse_offsetWords, rfl, htells.resolve_right (by simp), ?_⟩
  exact (hposition _ _).mpr ⟨12, rfl, by decide, rfl⟩

end StyleCompletion.CommandLine
