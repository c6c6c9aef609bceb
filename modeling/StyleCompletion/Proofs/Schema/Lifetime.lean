/-
The life of a store: it keeps the first schema that it gets.

A store is used again and again, by itself or through engines, while the files around it change.
Each use asks the source as long as there is no schema, and none does from then on.  So the
answers of the source up to its first success decide everything: which uses fail, what the later
ones get, how often the source is asked and when the load is reported.
-/
import Mathlib.Data.ENat.Lattice
import StyleCompletion.Proofs.Engine.Reports
import StyleCompletion.Proofs.Schema.RoundTrip

namespace StyleCompletion

/-! ## Uses of a store -/

/-- What needs the schema of a store. -/
inductive StoreUse where
  /-- The schema is asked for. -/
  | get
  /-- An engine with the store completes at a cursor. -/
  | complete (workspace : Workspace) (request : Request)

/-- What a use of a store gives. -/
inductive StoreReply where
  | schema (answer : Except SchemaError Schema)
  | candidates (answer : Except SchemaError (List Candidate))

namespace StoreUse

/-- Serves a use, and gives the store afterwards. -/
def serve (use : StoreUse) (store : SchemaStore) (files : FileSystem) :
    Logged (StoreReply × SchemaStore) :=
  match use with
  | get => do
      let (answer, store) ← store.get files
      return (.schema answer, store)
  | complete workspace request => do
      let (answer, engine) ← Engine.complete { workspace with store } files request
      return (.candidates answer, engine.store)

/-- What a use makes of the answer of a store. -/
def make (use : StoreUse) (files : FileSystem) (answer : Except SchemaError Schema) :
    Logged StoreReply :=
  match use, answer with
  | get, answer => pure (.schema answer)
  | complete _ _, .error error => pure (.candidates (.error error))
  | complete workspace request, .ok schema => do
      let candidates ← workspace.complete schema files request
      return .candidates (.ok candidates)

variable (use : StoreUse) (store : SchemaStore) (files : FileSystem)

/-- Each use asks the store once, wherever the cursor of a completion is. -/
theorem value_serve :
    (use.serve store files).value =
      ((use.make files (store.get files).value.1).value, (store.get files).value.2) := by
  cases use with
  | get => rfl
  | complete workspace request =>
      -- The engine asks its store before it looks at the cursor.
      simp only [serve, make, Engine.complete, Logged.value_bind]
      cases (store.get files).value.1 <;> rfl

theorem events_serve :
    (use.serve store files).events =
      (store.get files).events ++ (use.make files (store.get files).value.1).events := by
  cases use with
  | get => rfl
  | complete workspace request =>
      simp only [serve, make, Engine.complete, Logged.events_bind, Logged.value_bind]
      cases (store.get files).value.1 <;> simp

end StoreUse

/-! ## Runs -/

/-- What can happen to a store and the files around it. -/
inductive StoreAction where
  /-- The files change, in whatever way. -/
  | change (edit : FileSystem → FileSystem)
  /-- It is asked whether the store is loaded. -/
  | isLoaded
  | use (use : StoreUse)

/-- A store among files. -/
structure StoreState where
  files : FileSystem
  store : SchemaStore

namespace StoreState

/-- The state after an action. -/
def step (s : StoreState) : StoreAction → Logged StoreState
  | .change edit => pure { s with files := edit s.files }
  | .isLoaded => pure s
  | .use use => do
      let (_, store) ← use.serve s.store s.files
      return { s with store }

/-- The state after a list of actions. -/
def run (s : StoreState) : List StoreAction → Logged StoreState
  | [] => pure s
  | action :: rest => do
      let next ← s.step action
      next.run rest

end StoreState

/-- Number of uses among the actions. -/
def useCount : List StoreAction → Nat
  | [] => 0
  | .use _ :: rest => useCount rest + 1
  | _ :: rest => useCount rest

/-- What the source answers to each use of a run, if it is asked every time: from its `n`-th call
on, and with the files as they are at each of them. -/
def sourceAnswers (source : SchemaSource) :
    (n : Nat) → FileSystem → List StoreAction → List (Except SchemaError Schema)
  | _, _, [] => []
  | n, files, .change edit :: rest => sourceAnswers source n (edit files) rest
  | n, files, .isLoaded :: rest => sourceAnswers source n files rest
  | n, files, .use _ :: rest => source.load n files :: sourceAnswers source (n + 1) files rest

/-- The number of the first answer that is a schema, counted from one; infinite without one. -/
def firstSuccess (answers : List (Except SchemaError Schema)) : ℕ∞ :=
  match answers.findIdx? Except.isOk with
  | some i => (i : ℕ∞) + 1
  | none => ⊤

/-! ## What a store does when it is asked -/

namespace SchemaStore

variable {store : SchemaStore} {files : FileSystem}

theorem get_of_schema {schema : Schema} (h : store.schema = some schema) :
    store.get files = pure (.ok schema, store) := by
  simp only [get, h]

theorem get_of_error (h : store.schema = none) {error : SchemaError}
    (hload : store.source.load store.loads files = .error error) :
    store.get files = pure (.error error, { store with loads := store.loads + 1 }) := by
  simp only [get, h, hload]

theorem get_of_ok (h : store.schema = none) {schema : Schema}
    (hload : store.source.load store.loads files = .ok schema) :
    store.get files = Logged.reporting [loadedEvent schema]
      (.ok schema, { store with loads := store.loads + 1, schema := some schema }) := by
  simp only [get, h, hload]

/-- The report of the schema in a store. -/
def reports (store : SchemaStore) : List Event := (store.schema.map loadedEvent).toList

/-- A store reports the schema that it did not have before. -/
theorem reports_append_events_get (store : SchemaStore) (files : FileSystem) :
    store.reports ++ (store.get files).events = (store.get files).value.2.reports := by
  cases hschema : store.schema with
  | some schema => simp [get_of_schema hschema]
  | none =>
      cases hload : store.source.load store.loads files with
      | error error => simp [get_of_error hschema hload, reports]
      | ok schema => simp [get_of_ok hschema hload, reports, hschema, Logged.reporting]

end SchemaStore

/-! ## What the past leaves in a store -/

theorem failed_append_error {failures : List (Except SchemaError Schema)}
    (hfailed : ∀ answer ∈ failures, answer.isOk = false) (error : SchemaError) :
    ∀ answer ∈ failures ++ [.error error], answer.isOk = false := by
  intro answer hanswer
  rcases List.mem_append.mp hanswer with hearlier | hlast
  · exact hfailed answer hearlier
  · rw [List.mem_singleton.mp hlast]
    rfl

/-- The store after these answers of its source: empty as long as all of them were errors, and
from the first schema on unchanged. -/
inductive SchemaStore.Past (source : SchemaSource) :
    List (Except SchemaError Schema) → SchemaStore → Prop where
  | empty {failures : List (Except SchemaError Schema)}
      (hfailed : ∀ answer ∈ failures, answer.isOk = false) :
      Past source failures { source, loads := failures.length }
  | loaded {failures : List (Except SchemaError Schema)}
      (hfailed : ∀ answer ∈ failures, answer.isOk = false) (schema : Schema)
      (later : List (Except SchemaError Schema)) :
      Past source (failures ++ .ok schema :: later)
        { source, loads := failures.length + 1, schema := some schema }

section

variable {source : SchemaSource} {answers : List (Except SchemaError Schema)}

/-- Asking the store once more adds an answer to its past. -/
theorem SchemaStore.Past.get {store : SchemaStore} (h : store.Past source answers)
    (files : FileSystem) :
    (store.get files).value.2.Past source (answers ++ [source.load answers.length files]) := by
  cases h with
  | empty hfailed =>
      cases hload : source.load answers.length files with
      | error error =>
          rw [get_of_error rfl hload]
          have hempty : Past source (answers ++ [.error error]) _ :=
            .empty (failed_append_error hfailed error)
          rwa [List.length_append] at hempty
      | ok schema =>
          rw [get_of_ok rfl hload]
          exact .loaded hfailed schema []
  | loaded hfailed schema later =>
      rw [get_of_schema rfl, List.append_assoc, List.cons_append]
      exact .loaded hfailed schema _

/-- The answers to a run, from those to its first actions and what these leave of the files. -/
theorem sourceAnswers_append (source : SchemaSource) (s : StoreState) (n : Nat)
    (before after : List StoreAction) :
    sourceAnswers source n s.files (before ++ after) =
      sourceAnswers source n s.files before ++
        sourceAnswers source (n + useCount before) (s.run before).value.files after := by
  induction before generalizing s n with
  | nil => rfl
  | cons action rest ih =>
      cases action with
      | change edit => exact ih { s with files := edit s.files } n
      | isLoaded => exact ih s n
      | use use =>
          have hrest := ih (s.step (.use use)).value (n + 1)
          rw [Nat.add_right_comm] at hrest
          exact congrArg (source.load n s.files :: ·) hrest

theorem length_sourceAnswers (source : SchemaSource) (n : Nat) (files : FileSystem)
    (actions : List StoreAction) :
    (sourceAnswers source n files actions).length = useCount actions := by
  induction actions generalizing n files with
  | nil => rfl
  | cons action rest ih => cases action <;> simp [sourceAnswers, useCount, ih]

/-- What the store has been through after a run, from what it had been through before. -/
theorem StoreState.past_run (s : StoreState) (h : s.store.Past source answers)
    (actions : List StoreAction) :
    (s.run actions).value.store.Past source
      (answers ++ sourceAnswers source answers.length s.files actions) := by
  -- The past grows by one answer at each use, so its length is the number of the next call as
  -- long as the source is still asked.
  induction actions generalizing s answers with
  | nil => simpa [sourceAnswers, run] using h
  | cons action rest ih =>
      cases action with
      | change edit => exact ih { s with files := edit s.files } h
      | isLoaded => exact ih s h
      | use use =>
          have hnext : (s.step (.use use)).value.store.Past source
              (answers ++ [source.load answers.length s.files]) := by
            simpa [step, StoreUse.value_serve] using h.get s.files
          have hrest := ih (s.step (.use use)).value hnext
          simpa [sourceAnswers, run, step] using hrest

end

/-! ## The first success -/

section

variable {failures : List (Except SchemaError Schema)}
  (hfailed : ∀ answer ∈ failures, answer.isOk = false)

include hfailed

theorem firstSuccess_append_ok (schema : Schema) (later : List (Except SchemaError Schema)) :
    firstSuccess (failures ++ .ok schema :: later) = (failures.length : ℕ∞) + 1 := by
  have hnone : failures.findIdx? Except.isOk = none := List.findIdx?_eq_none_iff.mpr hfailed
  have hfirst : (failures ++ .ok schema :: later).findIdx? Except.isOk = some failures.length := by
    simp [List.findIdx?_append, List.findIdx?_cons, hnone, Except.isOk, Except.toBool]
  simp only [firstSuccess, hfirst]

theorem length_lt_firstSuccess (later : List (Except SchemaError Schema)) :
    (failures.length : ℕ∞) < firstSuccess (failures ++ later) := by
  have hnone : failures.findIdx? Except.isOk = none := List.findIdx?_eq_none_iff.mpr hfailed
  cases hlater : later.findIdx? Except.isOk with
  | none =>
      have hall : (failures ++ later).findIdx? Except.isOk = none := by
        simp [List.findIdx?_append, hnone, hlater]
      simp only [firstSuccess, hall]
      exact ENat.natCast_lt_top _
  | some i =>
      have hfirst :
          (failures ++ later).findIdx? Except.isOk = some (i + failures.length) := by
        simp [List.findIdx?_append, hnone, hlater]
      simp only [firstSuccess, hfirst]
      exact_mod_cast (by omega : failures.length < i + failures.length + 1)

end

/-! ## How a use goes -/

/-- A use is served by an answer of the store, which reports `events` itself and is `next`
afterwards. -/
structure StoreUse.Gets (use : StoreUse) (s : StoreState) (answer : Except SchemaError Schema)
    (next : SchemaStore) (events : List Event) : Prop where
  value_eq : (use.serve s.store s.files).value = ((use.make s.files answer).value, next)
  events_eq : (use.serve s.store s.files).events = events ++ (use.make s.files answer).events

/-- How the `j`-th use of a store goes, counted from one, by the first success among the answers
of the source. -/
structure StoreUse.Follows (use : StoreUse) (s : StoreState)
    (answers : List (Except SchemaError Schema)) (j : Nat) : Prop where
  /-- Before it, the source is asked and its error is the answer. -/
  fails : (j : ℕ∞) < firstSuccess answers → ∃ error, answers[j - 1]? = some (.error error) ∧
    s.store.isLoaded = false ∧
    use.Gets s (.error error) { s.store with loads := s.store.loads + 1 } []
  /-- At it, the source is asked and its schema is the answer, which stays. -/
  loads : (j : ℕ∞) = firstSuccess answers → ∃ schema, answers[j - 1]? = some (.ok schema) ∧
    s.store.isLoaded = false ∧
    use.Gets s (.ok schema)
      { s.store with loads := s.store.loads + 1, schema := some schema }
      [SchemaStore.loadedEvent schema]
  /-- After it, the answer is the same schema and the store does nothing. -/
  shares : ∀ k : Nat, firstSuccess answers = k → k < j →
    ∃ schema, answers[k - 1]? = some (.ok schema) ∧ use.Gets s (.ok schema) s.store []

theorem StoreUse.gets_of_get {s : StoreState} {answer : Except SchemaError Schema}
    {next : SchemaStore} {events : List Event}
    (h : s.store.get s.files = Logged.reporting events (answer, next)) (use : StoreUse) :
    use.Gets s answer next events where
  value_eq := by rw [value_serve, h]; rfl
  events_eq := by rw [events_serve, h]; rfl

namespace StoreUse.Follows

variable {use : StoreUse} {s : StoreState} {answers : List (Except SchemaError Schema)} {j : Nat}

theorem of_lt (hj : (j : ℕ∞) < firstSuccess answers) {error : SchemaError}
    (hanswer : answers[j - 1]? = some (.error error)) (hempty : s.store.isLoaded = false)
    (h : use.Gets s (.error error) { s.store with loads := s.store.loads + 1 } []) :
    use.Follows s answers j where
  fails _ := ⟨error, hanswer, hempty, h⟩
  loads hfirst := absurd hfirst hj.ne
  shares k hfirst hk := by
    rw [hfirst, Nat.cast_lt] at hj
    omega

theorem of_eq (hj : (j : ℕ∞) = firstSuccess answers) {schema : Schema}
    (hanswer : answers[j - 1]? = some (.ok schema)) (hempty : s.store.isLoaded = false)
    (h : use.Gets s (.ok schema)
      { s.store with loads := s.store.loads + 1, schema := some schema }
      [SchemaStore.loadedEvent schema]) :
    use.Follows s answers j where
  fails hfirst := absurd hj hfirst.ne
  loads _ := ⟨schema, hanswer, hempty, h⟩
  shares k hfirst hk := by
    rw [hfirst, Nat.cast_inj] at hj
    omega

theorem of_gt {k : Nat} (hfirst : firstSuccess answers = k) (hk : k < j) {schema : Schema}
    (hanswer : answers[k - 1]? = some (.ok schema)) (h : use.Gets s (.ok schema) s.store []) :
    use.Follows s answers j where
  fails hj := by
    rw [hfirst, Nat.cast_lt] at hj
    omega
  loads hj := by
    rw [hfirst, Nat.cast_inj] at hj
    omega
  shares other hother _ := by
    rw [hfirst, Nat.cast_inj] at hother
    subst hother
    exact ⟨schema, hanswer, h⟩

end StoreUse.Follows

/-- The next use, after a past with these answers. -/
theorem StoreUse.follows_of_past {source : SchemaSource} {s : StoreState}
    {answers : List (Except SchemaError Schema)} (h : s.store.Past source answers)
    (use : StoreUse) (later : List (Except SchemaError Schema)) :
    use.Follows s (answers ++ source.load answers.length s.files :: later)
      (answers.length + 1) := by
  obtain ⟨files, store⟩ := s
  cases h with
  | empty hfailed =>
      cases hload : source.load answers.length files with
      | error error =>
          -- This use fails as well, so the first success is later.
          have hlater : ((answers.length + 1 : Nat) : ℕ∞) <
              firstSuccess (answers ++ .error error :: later) := by
            simpa using length_lt_firstSuccess (failed_append_error hfailed error) later
          exact .of_lt hlater (by simp) rfl
            (gets_of_get (SchemaStore.get_of_error rfl hload) use)
      | ok schema =>
          -- This use is the first success.
          have hnow := firstSuccess_append_ok hfailed schema later
          exact .of_eq hnow.symm (by simp) rfl (gets_of_get (SchemaStore.get_of_ok rfl hload) use)
  | @loaded failures hfailed schema past =>
      -- The first success is among the answers of the past.
      rw [List.append_assoc, List.cons_append, List.length_append, List.length_cons]
      have hbefore := firstSuccess_append_ok hfailed schema
        (past ++ source.load (failures.length + (past.length + 1)) files :: later)
      have hk : failures.length + 1 < failures.length + (past.length + 1) + 1 := by omega
      exact .of_gt hbefore hk (by simp) (gets_of_get (SchemaStore.get_of_schema rfl) use)

/-! ## How a store stands -/

/-- How a store stands after `m` uses, by the first success among the answers of its source. -/
structure SchemaStore.Follows (store : SchemaStore) (answers : List (Except SchemaError Schema))
    (m : Nat) : Prop where
  loads_eq : (store.loads : ℕ∞) = min (m : ℕ∞) (firstSuccess answers)
  isLoaded_iff : store.isLoaded = true ↔ firstSuccess answers ≤ m

theorem SchemaStore.Past.follows {source : SchemaSource} {store : SchemaStore}
    {answers : List (Except SchemaError Schema)} (h : store.Past source answers)
    (later : List (Except SchemaError Schema)) :
    store.Follows (answers ++ later) answers.length := by
  cases h with
  | empty hfailed =>
      have hlater := length_lt_firstSuccess hfailed later
      exact ⟨(min_eq_left hlater.le).symm, by simp [isLoaded, hlater]⟩
  | @loaded failures hfailed schema past =>
      rw [List.append_assoc, List.cons_append]
      have hbefore := firstSuccess_append_ok hfailed schema (past ++ later)
      have hle : firstSuccess (failures ++ .ok schema :: (past ++ later)) ≤
          ((failures ++ .ok schema :: past).length : ℕ∞) := by
        rw [hbefore, List.length_append, List.length_cons]
        exact_mod_cast (by omega : failures.length + 1 ≤ failures.length + (past.length + 1))
      refine ⟨?_, iff_of_true rfl hle⟩
      rw [min_eq_right hle, hbefore]
      rfl

/-! ## Reports of a load -/

/-- The event reports that a schema is loaded. -/
def Event.reportsLoad (event : Event) : Bool :=
  event.level == .info && event.message == "schema loaded"

/-- No rule reports a load. -/
def StoreAction.RulesSilent : StoreAction → Prop
  | .use (.complete workspace _) => ∀ rule ∈ workspace.rules.rules, ∀ context,
      (rule.answer context).OnlyReports fun event => event.reportsLoad = false
  | _ => True

theorem Event.IsQuiet.reportsLoad_eq {event : Event} (h : event.IsQuiet) :
    event.reportsLoad = false := by
  rcases h with h | h <;> simp [reportsLoad, h]

theorem StoreAction.rulesSilent_standard (project : Project) (settings : Settings)
    (request : Request) :
    (use (.complete { project, settings } request)).RulesSilent := by
  intro rule hrule context
  exact RuleSet.standard_onlyReports (fun _ h => h.reportsLoad_eq) hrule context

/-- What is made of the schema reports no load. -/
theorem StoreUse.filter_events_make {use : StoreUse} (h : (StoreAction.use use).RulesSilent)
    (files : FileSystem) (answer : Except SchemaError Schema) :
    (use.make files answer).events.filter Event.reportsLoad = [] := by
  have hquiet : (use.make files answer).OnlyReports fun event => event.reportsLoad = false := by
    cases use with
    | get => exact Logged.onlyReports_pure _
    | complete workspace request =>
        cases answer with
        | error error => exact Logged.onlyReports_pure _
        | ok schema =>
            refine Logged.OnlyReports.bind ?_ (Logged.onlyReports_pure _)
            refine workspace.complete_onlyReports (fun _ hevent => hevent.reportsLoad_eq) ?_ h _ _ _
            exact RuleSet.find_onlyReports (fun _ _ _ => rfl) _
  rw [List.filter_eq_nil_iff]
  intro event hevent
  simp [hquiet event hevent]

theorem SchemaStore.filter_events_get (store : SchemaStore) (files : FileSystem) :
    (store.get files).events.filter Event.reportsLoad = (store.get files).events := by
  cases hschema : store.schema with
  | some schema => simp [get_of_schema hschema]
  | none =>
      cases hload : store.source.load store.loads files with
      | error error => simp [get_of_error hschema hload]
      | ok schema => rw [get_of_ok hschema hload]; rfl

namespace StoreState

variable (s : StoreState)

theorem reports_append_step {action : StoreAction} (h : action.RulesSilent) :
    s.store.reports ++ (s.step action).events.filter Event.reportsLoad =
      (s.step action).value.store.reports := by
  cases action with
  | change edit => simp [step]
  | isLoaded => simp [step]
  | use use =>
      have hevents : (s.step (.use use)).events = (use.serve s.store s.files).events := by
        simp [step]
      have hstore : (s.step (.use use)).value.store = (s.store.get s.files).value.2 := by
        simp [step, StoreUse.value_serve]
      rw [hevents, hstore, StoreUse.events_serve, List.filter_append,
        StoreUse.filter_events_make h, List.append_nil, SchemaStore.filter_events_get,
        SchemaStore.reports_append_events_get]

/-- The loads that a run reports: that of the schema at the end, if it was not there before. -/
theorem reports_append_run {actions : List StoreAction}
    (h : ∀ action ∈ actions, action.RulesSilent) :
    s.store.reports ++ (s.run actions).events.filter Event.reportsLoad =
      (s.run actions).value.store.reports := by
  induction actions generalizing s with
  | nil => simp [run]
  | cons action rest ih =>
      obtain ⟨haction, hrest⟩ := List.forall_mem_cons.mp h
      simp only [run, Logged.events_bind, Logged.value_bind]
      -- What the first action reports completes what the store reports before the others.
      rw [List.filter_append, ← List.append_assoc, s.reports_append_step haction]
      exact ih _ hrest

end StoreState

/-! ## A store that has its schema -/

theorem StoreState.store_run_of_schema {s : StoreState} {schema : Schema}
    (h : s.store.schema = some schema) (actions : List StoreAction) :
    (s.run actions).value.store = s.store := by
  induction actions generalizing s with
  | nil => rfl
  | cons action rest ih =>
      have hstep : (s.step action).value.store = s.store := by
        cases action with
        | change edit => rfl
        | isLoaded => rfl
        | use use => simp [step, StoreUse.value_serve, SchemaStore.get_of_schema h]
      have hschema : (s.step action).value.store.schema = some schema := by rw [hstep, h]
      exact (ih hschema).trans hstep

theorem StoreState.gets_of_schema {s : StoreState} {schema : Schema}
    (h : s.store.schema = some schema) (actions : List StoreAction) (use : StoreUse) :
    use.Gets (s.run actions).value (.ok schema) s.store [] := by
  have hstore := store_run_of_schema h actions
  refine StoreUse.gets_of_get ?_ use
  rw [hstore, SchemaStore.get_of_schema h]
  rfl

/-- A store that has its schema reports no load. -/
theorem StoreState.countP_events_of_schema {s : StoreState} {schema : Schema}
    (h : s.store.schema = some schema) {actions : List StoreAction}
    (hsilent : ∀ action ∈ actions, action.RulesSilent) :
    (s.run actions).events.countP Event.reportsLoad = 0 := by
  have hreports := s.reports_append_run hsilent
  rw [store_run_of_schema h, List.append_right_eq_self] at hreports
  rw [List.countP_eq_length_filter, hreports, List.length_nil]

/-! ## A fresh store -/

namespace StoreState

/-- A store that has asked for nothing yet, among files. -/
def new (source : SchemaSource) (files : FileSystem) : StoreState := ⟨files, .new source⟩

variable (source : SchemaSource) (files : FileSystem)

theorem past_run_new (actions : List StoreAction) :
    ((new source files).run actions).value.store.Past source
      (sourceAnswers source 0 files actions) := by
  have hnew : (new source files).store.Past source [] := .empty (List.forall_mem_nil _)
  exact past_run (new source files) hnew actions

/-- The answers of the source to the uses after `before` start with that many. -/
theorem sourceAnswers_new_append (before after : List StoreAction) :
    sourceAnswers source 0 files (before ++ after) =
      sourceAnswers source 0 files before ++
        sourceAnswers source (useCount before) ((new source files).run before).value.files
          after := by
  have happend := sourceAnswers_append source (new source files) 0 before after
  rwa [Nat.zero_add] at happend

theorem getElem?_sourceAnswers (before after : List StoreAction) (use : StoreUse) :
    (sourceAnswers source 0 files (before ++ .use use :: after))[useCount before]? =
      some (source.load (useCount before) ((new source files).run before).value.files) := by
  rw [sourceAnswers_new_append, List.getElem?_append_right (length_sourceAnswers ..).le,
    length_sourceAnswers, Nat.sub_self]
  rfl

/-- Each use follows the first success of the source. -/
theorem use_follows_run_new (before after : List StoreAction) (use : StoreUse) :
    use.Follows ((new source files).run before).value
      (sourceAnswers source 0 files (before ++ .use use :: after)) (useCount before + 1) := by
  have hpast := past_run_new source files before
  have hfollows := StoreUse.follows_of_past hpast use
    (sourceAnswers source (useCount before + 1) ((new source files).run before).value.files after)
  rw [length_sourceAnswers] at hfollows
  rw [sourceAnswers_new_append]
  exact hfollows

/-- The store follows the first success of the source at each moment. -/
theorem store_follows_run_new (before after : List StoreAction) :
    ((new source files).run before).value.store.Follows
      (sourceAnswers source 0 files (before ++ after)) (useCount before) := by
  have hpast := past_run_new source files before
  rw [sourceAnswers_new_append, ← length_sourceAnswers source 0 files before]
  exact hpast.follows _

/-- A load is reported once if the store has a schema by then, and never otherwise. -/
theorem countP_events_run_new {actions : List StoreAction}
    (hsilent : ∀ action ∈ actions, action.RulesSilent) :
    ((new source files).run actions).events.countP Event.reportsLoad =
      if ((new source files).run actions).value.store.isLoaded then 1 else 0 := by
  have hreports : ((new source files).run actions).events.filter Event.reportsLoad =
      ((new source files).run actions).value.store.reports :=
    (new source files).reports_append_run hsilent
  rw [List.countP_eq_length_filter, hreports, SchemaStore.reports, SchemaStore.isLoaded]
  cases ((new source files).run actions).value.store.schema <;> rfl

end StoreState

/-! ## The first schema stays -/

/-- In every run of a fresh store, each use and each moment follow the first success among the
answers of the source, and the load is reported once it has happened and only then.  A store that
has its schema from the start answers with it at each use, does not ask its source and reports no
load. -/
theorem StoreState.run_keeps_first_schema (source : SchemaSource) (files : FileSystem)
    (actions : List StoreAction) :
    let start := new source files
    let answers := sourceAnswers source 0 files actions
    (∀ before use after, actions = before ++ .use use :: after →
      answers[useCount before]? =
          some (source.load (useCount before) (start.run before).value.files) ∧
        use.Follows (start.run before).value answers (useCount before + 1)) ∧
    (∀ before after, actions = before ++ after →
      (start.run before).value.store.Follows answers (useCount before) ∧
        ((∀ action ∈ before, action.RulesSilent) →
          (firstSuccess answers ≤ useCount before →
            (start.run before).events.countP Event.reportsLoad = 1) ∧
          (useCount before < firstSuccess answers →
            (start.run before).events.countP Event.reportsLoad = 0))) ∧
    ∀ schema, let kept : StoreState := ⟨files, .preloaded schema⟩
      (∀ before use after, actions = before ++ .use use :: after →
        use.Gets (kept.run before).value (.ok schema) (.preloaded schema) []) ∧
      (kept.run actions).value.store = .preloaded schema ∧
      ((∀ action ∈ actions, action.RulesSilent) →
        (kept.run actions).events.countP Event.reportsLoad = 0) := by
  intro start answers
  refine ⟨?_, ?_, fun schema => ⟨?_, ?_, ?_⟩⟩
  · rintro before use after rfl
    exact ⟨getElem?_sourceAnswers source files before after use,
      use_follows_run_new source files before after use⟩
  · rintro before after rfl
    have hfollows := store_follows_run_new source files before after
    refine ⟨hfollows, fun hsilent => ?_⟩
    rw [countP_events_run_new source files hsilent]
    refine ⟨fun hle => if_pos (hfollows.isLoaded_iff.mpr hle), fun hlt => if_neg ?_⟩
    exact fun hloaded => absurd (hfollows.isLoaded_iff.mp hloaded) (not_le.mpr hlt)
  · exact fun before use _ _ => gets_of_schema rfl before use
  · exact store_run_of_schema rfl actions
  · exact countP_events_of_schema rfl

/-- Files of which none can be read. -/
def noFiles : FileSystem := ⟨fun _ => .error .notFound⟩

/-- Files that all have the text of one schema. -/
def schemaFiles (schema : Schema) : FileSystem := ⟨fun _ => .ok (.file schema.render.toUTF8)⟩

theorem ofFile_schemaFiles (schema : Schema) (path : Path) :
    Schema.ofFile (schemaFiles schema) path = .ok schema := by
  have htext : String.fromUTF8? schema.render.toByteArray = some schema.render := by
    simp [String.fromUTF8?, schema.render.isValidUTF8, String.fromUTF8]
  have hread : (schemaFiles schema).readText path = .ok schema.render := by
    simp [FileSystem.readText, schemaFiles, bind, Except.bind, htext]
  simp [Schema.ofFile, hread, Schema.parse_render, Except.mapError, bind, Except.bind]

theorem ofFile_noFiles (path : Path) :
    Schema.ofFile noFiles path = .error (.unreadable path .notFound) := rfl

/-- A use before the schema file is there, a completion outside the document once it is there,
and a use after the file is gone. -/
def fileComesAndGoes (schema : Schema) : List StoreAction :=
  let workspace : Workspace := { project := .ofCompanion fun _ => none }
  let request : Request := ⟨.ofPartialLines #[], ⟨"app.tss"⟩, ⟨7, 0⟩⟩
  [.use .get, .change fun _ => schemaFiles schema, .isLoaded,
    .use (.complete workspace request), .change fun _ => noFiles, .use .get]

theorem sourceAnswers_fileComesAndGoes (schema : Schema) (path : Path) :
    sourceAnswers (.ofFile path) 0 noFiles (fileComesAndGoes schema) =
      [.error (.unreadable path .notFound), .ok schema, .error (.unreadable path .notFound)] := by
  simp only [sourceAnswers, fileComesAndGoes, SchemaSource.ofFile, ofFile_schemaFiles,
    ofFile_noFiles]

theorem firstSuccess_fileComesAndGoes (schema : Schema) (path : Path) :
    firstSuccess (sourceAnswers (.ofFile path) 0 noFiles (fileComesAndGoes schema)) =
      (2 : Nat) := by
  have hfailed : ∀ answer ∈ [(.error (.unreadable path .notFound) : Except SchemaError Schema)],
      answer.isOk = false := by
    intro answer hanswer
    rw [List.mem_singleton.mp hanswer]
    rfl
  rw [sourceAnswers_fileComesAndGoes]
  exact firstSuccess_append_ok hfailed schema _

theorem rulesSilent_fileComesAndGoes (schema : Schema) :
    ∀ action ∈ (fileComesAndGoes schema).dropLast, action.RulesSilent := by
  simp only [fileComesAndGoes, List.dropLast, List.forall_mem_cons]
  exact ⟨trivial, trivial, trivial, StoreAction.rulesSilent_standard _ _ _, trivial,
    List.forall_mem_nil _⟩

/-- A schema with one type. -/
def colorSchema : Schema := { types := .ofList [("Color", { properties := ["alpha"] })] }

/-- In that run the source is asked twice, and the last use gets the schema of a file that is
gone. -/
theorem StoreState.run_fileComesAndGoes :
    let path : Path := ⟨"schema.json"⟩
    let last := (new (.ofFile path) noFiles).run (fileComesAndGoes colorSchema).dropLast
    firstSuccess (sourceAnswers (.ofFile path) 0 noFiles (fileComesAndGoes colorSchema)) =
        (2 : Nat) ∧
      last.value.store.loads = 2 ∧ last.value.store.isLoaded = true ∧
      last.events.countP Event.reportsLoad = 1 ∧
      StoreUse.get.Gets last.value (.ok colorSchema) last.value.store [] := by
  -- Nothing here depends on the schema, whose text would be too long to evaluate.
  generalize colorSchema = schema
  intro path last
  have hfirst := firstSuccess_fileComesAndGoes schema path
  have hsplit : fileComesAndGoes schema =
      (fileComesAndGoes schema).dropLast ++ [.use .get] := rfl
  have hcount : useCount (fileComesAndGoes schema).dropLast = 2 := rfl
  obtain ⟨huses, hmoments, -⟩ :=
    run_keeps_first_schema (.ofFile path) noFiles (fileComesAndGoes schema)
  obtain ⟨hstore, hreports⟩ := hmoments _ _ hsplit
  have hle : firstSuccess (sourceAnswers (.ofFile path) 0 noFiles (fileComesAndGoes schema)) ≤
      useCount (fileComesAndGoes schema).dropLast := (hfirst.trans (by rw [hcount])).le
  have hloads : (last.value.store.loads : ℕ∞) = (2 : Nat) := by
    rw [hstore.loads_eq, min_eq_right hle, hfirst]
  obtain ⟨kept, hkept, hgets⟩ :=
    (huses _ _ _ hsplit).2.shares 2 hfirst (by rw [hcount]; decide)
  rw [sourceAnswers_fileComesAndGoes] at hkept
  obtain rfl : schema = kept := by simpa using hkept
  exact ⟨hfirst, Nat.cast_injective hloads, hstore.isLoaded_iff.mpr hle,
    (hreports (rulesSilent_fileComesAndGoes schema)).1 hle, hgets⟩

end StyleCompletion
