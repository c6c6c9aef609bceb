/-
One load at a time, and none lost.

However the callers of a store are interleaved, at most one load is under way and at most one
succeeds.  What the source answers to a load is told to the caller that ran it, and all callers
that get a schema get the one that the source gave.  So the failed loads and the callers that got
an error are equal in number, and how many callers get a schema depends on the answers of the
source and not on the interleaving.
-/
import Mathlib.Data.Fintype.Card
import StyleCompletion.Proofs.Schema.Sharing

namespace StyleCompletion

/-! ## The invariants -/

/-- What the source has answered, given what the store holds: while it is empty there were only
errors, and after the schema there is no answer. -/
inductive Outcomes : List (Except SchemaError Schema) → Option Schema → Prop where
  | empty {failures : List (Except SchemaError Schema)}
      (hfailed : ∀ answer ∈ failures, answer.isOk = false) : Outcomes failures none
  | full {failures : List (Except SchemaError Schema)}
      (hfailed : ∀ answer ∈ failures, answer.isOk = false) (schema : Schema) :
      Outcomes (failures ++ [.ok schema]) (some schema)

/-- Another answer goes to the end of the list as long as the store is empty. -/
theorem Outcomes.snoc {answers : List (Except SchemaError Schema)} (h : Outcomes answers none)
    (answer : Except SchemaError Schema) : Outcomes (answers ++ [answer]) answer.toOption := by
  obtain ⟨hfailed⟩ := h
  cases answer with
  | error error => exact .empty (failed_append_error hfailed error)
  | ok schema => exact .full hfailed schema

namespace Sharing

/-- The load that is under way, if there is one, after `loads` have ended. -/
structure Flight {n : Nat} (loads : List (EndedLoad n)) (s : Sharing n) : Prop where
  loads_eq : s.store.loads = loads.length + if s.running then 1 else 0
  exists_loading : s.running = true → ∃ i attempt, s.phase i = .loading attempt
  of_loading : ∀ i attempt, s.phase i = .loading attempt →
    s.running = true ∧ s.store.schema = none ∧ attempt = loads.length
  unique : ∀ i j a b, s.phase i = .loading a → s.phase j = .loading b → i = j

/-- What the callers and the store have got of `loads`, which have ended. -/
structure Record {n : Nat} (source : SchemaSource) (loads : List (EndedLoad n)) (s : Sharing n) :
    Prop where
  source_eq : s.store.source = source
  phase_eq : ∀ load ∈ loads, s.phase load.caller = .returned (source.load load.attempt load.files)
  nodup : (loads.map EndedLoad.caller).Nodup
  load_of_error : ∀ i error, s.phase i = .returned (.error error) →
    ∃ load ∈ loads, load.caller = i
  schema_of_ok : ∀ i schema, s.phase i = .returned (.ok schema) → s.store.schema = some schema
  outcomes : Outcomes (loads.map fun load => source.load load.attempt load.files) s.store.schema

variable {n : Nat} {source : SchemaSource} {loads : List (EndedLoad n)} {s next : Sharing n}

theorem flight_new : (new source : Sharing n).Flight [] where
  loads_eq := rfl
  exists_loading := by simp [new]
  of_loading := by simp [new]
  unique := by simp [new]

theorem record_new : (new source : Sharing n).Record source [] where
  source_eq := rfl
  phase_eq := by simp
  nodup := by simp
  load_of_error := by simp [new]
  schema_of_ok := by simp [new]
  outcomes := .empty (by simp)

/-! ## One step -/

/-- A caller that neither ends nor begins a load leaves the load that is under way alone. -/
theorem Flight.setPhase (h : s.Flight loads) {i : Fin n} {phase : Phase}
    (hold : ∀ attempt, s.phase i ≠ .loading attempt) (hnew : ∀ attempt, phase ≠ .loading attempt) :
    (s.setPhase i phase).Flight loads where
  loads_eq := h.loads_eq
  exists_loading hrunning := by
    obtain ⟨j, attempt, hj⟩ := h.exists_loading hrunning
    have hne : j ≠ i := fun heq => hold attempt (heq ▸ hj)
    exact ⟨j, attempt, by simp [hne, hj]⟩
  of_loading j attempt hj := by
    have hne : j ≠ i := fun heq => hnew attempt (by simpa [heq] using hj)
    exact h.of_loading j attempt (by simpa [hne] using hj)
  unique j k a b hj hk := by
    have hnej : j ≠ i := fun heq => hnew a (by simpa [heq] using hj)
    have hnek : k ≠ i := fun heq => hnew b (by simpa [heq] using hk)
    exact h.unique j k a b (by simpa [hnej] using hj) (by simpa [hnek] using hk)

theorem Flight.startLoad (h : s.Flight loads) {i : Fin n} (hschema : s.store.schema = none)
    (hrunning : s.running = false) : (s.startLoad i).Flight loads := by
  -- Nobody loads yet, so only caller `i` does from now on.
  have hnone (j : Fin n) (attempt : Nat) : s.phase j ≠ .loading attempt := by
    intro hj
    have hbusy := (h.of_loading j attempt hj).1
    exact absurd (hrunning.symm.trans hbusy) (by simp)
  have honly (j : Fin n) (attempt : Nat)
      (hj : (s.setPhase i (.loading s.store.loads)).phase j = .loading attempt) :
      j = i ∧ attempt = s.store.loads := by
    rw [phase_setPhase] at hj
    split at hj
    · next hji => exact ⟨hji, (Phase.loading.inj hj).symm⟩
    · exact absurd hj (hnone j attempt)
  have hloads := h.loads_eq
  rw [hrunning] at hloads
  refine ⟨?_, fun _ => ⟨i, s.store.loads, ?_⟩, fun j attempt hj => ?_, fun j k a b hj hk => ?_⟩
  · simpa [Sharing.startLoad, Sharing.setPhase] using hloads
  · exact (phase_setPhase s i i _).trans (if_pos rfl)
  · exact ⟨rfl, hschema, (honly j attempt hj).2.trans hloads⟩
  · exact (honly j a hj).1.trans (honly k b hk).1.symm

theorem Flight.finishLoad (h : s.Flight loads) {i : Fin n} {attempt : Nat} (files : FileSystem)
    (hphase : s.phase i = .loading attempt) :
    (s.finishLoad i attempt files).Flight (loads ++ [⟨i, attempt, files⟩]) := by
  obtain ⟨-, hschema, rfl⟩ := h.of_loading i attempt hphase
  -- Caller `i` was the only one that loaded, and it has returned.
  have hnone (j : Fin n) (attempt : Nat) :
      (s.finishLoad i loads.length files).phase j ≠ .loading attempt := by
    rw [phase_finishLoad hschema]
    split
    · simp
    · next hji => exact fun hj => hji (h.unique j i _ _ hj hphase)
  refine ⟨?_, ?_, fun j attempt hj => absurd hj (hnone j attempt),
    fun j k a b hj _ => absurd hj (hnone j a)⟩
  · simp [finishLoad_eq hschema]
  · simp [finishLoad_eq hschema]

/-- A caller that has not returned may go over to another phase, if it returns with nothing but
the schema of the store. -/
theorem Record.setPhase (h : s.Record source loads) {i : Fin n} {phase : Phase}
    (hold : ∀ answer, s.phase i ≠ .returned answer)
    (herror : ∀ error, phase ≠ .returned (.error error))
    (hok : ∀ schema, phase = .returned (.ok schema) → s.store.schema = some schema) :
    (s.setPhase i phase).Record source loads where
  source_eq := h.source_eq
  phase_eq load hload := by
    have hreturned := h.phase_eq load hload
    have hne : load.caller ≠ i := fun heq => hold _ (heq ▸ hreturned)
    rw [phase_setPhase, if_neg hne, hreturned]
  nodup := h.nodup
  load_of_error j error hj := by
    rw [phase_setPhase] at hj
    split at hj
    · exact absurd hj (herror error)
    · exact h.load_of_error j error hj
  schema_of_ok j schema hj := by
    rw [phase_setPhase] at hj
    split at hj
    · exact hok schema hj
    · exact h.schema_of_ok j schema hj
  outcomes := h.outcomes

/-- The answer of the source to a load that ends goes to the caller that ran it, and a schema
also to the store. -/
theorem Record.finishLoad (h : s.Record source loads) {i : Fin n} {attempt : Nat}
    (files : FileSystem) (hphase : s.phase i = .loading attempt) (hschema : s.store.schema = none) :
    (s.finishLoad i attempt files).Record source (loads ++ [⟨i, attempt, files⟩]) := by
  have hphases (j : Fin n) : (s.finishLoad i attempt files).phase j =
      if j = i then .returned (source.load attempt files) else s.phase j := by
    rw [phase_finishLoad hschema, h.source_eq]
  have hstore : (s.finishLoad i attempt files).store.schema =
      (source.load attempt files).toOption := by
    rw [finishLoad_eq hschema, h.source_eq]
  -- Caller `i` has not returned before, so no load that has ended is its own.
  have hnew : ∀ load ∈ loads, load.caller ≠ i := by
    intro load hload heq
    have hreturned := h.phase_eq load hload
    rw [heq, hphase] at hreturned
    exact absurd hreturned (by simp)
  refine ⟨?_, fun load hload => ?_, ?_, fun j error hj => ?_, fun j schema hj => ?_, ?_⟩
  · rw [finishLoad_eq hschema]
    exact h.source_eq
  · rw [hphases]
    rcases List.mem_append.mp hload with hearlier | hlast
    · rw [if_neg (hnew load hearlier), h.phase_eq load hearlier]
    · obtain rfl := List.mem_singleton.mp hlast
      exact if_pos rfl
  · rw [List.map_append, List.nodup_append]
    refine ⟨h.nodup, List.nodup_singleton _, fun j hj k hk => ?_⟩
    obtain ⟨load, hload, rfl⟩ := List.mem_map.mp hj
    rw [List.mem_singleton.mp hk]
    exact hnew load hload
  · rw [hphases] at hj
    split at hj
    · next hji => exact ⟨_, List.mem_append_right _ (List.mem_singleton.mpr rfl), hji.symm⟩
    · obtain ⟨load, hload, hcaller⟩ := h.load_of_error j error hj
      exact ⟨load, List.mem_append_left _ hload, hcaller⟩
  · rw [hphases] at hj
    split at hj
    · rw [hstore, Phase.returned.inj hj]
      rfl
    · exact absurd (hschema.symm.trans (h.schema_of_ok j schema hj)) (by simp)
  · have hempty := h.outcomes
    rw [hschema] at hempty
    rw [List.map_append, hstore]
    exact hempty.snoc (source.load attempt files)

/-- Both invariants are kept by every action, and the past grows by it. -/
theorem inv_step {past : List (Action n)} {action : Action n} (hstep : s.step action = some next)
    (h : s.Flight (endedLoads past) ∧ s.Record source (endedLoads past)) :
    next.Flight (endedLoads (past ++ [action])) ∧
      next.Record source (endedLoads (past ++ [action])) := by
  obtain ⟨hflight, hrecord⟩ := h
  -- In the order of the actions: call, share, start, finish.
  rcases step_cases hstep with ⟨i, rfl, hphase, rfl⟩ |
    ⟨i, files, schema, rfl, hphase, hschema, rfl⟩ | ⟨i, rfl, hphase, hschema, hrunning, rfl⟩ |
    ⟨i, attempt, files, rfl, hphase, rfl⟩
  · rw [endedLoads_append_of_none past rfl]
    exact ⟨hflight.setPhase (by simp [hphase]) (by simp),
      hrecord.setPhase (by simp [hphase]) (by simp) (by simp)⟩
  · rw [endedLoads_append_of_none past rfl]
    exact ⟨hflight.setPhase (by simp [hphase]) (by simp),
      hrecord.setPhase (by simp [hphase]) (by simp) (by simp [hschema])⟩
  · rw [endedLoads_append_of_none past rfl]
    have hkept : (s.setPhase i (.loading s.store.loads)).Record source (endedLoads past) :=
      hrecord.setPhase (by simp [hphase]) (by simp) (by simp)
    exact ⟨hflight.startLoad hschema hrunning, hkept.source_eq, hkept.phase_eq, hkept.nodup,
      hkept.load_of_error, hkept.schema_of_ok, hkept.outcomes⟩
  · obtain ⟨-, hschema, rfl⟩ := hflight.of_loading i attempt hphase
    rw [endedLoads_append_finish]
    exact ⟨hflight.finishLoad files hphase, hrecord.finishLoad files hphase hschema⟩

theorem inv_run {actions : List (Action n)} (hrun : (new source).run actions = some s) :
    s.Flight (endedLoads actions) ∧ s.Record source (endedLoads actions) :=
  run_induction []
    (motive := fun past s => s.Flight (endedLoads past) ∧ s.Record source (endedLoads past))
    (fun _ _ _ _ hstep h => inv_step hstep h) hrun ⟨flight_new, record_new⟩

end Sharing

/-! ## Counting answers -/

/-- The caller has got a schema. -/
def Phase.succeeded : Phase → Bool
  | .returned answer => answer.isOk
  | _ => false

/-- The caller has got an error. -/
def Phase.failed : Phase → Bool
  | .returned answer => !answer.isOk
  | _ => false

@[simp] theorem isOk_ok (schema : Schema) :
    (Except.ok schema : Except SchemaError Schema).isOk = true := rfl

@[simp] theorem isOk_error (error : SchemaError) :
    (Except.error error : Except SchemaError Schema).isOk = false := rfl

theorem Phase.succeeded_iff {phase : Phase} :
    phase.succeeded = true ↔ ∃ schema, phase = .returned (.ok schema) := by
  cases phase with
  | returned answer => cases answer <;> simp [succeeded]
  | _ => simp [succeeded]

theorem Phase.failed_iff {phase : Phase} :
    phase.failed = true ↔ ∃ error, phase = .returned (.error error) := by
  cases phase with
  | returned answer => cases answer <;> simp [failed]
  | _ => simp [failed]

section

variable {answers : List (Except SchemaError Schema)} {kept : Option Schema} {f : Nat}

/-- Of these answers the first `f` are errors, as far as there are so many, and the next one, if
there is one, is a schema. -/
structure SucceedsAfter (answers : List (Except SchemaError Schema)) (f : Nat) : Prop where
  errors : ∀ answer ∈ answers.take f, answer.isOk = false
  success : ∀ answer, answers[f]? = some answer → answer.isOk = true

/-- Only the answer that filled the store is a schema. -/
theorem Outcomes.countP_isOk (h : Outcomes answers kept) :
    answers.countP Except.isOk = if kept.isSome then 1 else 0 := by
  have hzero {failures : List (Except SchemaError Schema)}
      (hfailed : ∀ answer ∈ failures, answer.isOk = false) :
      failures.countP Except.isOk = 0 := by
    rw [List.countP_eq_zero]
    intro answer hanswer
    simp [hfailed answer hanswer]
  cases h with
  | empty hfailed => exact hzero hfailed
  | full hfailed schema =>
      rw [List.countP_append, hzero hfailed]
      rfl

/-- A store that is loaded holds an answer of the source. -/
theorem Outcomes.ok_mem {schema : Schema} (h : Outcomes answers (some schema)) :
    .ok schema ∈ answers := by
  obtain ⟨⟩ | ⟨hfailed, _⟩ := h
  simp

/-- The answers are errors, and after them a schema if the store is loaded. -/
theorem Outcomes.exists_succeedsAfter (h : Outcomes answers kept) :
    ∃ f, SucceedsAfter answers f ∧ answers.length = f + if kept.isSome then 1 else 0 := by
  cases h with
  | empty hfailed =>
      refine ⟨answers.length, ⟨?_, ?_⟩, rfl⟩
      · rwa [List.take_length]
      · simp
  | @full failures hfailed schema =>
      refine ⟨failures.length, ⟨?_, ?_⟩, by simp⟩
      · rwa [List.take_left]
      · intro answer hanswer
        obtain rfl : .ok schema = answer := by simpa using hanswer
        rfl

/-- There are no other answers than errors before the first success and that success. -/
theorem Outcomes.length_of_succeedsAfter (h : Outcomes answers kept)
    (hf : SucceedsAfter answers f) :
    (kept.isSome = false ∧ answers.length ≤ f) ∨ (kept.isSome = true ∧ answers.length = f + 1) := by
  -- An answer that is an error is not the one after `f` errors.
  have hne {k : Nat} {answer : Except SchemaError Schema} (hk : answers[k]? = some answer)
      (hfailed : answer.isOk = false) : k ≠ f := by
    rintro rfl
    rw [hf.success answer hk] at hfailed
    exact absurd hfailed (by simp)
  cases h with
  | empty hfailed =>
      refine .inl ⟨rfl, Nat.le_of_not_lt fun hlt => ?_⟩
      exact hne (List.getElem?_eq_getElem hlt) (hfailed _ (List.getElem_mem hlt)) rfl
  | @full failures hfailed schema =>
      have hge : f ≤ failures.length := by
        refine Nat.le_of_not_lt fun hlt => ?_
        -- The schema would be among the first `f` answers.
        have hmem : .ok schema ∈ (failures ++ [Except.ok schema]).take f := by
          rw [List.take_of_length_le (by simpa using hlt)]
          simp
        exact absurd (hf.errors (.ok schema) hmem) (by simp)
      have hle : failures.length ≤ f := by
        refine Nat.le_of_not_lt fun hlt => ?_
        have hget : (failures ++ [.ok schema])[f]? = some failures[f] := by
          rw [List.getElem?_append_left hlt, List.getElem?_eq_getElem hlt]
        exact hne hget (hfailed _ (List.getElem_mem hlt)) rfl
      refine .inr ⟨rfl, ?_⟩
      rw [List.length_append, Nat.le_antisymm hle hge, List.length_singleton]

end

namespace Sharing

variable {n : Nat} {source : SchemaSource} {loads : List (EndedLoad n)} {s : Sharing n}

/-- Number of callers that have got a schema. -/
def successes (s : Sharing n) : Nat :=
  (Finset.univ.filter fun i => (s.phase i).succeeded = true).card

/-- Number of callers that have got an error. -/
def failures (s : Sharing n) : Nat :=
  (Finset.univ.filter fun i => (s.phase i).failed = true).card

/-- All callers have returned. -/
def Settled (s : Sharing n) : Prop := ∀ i, ∃ answer, s.phase i = .returned answer

/-- A caller that has got an error has run a load that ended with it. -/
theorem Record.exists_load_of_error (h : s.Record source loads) {i : Fin n} {error : SchemaError}
    (hphase : s.phase i = .returned (.error error)) :
    ∃ load ∈ loads, load.caller = i ∧ source.load load.attempt load.files = .error error := by
  obtain ⟨load, hload, rfl⟩ := h.load_of_error i error hphase
  exact ⟨load, hload, rfl, Phase.returned.inj ((h.phase_eq load hload).symm.trans hphase)⟩

/-- A schema that the store holds is the answer of the source to a load. -/
theorem Record.exists_load_of_schema (h : s.Record source loads) {schema : Schema}
    (hschema : s.store.schema = some schema) :
    ∃ load ∈ loads, source.load load.attempt load.files = .ok schema :=
  List.mem_map.mp (hschema ▸ h.outcomes).ok_mem

/-- A caller gets an error from each load that fails, and from nothing else. -/
theorem Record.failures_eq (h : s.Record source loads) :
    s.failures = loads.countP fun load => !(source.load load.attempt load.files).isOk := by
  have hset : (Finset.univ.filter fun i => (s.phase i).failed = true) =
      ((loads.filter fun load => !(source.load load.attempt load.files).isOk).map
        EndedLoad.caller).toFinset := by
    ext i
    rw [Finset.mem_filter, List.mem_toFinset, List.mem_map]
    constructor
    · rintro ⟨-, hfailed⟩
      obtain ⟨error, hphase⟩ := Phase.failed_iff.mp hfailed
      obtain ⟨load, hload, hcaller, hanswer⟩ := h.exists_load_of_error hphase
      exact ⟨load, List.mem_filter.mpr ⟨hload, by simp [hanswer]⟩, hcaller⟩
    · rintro ⟨load, hload, rfl⟩
      obtain ⟨hmem, hfailed⟩ := List.mem_filter.mp hload
      rw [h.phase_eq load hmem]
      exact ⟨Finset.mem_univ _, hfailed⟩
  -- No caller runs two loads, so the callers are as many as their loads.
  have hnodup := h.nodup.sublist ((List.filter_sublist
    (p := fun load => !(source.load load.attempt load.files).isOk)).map EndedLoad.caller)
  rw [failures, hset, List.toFinset_card_of_nodup hnodup, List.length_map,
    List.countP_eq_length_filter]

/-- The loads that have ended are the failures, and the success if there is one. -/
theorem Record.length_loads (h : s.Record source loads) :
    loads.length = s.failures + if s.store.isLoaded then 1 else 0 := by
  have hsplit := List.length_eq_countP_add_countP
    (fun load : EndedLoad n => (source.load load.attempt load.files).isOk) (l := loads)
  simp only [Bool.not_eq_true, Bool.decide_eq_false] at hsplit
  have hok := h.outcomes.countP_isOk
  rw [List.countP_map] at hok
  rw [h.failures_eq, hsplit, Nat.add_comm]
  exact congrArg (_ + ·) hok

theorem Settled.successes_add_failures (h : s.Settled) : s.successes + s.failures = n := by
  have hnot : ∀ i, (s.phase i).failed = true ↔ ¬(s.phase i).succeeded = true := by
    intro i
    obtain ⟨answer, hphase⟩ := h i
    simp [hphase, Phase.failed, Phase.succeeded]
  simp only [successes, failures, hnot]
  rw [Finset.card_filter_add_card_filter_not]
  simp

/-- When all callers have returned every load that began has ended. -/
theorem Flight.loads_eq_of_settled (h : s.Flight loads) (hsettled : s.Settled) :
    s.store.loads = loads.length := by
  have hidle : s.running = false := by
    rw [← Bool.not_eq_true]
    intro hrunning
    obtain ⟨i, attempt, hloading⟩ := h.exists_loading hrunning
    obtain ⟨answer, hreturned⟩ := hsettled i
    exact absurd (hloading.symm.trans hreturned) (by simp)
  rw [h.loads_eq, hidle]
  rfl

/-- As long as a caller has not returned there is something that can happen. -/
theorem Flight.exists_step (h : s.Flight loads) (hsettled : ¬s.Settled) :
    ∃ action next, s.step action = some next := by
  have hfinish {i : Fin n} {attempt : Nat} (hloading : s.phase i = .loading attempt) :
      ∃ action next, s.step action = some next :=
    ⟨.finish i noFiles, s.finishLoad i attempt noFiles, by simp [step, hloading]⟩
  cases hrunning : s.running with
  | true =>
      obtain ⟨i, attempt, hloading⟩ := h.exists_loading hrunning
      exact hfinish hloading
  | false =>
      obtain ⟨i, hi⟩ := not_forall.mp hsettled
      cases hphase : s.phase i with
      | idle => exact ⟨.call i, s.setPhase i .waiting, by simp [step, hphase]⟩
      | waiting =>
          cases hschema : s.store.schema with
          | none => exact ⟨.start i, s.startLoad i, by simp [step, hphase, hschema, hrunning]⟩
          | some schema =>
              exact ⟨.share i noFiles, s.receive i s.store noFiles,
                by simp [step, hphase, hschema]⟩
      | loading attempt => exact hfinish hphase
      | returned answer => exact absurd ⟨answer, hphase⟩ hi

/-! ## How many callers get a schema -/

/-- Some caller has got a schema exactly if the store is loaded. -/
theorem Record.successes_pos_iff (h : s.Record source loads) :
    0 < s.successes ↔ s.store.isLoaded = true := by
  rw [successes, Finset.card_pos, SchemaStore.isLoaded, Option.isSome_iff_exists]
  constructor
  · rintro ⟨i, hi⟩
    obtain ⟨schema, hphase⟩ := Phase.succeeded_iff.mp (Finset.mem_filter.mp hi).2
    exact ⟨schema, h.schema_of_ok i schema hphase⟩
  · -- The caller that loaded the schema has got it.
    rintro ⟨schema, hschema⟩
    obtain ⟨load, hload, hanswer⟩ := h.exists_load_of_schema hschema
    refine ⟨load.caller, Finset.mem_filter.mpr ⟨Finset.mem_univ _, ?_⟩⟩
    rw [h.phase_eq load hload, hanswer]
    rfl

/-- If the source has answered with `f` errors before its first schema, then `f` callers get an
error, or all of them if they are fewer. -/
theorem Record.failures_of_succeedsAfter (h : s.Record source loads) (hsettled : s.Settled)
    {f : Nat}
    (hf : SucceedsAfter (loads.map fun load => source.load load.attempt load.files) f) :
    s.failures = min n f := by
  have hsum := hsettled.successes_add_failures
  have hlength := h.length_loads
  have hpos := h.successes_pos_iff
  have hanswers := h.outcomes.length_of_succeedsAfter hf
  rw [List.length_map] at hanswers
  rcases hanswers with ⟨hempty, hle⟩ | ⟨hloaded, heq⟩
  · -- All callers have failed, each in a load of its own.
    replace hempty : s.store.isLoaded = false := hempty
    simp only [hempty, Bool.false_eq_true, if_false, iff_false] at hlength hpos
    omega
  · -- The last load gave the schema, and the ones before it are the failures.
    replace hloaded : s.store.isLoaded = true := hloaded
    simp only [hloaded, if_true, iff_true] at hlength hpos
    omega

end Sharing

/-! ## Callers one after the other -/

section

variable {store : SchemaStore} {files : FileSystem}

theorem SchemaStore.successes_getMany_of_loaded {schema : Schema}
    (h : store.schema = some schema) (n : Nat) : (store.getMany files n).1 = n := by
  induction n with
  | zero => rfl
  | succ n ih => simp [getMany, get, h, ih]

/-- Callers that come one after the other get a schema from the attempt that succeeds on. -/
theorem SchemaStore.successes_getMany_of_empty {f : Nat} (h : store.schema = none)
    (hle : store.loads ≤ f) (hfail : ∀ k < f, (store.source.load k files).isOk = false) {n : Nat}
    (hok : f < store.loads + n → (store.source.load f files).isOk = true) :
    (store.getMany files n).1 = n - min n (f - store.loads) := by
  induction n generalizing store with
  | zero => simp [getMany]
  | succ n ih =>
      rw [getMany, value_get_of_empty h]
      cases hload : store.source.load store.loads files with
      | error error =>
          -- The attempt that succeeds is a later one.
          have hlt : store.loads < f := by
            rcases Nat.lt_or_eq_of_le hle with hlt | heq
            · exact hlt
            · have hsucceeds := hok (by omega)
              rw [← heq, hload] at hsucceeds
              exact absurd hsucceeds (by simp)
          have hrest : (SchemaStore.getMany { store with loads := store.loads + 1, schema := none }
              files n).1 = n - min n (f - (store.loads + 1)) :=
            ih rfl hlt hfail (fun (hbound : f < store.loads + 1 + n) => hok (by omega))
          show (SchemaStore.getMany _ files n).1 + 0 = _
          rw [Except.toOption, hrest]
          omega
      | ok schema =>
          have hge : ¬store.loads < f := by
            intro hlt
            have hfailing := hfail _ hlt
            rw [hload] at hfailing
            exact absurd hfailing (by simp)
          have hrest : (SchemaStore.getMany
              { store with loads := store.loads + 1, schema := some schema } files n).1 = n :=
            successes_getMany_of_loaded rfl n
          show (SchemaStore.getMany _ files n).1 + 1 = _
          rw [Except.toOption, hrest]
          omega

end

/-- While the files stay as they are, as many callers get a schema as if they came one after the
other. -/
theorem Sharing.Record.successes_eq_getMany {n : Nat} {source : SchemaSource} {s : Sharing n}
    {actions : List (Action n)} (h : s.Record source (endedLoads actions)) (hsettled : s.Settled)
    {files : FileSystem} (hfiles : ∀ load ∈ endedLoads actions, load.files = files) :
    s.successes = ((SchemaStore.new source).getMany files n).1 := by
  obtain ⟨f, hf, hlength⟩ : ∃ f, SucceedsAfter (loadAnswers source actions) f ∧
      (loadAnswers source actions).length = f + if s.store.isLoaded then 1 else 0 :=
    h.outcomes.exists_succeedsAfter
  have hfailures := h.failures_of_succeedsAfter hsettled hf
  have hsum := hsettled.successes_add_failures
  have hfail : ∀ k < f, (source.load k files).isOk = false := by
    intro k hk
    have hget : ((loadAnswers source actions).take f)[k]? = some (source.load k files) := by
      rw [List.getElem?_take_of_lt hk]
      exact getElem?_loadAnswers hfiles source (by omega)
    exact hf.errors _ (List.mem_of_getElem? hget)
  have hok : f < n → (source.load f files).isOk = true := by
    intro hlt
    -- Not all callers have failed, so the source has answered with a schema.
    have hloaded : s.store.isLoaded = true := h.successes_pos_iff.mp (by omega)
    rw [hloaded, if_pos rfl] at hlength
    exact hf.success _ (getElem?_loadAnswers hfiles source (by omega))
  have hmany : ((SchemaStore.new source).getMany files n).1 = n - min n f :=
    SchemaStore.successes_getMany_of_empty rfl (Nat.zero_le f) hfail
      fun hlt => hok (by simpa [SchemaStore.new] using hlt)
  omega

/-! ## Every interleaving -/

/-- However callers of a fresh store are interleaved, at most one load is under way, and the
source has answered with a schema at most once.  What it answered to a load is what the caller
that ran the load has got.  Each schema that a caller got is the one that the source gave and the
store holds, and each error is the answer to a load which the caller ran itself.  The callers
never block each other for good, and when all have returned there was one load for each error and
one for the schema.  So with `f` errors before the first schema all callers but `f` get a schema,
and while the files stay as they are that is as many as if they came one after the other. -/
theorem Sharing.run_single_flight {n : Nat} {source : SchemaSource} {s : Sharing n}
    {actions : List (Action n)} (hrun : (Sharing.new source).run actions = some s) :
    (∀ i j a b, s.phase i = .loading a → s.phase j = .loading b → i = j) ∧
    (loadAnswers source actions).countP Except.isOk ≤ 1 ∧
    (∀ load ∈ endedLoads actions,
      s.phase load.caller = .returned (source.load load.attempt load.files)) ∧
    (∀ i schema, s.phase i = .returned (.ok schema) → s.store.schema = some schema ∧
      ∃ load ∈ endedLoads actions, source.load load.attempt load.files = .ok schema) ∧
    (∀ i error, s.phase i = .returned (.error error) →
      ∃ load ∈ endedLoads actions,
        load.caller = i ∧ source.load load.attempt load.files = .error error) ∧
    (¬s.Settled → ∃ action next, s.step action = some next) ∧
    (s.Settled → s.store.loads = (endedLoads actions).length ∧
      s.store.loads = s.failures + if s.store.isLoaded then 1 else 0) ∧
    (∀ f, SucceedsAfter (loadAnswers source actions) f → s.Settled →
      s.successes = n - min n f) ∧
    ∀ files, (∀ load ∈ endedLoads actions, load.files = files) → s.Settled →
      s.successes = ((SchemaStore.new source).getMany files n).1 := by
  obtain ⟨hflight, hrecord⟩ := inv_run hrun
  refine ⟨hflight.unique, ?_, hrecord.phase_eq, fun i schema hi => ?_,
    fun i error hi => hrecord.exists_load_of_error hi, hflight.exists_step,
    fun hsettled => ?_, fun f hf hsettled => ?_,
    fun files hfiles hsettled => hrecord.successes_eq_getMany hsettled hfiles⟩
  · rw [loadAnswers, hrecord.outcomes.countP_isOk]
    split <;> omega
  · have hschema := hrecord.schema_of_ok i schema hi
    exact ⟨hschema, hrecord.exists_load_of_schema hschema⟩
  · have hloads := hflight.loads_eq_of_settled hsettled
    exact ⟨hloads, hloads.trans hrecord.length_loads⟩
  · have hsum := hsettled.successes_add_failures
    have hfailures := hrecord.failures_of_succeedsAfter hsettled hf
    omega

/-- Four callers: the load of one fails while the others wait, and another one takes over. -/
def handOver (first second : FileSystem) : List (Action 4) :=
  [.call 0, .call 1, .start 0, .call 2, .finish 0 first, .start 2, .call 3, .finish 2 second,
    .share 3 first, .share 1 second]

theorem endedLoads_handOver (first second : FileSystem) :
    endedLoads (handOver first second) = [⟨0, 0, first⟩, ⟨2, 1, second⟩] := rfl

section

variable {source : SchemaSource} {first second : FileSystem} {error : SchemaError}
  {schema : Schema}

/-- In that interleaving all callers return, if the first load fails and the second does not. -/
theorem Sharing.settled_handOver (hfirst : source.load 0 first = .error error)
    (hsecond : source.load 1 second = .ok schema) :
    ∃ s, (Sharing.new source).run (handOver first second) = some s ∧ s.Settled ∧
      s.store.isLoaded = true := by
  simp [handOver, run, step, new, SchemaStore.new, startLoad, finishLoad, receive, setPhase,
    SchemaStore.get, hfirst, hsecond, Logged.reporting, SchemaStore.isLoaded, Settled,
    Fin.forall_fin_succ, Function.update]

theorem succeedsAfter_handOver (hfirst : source.load 0 first = .error error)
    (hsecond : source.load 1 second = .ok schema) :
    SucceedsAfter (loadAnswers source (handOver first second)) 1 := by
  rw [loadAnswers, endedLoads_handOver, List.map_cons, List.map_cons, hfirst, hsecond]
  exact ⟨by simp, by simp⟩

end

/-- A source that fails at the first attempt only. -/
def offlineOnce : SchemaSource := .ofAttempts #[.error (.failed "offline"), .ok {}]

/-- In that interleaving a file that is there from the second load on is read twice, and three of
the four callers get its schema.  As many get one from a source that fails at first while the
files stay as they are. -/
theorem Sharing.run_handOver :
    (∃ s, (Sharing.new (.ofFile ⟨"schema.json"⟩)).run
        (handOver noFiles (schemaFiles colorSchema)) = some s ∧ s.Settled ∧
      s.store.loads = s.failures + 1 ∧ s.successes = 3 ∧
      s.phase 0 = .returned (.error (.unreadable ⟨"schema.json"⟩ .notFound)) ∧
      s.phase 2 = .returned (.ok colorSchema)) ∧
    ∃ s, (Sharing.new offlineOnce).run (handOver noFiles noFiles) = some s ∧ s.Settled ∧
      s.successes = ((SchemaStore.new offlineOnce).getMany noFiles 4).1 := by
  constructor
  · -- Nothing here depends on the schema, whose text would be too long to evaluate.
    generalize colorSchema = schema
    have hfirst : (SchemaSource.ofFile ⟨"schema.json"⟩).load 0 noFiles = _ := ofFile_noFiles _
    have hsecond : (SchemaSource.ofFile ⟨"schema.json"⟩).load 1 (schemaFiles schema) = _ :=
      ofFile_schemaFiles schema _
    obtain ⟨s, hrun, hsettled, hloaded⟩ := settled_handOver hfirst hsecond
    obtain ⟨-, -, hreturned, -, -, -, hloads, hsuccesses, -⟩ := run_single_flight hrun
    rw [endedLoads_handOver, List.forall_mem_cons, List.forall_mem_singleton] at hreturned
    refine ⟨s, hrun, hsettled, ?_, hsuccesses 1 (succeedsAfter_handOver hfirst hsecond) hsettled,
      hreturned.1.trans (congrArg _ hfirst), hreturned.2.trans (congrArg _ hsecond)⟩
    rw [(hloads hsettled).2, if_pos hloaded]
  · obtain ⟨s, hrun, hsettled, -⟩ : ∃ s, (Sharing.new offlineOnce).run
        (handOver noFiles noFiles) = some s ∧ s.Settled ∧ s.store.isLoaded = true :=
      settled_handOver rfl rfl
    obtain ⟨-, -, -, -, -, -, -, -, hmany⟩ := run_single_flight hrun
    refine ⟨s, hrun, hsettled, hmany noFiles ?_ hsettled⟩
    rw [endedLoads_handOver]
    simp

end StyleCompletion
