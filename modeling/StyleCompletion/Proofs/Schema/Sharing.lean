/-
Many callers of one store.

Callers ask a store for its schema at the same time.  Of the cell that holds the schema it is
taken for granted only that one caller at a time may load, that the others wait meanwhile, that
a schema once loaded stays, and that after a failure the cell is empty and a caller that waits
may load in its turn.  Each caller returns with an answer of `SchemaStore.get`, given when it
finds the schema or when its own load ends.

An interleaving is a list of actions.  It alone says which loads end, who runs them and which
files they find, so what the source answers to them is said without the store and its callers.
-/
import Mathlib.Logic.Function.Basic
import StyleCompletion.Proofs.Schema.Lifetime

namespace StyleCompletion

/-! ## Callers -/

/-- What a caller does. -/
inductive Phase where
  /-- It has not called yet. -/
  | idle
  /-- It has called and has no answer. -/
  | waiting
  /-- It runs the load with this number. -/
  | loading (attempt : Nat)
  /-- It has its answer. -/
  | returned (answer : Except SchemaError Schema)

/-- A store with `n` callers. -/
structure Sharing (n : Nat) where
  store : SchemaStore
  /-- Some caller runs a load. -/
  running : Bool := false
  phase : Fin n → Phase := fun _ => .idle

/-- What can happen next. -/
inductive Action (n : Nat) where
  /-- A caller asks. -/
  | call (i : Fin n)
  /-- A caller that waits finds the schema, whatever the files are by then. -/
  | share (i : Fin n) (files : FileSystem)
  /-- A caller that waits begins a load. -/
  | start (i : Fin n)
  /-- The load of a caller ends, with the files as it has found them. -/
  | finish (i : Fin n) (files : FileSystem)

/-! ## The loads of an interleaving -/

/-- A load that has ended: who ran it, its number, and the files that it found. -/
structure EndedLoad (n : Nat) where
  caller : Fin n
  attempt : Nat
  files : FileSystem

section

variable {n : Nat}

/-- The caller whose load an action ends, and the files that the load found. -/
def Action.ending? : Action n → Option (Fin n × FileSystem)
  | .finish i files => some (i, files)
  | _ => none

/-- The loads that end in an interleaving, numbered in order. -/
def endedLoads (actions : List (Action n)) : List (EndedLoad n) :=
  (actions.filterMap Action.ending?).mapIdx fun k ending => ⟨ending.1, k, ending.2⟩

/-- What the source answers to the loads of an interleaving, in order. -/
def loadAnswers (source : SchemaSource) (actions : List (Action n)) :
    List (Except SchemaError Schema) :=
  (endedLoads actions).map fun load => source.load load.attempt load.files

theorem endedLoads_append_finish (past : List (Action n)) (i : Fin n) (files : FileSystem) :
    endedLoads (past ++ [.finish i files]) =
      endedLoads past ++ [⟨i, (endedLoads past).length, files⟩] := by
  simp [endedLoads, Action.ending?, List.mapIdx_append]

theorem endedLoads_append_of_none (past : List (Action n)) {action : Action n}
    (h : action.ending? = none) : endedLoads (past ++ [action]) = endedLoads past := by
  simp [endedLoads, h]

/-- While the files stay as they are the source alone decides what it answers. -/
theorem getElem?_loadAnswers {actions : List (Action n)} {files : FileSystem}
    (hfiles : ∀ load ∈ endedLoads actions, load.files = files) (source : SchemaSource) {k : Nat}
    (hk : k < (loadAnswers source actions).length) :
    (loadAnswers source actions)[k]? = some (source.load k files) := by
  rw [loadAnswers, List.length_map] at hk
  have hattempt : (endedLoads actions)[k].attempt = k := by simp [endedLoads]
  rw [loadAnswers, List.getElem?_map, List.getElem?_eq_getElem hk, Option.map_some, hattempt,
    hfiles _ (List.getElem_mem hk)]

end

namespace Sharing

variable {n : Nat}

/-- A fresh store that nobody has called. -/
def new (source : SchemaSource) : Sharing n := { store := .new source }

/-! ## Steps -/

/-- Caller `i` goes over to another phase. -/
def setPhase (s : Sharing n) (i : Fin n) (phase : Phase) : Sharing n :=
  { s with phase := Function.update s.phase i phase }

@[simp] theorem phase_setPhase (s : Sharing n) (i j : Fin n) (phase : Phase) :
    (s.setPhase i phase).phase j = if j = i then phase else s.phase j :=
  Function.update_apply s.phase i phase j

/-- Caller `i` begins the next load. -/
def startLoad (s : Sharing n) (i : Fin n) : Sharing n :=
  { s.setPhase i (.loading s.store.loads) with
    store := { s.store with loads := s.store.loads + 1 }
    running := true }

/-- Caller `i` returns with the answer of `store`, which is then what that answer leaves of it. -/
def receive (s : Sharing n) (i : Fin n) (store : SchemaStore) (files : FileSystem) : Sharing n :=
  let (answer, kept) := (store.get files).value
  { s.setPhase i (.returned answer) with store := kept }

/-- The load `attempt` of caller `i` ends: the store answers as it does at that attempt. -/
def finishLoad (s : Sharing n) (i : Fin n) (attempt : Nat) (files : FileSystem) : Sharing n :=
  { s.receive i { s.store with loads := attempt } files with running := false }

/-- The state after an action, if the action is possible. -/
def step (s : Sharing n) : Action n → Option (Sharing n)
  | .call i =>
      match s.phase i with
      | .idle => some (s.setPhase i .waiting)
      | _ => none
  | .share i files =>
      match s.phase i, s.store.schema with
      | .waiting, some _ => some (s.receive i s.store files)
      | _, _ => none
  | .start i =>
      match s.phase i, s.store.schema, s.running with
      | .waiting, none, false => some (s.startLoad i)
      | _, _, _ => none
  | .finish i files =>
      match s.phase i with
      | .loading attempt => some (s.finishLoad i attempt files)
      | _ => none

/-- The state after a list of actions, if each is possible in its turn. -/
def run (s : Sharing n) : List (Action n) → Option (Sharing n)
  | [] => some s
  | action :: rest => (s.step action).bind fun next => next.run rest

end Sharing

/-! ## What the store answers -/

/-- An empty store asks its source, and keeps a schema if it gets one. -/
theorem SchemaStore.value_get_of_empty {store : SchemaStore} (h : store.schema = none)
    (files : FileSystem) :
    (store.get files).value =
      (store.source.load store.loads files,
        { store with
          loads := store.loads + 1
          schema := (store.source.load store.loads files).toOption }) := by
  cases hload : store.source.load store.loads files with
  | error error => simp [get_of_error h hload, Except.toOption, h]
  | ok schema => simp [get_of_ok h hload, Except.toOption, Logged.reporting]

namespace Sharing

variable {n : Nat} {s next : Sharing n}

/-- A caller that finds a schema gets it, and the store stays as it is. -/
theorem receive_eq {schema : Schema} (h : s.store.schema = some schema) (i : Fin n)
    (files : FileSystem) : s.receive i s.store files = s.setPhase i (.returned (.ok schema)) := by
  rw [receive, SchemaStore.get_of_schema h]
  rfl

/-- While the store is empty the caller whose load ends gets the answer of the source. -/
theorem finishLoad_eq (h : s.store.schema = none) (i : Fin n) (attempt : Nat)
    (files : FileSystem) :
    s.finishLoad i attempt files =
      { s.setPhase i (.returned (s.store.source.load attempt files)) with
        store := { s.store with
          loads := attempt + 1
          schema := (s.store.source.load attempt files).toOption }
        running := false } := by
  have hempty : { s.store with loads := attempt }.schema = none := h
  simp only [finishLoad, receive, SchemaStore.value_get_of_empty hempty]

/-- The end of a load changes the phase of the caller that ran it, and of no other. -/
theorem phase_finishLoad (h : s.store.schema = none) (i j : Fin n) (attempt : Nat)
    (files : FileSystem) :
    (s.finishLoad i attempt files).phase j =
      if j = i then .returned (s.store.source.load attempt files) else s.phase j := by
  rw [finishLoad_eq h]
  exact phase_setPhase s i j _

/-- What each action needs and does. -/
theorem step_cases {action : Action n} (h : s.step action = some next) :
    (∃ i, action = .call i ∧ s.phase i = .idle ∧ next = s.setPhase i .waiting) ∨
    (∃ i files schema, action = .share i files ∧ s.phase i = .waiting ∧
      s.store.schema = some schema ∧ next = s.setPhase i (.returned (.ok schema))) ∨
    (∃ i, action = .start i ∧ s.phase i = .waiting ∧ s.store.schema = none ∧
      s.running = false ∧ next = s.startLoad i) ∨
    ∃ i attempt files, action = .finish i files ∧ s.phase i = .loading attempt ∧
      next = s.finishLoad i attempt files := by
  cases action with
  | call i =>
      simp only [step] at h
      split at h
      · next hphase => exact .inl ⟨i, rfl, hphase, (Option.some.inj h).symm⟩
      · exact absurd h (by simp)
  | share i files =>
      simp only [step] at h
      split at h
      · next schema hphase hschema =>
          rw [receive_eq hschema] at h
          exact .inr (.inl ⟨i, files, schema, rfl, hphase, hschema, (Option.some.inj h).symm⟩)
      · exact absurd h (by simp)
  | start i =>
      simp only [step] at h
      split at h
      · next hphase hschema hrunning =>
          exact .inr (.inr (.inl ⟨i, rfl, hphase, hschema, hrunning, (Option.some.inj h).symm⟩))
      · exact absurd h (by simp)
  | finish i files =>
      simp only [step] at h
      split at h
      · next attempt hphase =>
          exact .inr (.inr (.inr ⟨i, attempt, files, rfl, hphase, (Option.some.inj h).symm⟩))
      · exact absurd h (by simp)

/-- What holds at first, and is kept by each step as the past grows by its action, holds after
every run. -/
theorem run_induction {motive : List (Action n) → Sharing n → Prop} (past : List (Action n))
    (hstep : ∀ past s next action, s.step action = some next → motive past s →
      motive (past ++ [action]) next)
    {actions : List (Action n)} {last : Sharing n} (hrun : s.run actions = some last)
    (h : motive past s) : motive (past ++ actions) last := by
  induction actions generalizing past s with
  | nil =>
      obtain rfl := Option.some.inj hrun
      rwa [List.append_nil]
  | cons action rest ih =>
      obtain ⟨next, hnext, hrest⟩ := Option.bind_eq_some_iff.mp hrun
      rw [List.append_cons]
      exact ih _ hrest (hstep past s next action hnext h)

end Sharing

end StyleCompletion
