/-
What a completion reports.

Apart from what rules report of their own, and from the warning that several rules are for one
prefix, a completion reports nothing above the level of debugging.
-/
import StyleCompletion.Engine

namespace StyleCompletion

/-! ## Logs -/

namespace Logged

variable {α β : Type} {P : Event → Prop}

/-- All events that are reported satisfy `P`. -/
def OnlyReports (P : Event → Prop) (x : Logged α) : Prop := ∀ event ∈ x.events, P event

theorem onlyReports_pure (a : α) : (pure a : Logged α).OnlyReports P := by
  simp [OnlyReports]

theorem OnlyReports.bind {x : Logged α} {f : α → Logged β} (hx : x.OnlyReports P)
    (hf : (f x.value).OnlyReports P) : (x >>= f).OnlyReports P := by
  intro event hevent
  rw [events_bind, List.mem_append] at hevent
  exact hevent.elim (hx event) (hf event)

theorem onlyReports_reporting {event : Event} (h : P event) (a : α) :
    (reporting [event] a).OnlyReports P := by
  simpa [OnlyReports, reporting] using h

theorem onlyReports_report {event : Event} (h : P event) : (report event).OnlyReports P := by
  simpa [OnlyReports] using h

end Logged

open Logged

/-- The event is one for debugging. -/
def Event.IsQuiet (event : Event) : Prop := event.level = .debug ∨ event.level = .trace

/-! ## Rules -/

namespace RuleSet

theorem mem_of_value_find {set : RuleSet} {linePrefix : String} {rule : Rule}
    (h : (set.find linePrefix).value = some rule) : rule ∈ set.rules := by
  rw [find] at h
  split at h
  · exact absurd h (by simp)
  · next first others hfilter =>
      obtain rfl : first = rule := Option.some.inj h
      have hmem : first ∈ set.rules.filter (·.applies linePrefix) := by
        rw [hfilter]
        exact List.mem_cons_self
      exact (List.mem_filter.mp hmem).1

/-- The choice of a rule reports the others that it passes over. -/
theorem find_onlyReports {P : Event → Prop}
    (h : ∀ chosen ignored linePrefix, P (.ambiguousRules chosen ignored linePrefix))
    (set : RuleSet) (linePrefix : String) : (set.find linePrefix).OnlyReports P := by
  rw [find]
  split
  · exact onlyReports_pure _
  · intro event hevent
    obtain ⟨other, -, rfl⟩ := List.mem_map.mp hevent
    exact h _ _ _

/-- The rules of the library report only events for debugging. -/
theorem standard_onlyReports {P : Event → Prop} (hquiet : ∀ event : Event, event.IsQuiet → P event)
    {rule : Rule} (hrule : rule ∈ standard.rules) (context : RuleContext) :
    (rule.answer context).OnlyReports P := by
  rw [standard, List.mem_cons, List.mem_singleton] at hrule
  rcases hrule with rfl | rfl
  · simp only [Rule.textKey]
    split
    · exact onlyReports_pure _
    · split
      · exact onlyReports_reporting (hquiet _ (.inl rfl)) _
      · exact onlyReports_pure _
  · simp only [Rule.image]
    split
    · exact onlyReports_pure _
    · split
      · exact onlyReports_reporting (hquiet _ (.inl rfl)) _
      · exact onlyReports_pure _

end RuleSet

/-! ## Parts of a completion -/

section

variable {P : Event → Prop} (hquiet : ∀ event : Event, event.IsQuiet → P event)

include hquiet

theorem parentAbove_onlyReports (document : DocumentView) (n : Nat) :
    (parentAbove document n).OnlyReports P := by
  induction n with
  | zero => exact onlyReports_pure _
  | succ n ih =>
      rw [parentAbove]
      split
      · exact ih
      · split
        · exact onlyReports_pure _
        · exact onlyReports_reporting (hquiet _ (.inl rfl)) _
        · exact ih

theorem Schema.nestedProperties_onlyReports (schema : Schema) (parent : String) :
    (schema.nestedProperties parent).OnlyReports P := by
  rw [nestedProperties]
  split
  · exact onlyReports_pure _
  · split
    · exact onlyReports_reporting (hquiet _ (.inl rfl)) _
    · exact onlyReports_pure _

theorem offerProperties_onlyReports (schema : Schema) (parent word : Option String)
    (settings : Settings) : (offerProperties schema parent word settings).OnlyReports P := by
  cases parent with
  | none => exact onlyReports_pure _
  | some parent =>
      refine (schema.nestedProperties_onlyReports hquiet parent).bind ?_
      split
      · exact onlyReports_pure _
      · exact (onlyReports_report (hquiet _ (.inl rfl))).bind (onlyReports_pure _)

theorem offerValues_onlyReports (schema : Schema) (property : String) (word : Option String) :
    (offerValues schema property word).OnlyReports P := by
  rw [offerValues]
  split
  · exact onlyReports_reporting (hquiet _ (.inl rfl)) _
  · exact onlyReports_pure _

theorem offerSelectors_onlyReports (project : Project) (files : FileSystem) (style : Path)
    (kind : SelectorKind) (word : Option String) :
    (offerSelectors project files style kind word).OnlyReports P := by
  rw [offerSelectors]
  split
  · exact onlyReports_reporting (hquiet _ (.inl rfl)) _
  · split
    · exact onlyReports_reporting (hquiet _ (.inl rfl)) _
    · exact onlyReports_pure _

namespace Workspace

variable (workspace : Workspace)

theorem offer_onlyReports (schema : Schema) (files : FileSystem) (request : Request)
    (context : Context) : (workspace.offer schema files request context).OnlyReports P := by
  rw [offer]
  split
  · exact offerValues_onlyReports hquiet _ _ _
  · refine (parentAbove_onlyReports hquiet _ _).bind ?_
    refine (onlyReports_report (hquiet _ (.inl rfl))).bind ?_
    exact offerProperties_onlyReports hquiet _ _ _ _
  · exact offerSelectors_onlyReports hquiet _ _ _ _ _
  · exact onlyReports_pure _

variable (hfind : ∀ linePrefix, (workspace.rules.find linePrefix).OnlyReports P)
  (hrules : ∀ rule ∈ workspace.rules.rules, ∀ context, (rule.answer context).OnlyReports P)

include hfind hrules

theorem answerByRule_onlyReports (schema : Schema) (files : FileSystem) (path : Path)
    (linePrefix : String) (word : Option String) :
    (workspace.answerByRule schema files path linePrefix word).OnlyReports P := by
  refine (hfind linePrefix).bind ?_
  split
  · exact onlyReports_pure _
  · next rule hrule =>
      refine (hrules rule (RuleSet.mem_of_value_find hrule) _).bind ?_
      split
      · exact (onlyReports_report (hquiet _ (.inl rfl))).bind (onlyReports_pure _)
      · exact onlyReports_pure _

/-- A completion reports what its rules report, and otherwise only events for debugging and the
warnings about rules that are for one prefix. -/
theorem complete_onlyReports (schema : Schema) (files : FileSystem) (request : Request) :
    (workspace.complete schema files request).OnlyReports P := by
  rw [complete]
  split
  · exact onlyReports_reporting (hquiet _ (.inl rfl)) _
  · refine (workspace.answerByRule_onlyReports hquiet hfind hrules _ _ _ _ _).bind ?_
    split
    · exact onlyReports_pure _
    · split
      · exact (onlyReports_report (hquiet _ (.inr rfl))).bind (onlyReports_pure _)
      · refine (onlyReports_report (hquiet _ (.inl rfl))).bind ?_
        refine (workspace.offer_onlyReports hquiet _ _ _ _).bind ?_
        exact (onlyReports_report (hquiet _ (.inr rfl))).bind (onlyReports_pure _)

end Workspace

end

end StyleCompletion
