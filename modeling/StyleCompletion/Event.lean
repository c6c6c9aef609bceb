/-
The log: what the library reports while it works.

A computation that reports is a value of `Logged`, a result together with the events
on the way to it, so a log is data like any other.
-/

namespace StyleCompletion

/-- Weight of an event. -/
inductive Level where
  | trace
  | debug
  | info
  | warn
deriving DecidableEq, Repr

/-- The name of a level. -/
def Level.name : Level → String
  | .trace => "trace"
  | .debug => "debug"
  | .info => "info"
  | .warn => "warn"

/-- Data attached to an event. -/
inductive FieldValue where
  | text (value : String)
  | count (value : Nat)
deriving DecidableEq, Repr

/-- Everything that is reported. -/
inductive Event where
  | schemaLoaded (tags properties types : Nat)
  | parentTypeMissing (parent type : String)
  | scanStopped (line : Nat)
  | ambiguousRules (chosen ignored linePrefix : String)
  | ruleDeclined (rule : String)
  | stringsUnreadable
  | assetUnreadable
  | lineOutsideDocument (line : Nat)
  | noContext (linePrefix : String)
  | contextFound
  | parentResolved
  | parentWithoutChildren (parent : String)
  | unknownProperty (property : String)
  | noCompanion
  | companionUnreadable
  | candidatesFound (count : Nat)
  | completed (count : Nat)
deriving DecidableEq, Repr

namespace Event

/-- The weight of an event. -/
def level : Event → Level
  | schemaLoaded .. => .info
  | ambiguousRules .. => .warn
  | noContext _ | candidatesFound _ => .trace
  | _ => .debug

/-- The text of an event. -/
def message : Event → String
  | schemaLoaded .. => "schema loaded"
  | parentTypeMissing .. => "parent type missing from schema"
  | scanStopped _ => "scan stopped at closed block"
  | ambiguousRules .. => "more than one completion rule matches"
  | ruleDeclined _ => "rule declined"
  | stringsUnreadable => "i18n strings unreadable"
  | assetUnreadable => "skipping unreadable asset entry"
  | lineOutsideDocument _ => "cursor line outside document"
  | noContext _ => "no completion context"
  | contextFound => "completion context"
  | parentResolved => "resolved parent block"
  | parentWithoutChildren _ => "parent has no nested properties, offering all"
  | unknownProperty _ => "unknown property"
  | noCompanion => "no companion markup"
  | companionUnreadable => "companion markup unreadable"
  | candidatesFound _ => "completion candidates"
  | completed _ => "completed"

/-- The named data of an event. -/
def fields : Event → List (String × FieldValue)
  | schemaLoaded tags properties types =>
      [("tags", .count tags), ("properties", .count properties), ("types", .count types)]
  | parentTypeMissing parent type => [("parent", .text parent), ("ty", .text type)]
  | scanStopped line => [("line", .count line)]
  | ambiguousRules chosen ignored linePrefix =>
      [("chosen", .text chosen), ("ignored", .text ignored), ("line_prefix", .text linePrefix)]
  | ruleDeclined rule => [("rule", .text rule)]
  | lineOutsideDocument line => [("line", .count line)]
  | noContext linePrefix => [("line_prefix", .text linePrefix)]
  | parentWithoutChildren parent => [("parent", .text parent)]
  | unknownProperty property => [("property", .text property)]
  | candidatesFound count => [("count", .count count)]
  | completed count => [("count", .count count)]
  | stringsUnreadable | assetUnreadable | contextFound | parentResolved | noCompanion
  | companionUnreadable => []

end Event

/-- A result and the events reported on the way to it, in order. -/
structure Logged (α : Type) where
  value : α
  events : List Event
deriving Repr

namespace Logged

variable {α β : Type}

/-- Reports one event. -/
def report (event : Event) : Logged Unit := ⟨(), [event]⟩

/-- Reports `events` and gives `value`. -/
def reporting (events : List Event) (value : α) : Logged α := ⟨value, events⟩

instance : Monad Logged where
  pure value := ⟨value, []⟩
  bind first next :=
    let second := next first.value
    ⟨second.value, first.events ++ second.events⟩

@[simp] theorem value_pure (a : α) : (pure a : Logged α).value = a := rfl

@[simp] theorem events_pure (a : α) : (pure a : Logged α).events = [] := rfl

@[simp] theorem value_bind (x : Logged α) (f : α → Logged β) :
    (x >>= f).value = (f x.value).value := rfl

@[simp] theorem events_bind (x : Logged α) (f : α → Logged β) :
    (x >>= f).events = x.events ++ (f x.value).events := rfl

@[simp] theorem events_report (event : Event) : (report event).events = [event] := rfl

end Logged

end StyleCompletion
