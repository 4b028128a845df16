import ModelStore.Json.Basic

/-!
# Diagnostics

A call can meet something that its caller should hear of though it is no failure: a relation that does not exist,
or a bulk mutation without a condition. Such diagnostics go to sinks: a collector keeps them until it is cleared,
a channel until its receiver takes them.

## Main definitions

* `Event`: the diagnostics, with their JSON and their text.
* `Collector`, `Channel`: the sinks.
-/

namespace ModelStore

/-- The bulk mutations. -/
inductive BulkOperation where
  | updateMany
  | deleteMany
  deriving DecidableEq, Repr, Inhabited

/-- The name of a bulk mutation. -/
def BulkOperation.name : BulkOperation → String
  | .updateMany => "updateMany"
  | .deleteMany => "deleteMany"

/-- A diagnostic. -/
inductive Event where
  /-- A relation was asked for that the table does not have, and was passed over. -/
  | unknownRelation (table relation : String)
  /-- A bulk mutation ran without a condition. -/
  | unboundedMutation (table : String) (operation : BulkOperation)
  deriving DecidableEq, Repr, Inhabited

namespace Event

/-- A diagnostic as JSON. -/
def toJson : Event → Json
  | unknownRelation table relation =>
    .object [("event", .text "unknownRelation"), ("table", .text table), ("relation", .text relation)]
  | unboundedMutation table operation =>
    .object [("event", .text "unboundedMutation"), ("table", .text table), ("operation", .text operation.name)]

/-- A diagnostic in one line. -/
def describe : Event → String
  | unknownRelation table relation => "Relation '" ++ relation ++ "' not found on table '" ++ table ++ "'"
  | unboundedMutation table operation => operation.name ++ " called without where on table " ++ table

end Event

/-! ## Sinks -/

/-- A sink that keeps what it is sent, in order. -/
structure Collector where
  events : List Event
  deriving Repr, Inhabited

namespace Collector

/-- The collector without events. -/
def empty : Collector := ⟨[]⟩

/-- Keeps one more event. -/
def emit (collector : Collector) (event : Event) : Collector := ⟨collector.events ++ [event]⟩

/-- Forgets all events. -/
def clear (_ : Collector) : Collector := empty

/-- The number of events kept. -/
def length (collector : Collector) : Nat := collector.events.length

/-- Whether no event is kept. -/
def isEmpty (collector : Collector) : Bool := collector.events.isEmpty

end Collector

/-- A sink that hands its events to a receiver; without one they are lost. -/
structure Channel where
  pending : List Event
  isOpen : Bool
  deriving Repr, Inhabited

namespace Channel

/-- A channel with a receiver. -/
def start : Channel := ⟨[], true⟩

/-- Sends an event. -/
def emit (channel : Channel) (event : Event) : Channel :=
  if channel.isOpen then { channel with pending := channel.pending ++ [event] } else channel

/-- Takes the receiver away. -/
def close (_ : Channel) : Channel := ⟨[], false⟩

/-- What the receiver takes, if there is one. -/
def drain (channel : Channel) : Option (List Event) × Channel :=
  if channel.isOpen then (some channel.pending, { channel with pending := [] }) else (none, channel)

end Channel

end ModelStore
