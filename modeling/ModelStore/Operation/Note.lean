import ModelStore.Event
import ModelStore.Query.Statement

/-!
# Notes

What is worth remembering of the work on a store, besides its outcome: which calls were taken up, which diagnostics
were reported, which statements were sent, and which changes hit more rows than the one they return.

## Main definitions

* `Note`: the notes.
* `Note.eventsOf`, `Note.sentOf`: the diagnostics and the statements among some notes.
-/

namespace ModelStore

/-- A note. -/
inductive Note where
  | dispatching (model method : String)
  | reported (event : Event)
  | sent (statement : Statement)
  | severalMatched (table : String) (rows : Nat)
  deriving Repr, Inhabited

namespace Note

/-- The diagnostic of a note. -/
def event? : Note → Option Event
  | reported event => some event
  | _ => none

/-- The statement of a note. -/
def statement? : Note → Option Statement
  | sent statement => some statement
  | _ => none

/-- The diagnostics among some notes, in order. -/
def eventsOf (notes : List Note) : List Event := notes.filterMap event?

/-- The statements among some notes, in order. -/
def sentOf (notes : List Note) : List Statement := notes.filterMap statement?

end Note

end ModelStore
