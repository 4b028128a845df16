import ModelStore.Query.Predicate
import ModelStore.Query.Statement

/-!
# From options to statements

The statements of the mutations and of the count. The values of a payload are looked at in its order, each with its
column, and all of them before any condition. An insertion gives a fresh identifier to every column that asks for
one and that the payload leaves out, behind the values of the payload.

## Main definitions

* `Payload.compile`: the values of a payload.
* `Table.insertion`, `Table.change`, `Table.removal`, `Table.counting`, `Table.lookup`: the statements.
-/

namespace ModelStore

variable {ι : Type}

/-! ## Payloads -/

/-- The values of a payload for the columns of a table. -/
def Payload.compile (table : Table ι) : Payload → Except Error Assignments
  | [] => .ok []
  | (name, value) :: rest =>
    match table.column? name with
    | none => .error (.unknownColumn table.name name)
    | some column => do
      let cell ← Cell.ofJson column.name value
      return (column, cell) :: (← Payload.compile table rest)

/-- The columns for which an insertion of a payload makes identifiers. -/
def Table.identified (table : Table ι) (data : Payload) : List Column :=
  table.columns.filter fun column => column.initial == .uuid && !data.contains column.name

/-! ## Statements -/

namespace Table

/-- The insertion of a payload, given the identifiers to use. -/
def insertion (table : Table ι) (ids : Nat → String) (data : Payload) : Except Error Statement := do
  let values ← Payload.compile table data
  let made := (table.identified data).zipIdx.map fun (column, k) => (column, Cell.text (ids k))
  return .insert table.name (values ++ made) table.columns

/-- The columns that a change or a removal returns. -/
def returned (table : Table ι) (asked : Bool) : Option (List Column) :=
  if asked then some table.columns else none

/-- The change of the rows under a condition. -/
def change (table : Table ι) (filter : Option Conditions) (data : Payload) (returning : Bool) :
    Except Error Statement :=
  if data.isEmpty then .error (.refused (.emptyUpdate table.name))
  else do
    let values ← Payload.compile table data
    let predicate ← compileFilter table none filter
    return .update table.name values predicate (table.returned returning)

/-- The removal of the rows under a condition. -/
def removal (table : Table ι) (filter : Option Conditions) (returning : Bool) : Except Error Statement := do
  let predicate ← compileFilter table none filter
  return .delete table.name predicate (table.returned returning)

/-- The count of the rows under a condition. -/
def counting (table : Table ι) (filter : Option Conditions) : Except Error Statement := do
  return .count table.name (← compileFilter table none filter)

/-- The first row under a condition. -/
def lookup (table : Table ι) (filter : Option Conditions) : Except Error Statement := do
  return .first table.name table.columns (← compileFilter table none filter)

end Table

end ModelStore
