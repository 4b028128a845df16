import ModelStore.Query.Eval

/-!
# Statements

All that is ever sent to the store: the search of a plan, the first row under a condition, the insertion of a row,
the change and the removal of the rows under a condition, and the count of such rows. A statement has one text with
a placeholder for every parameter, and one meaning on a store.

An insertion always returns the new row. A change or a removal returns the rows if it is asked to, a change as they
then are and a removal as they were. The columns of the conditions and of the returned rows bear no qualifier here.

## Main definitions

* `Statement`, `Statement.sql`, `Statement.params`: statements, their texts and their parameters.
* `Statement.run`: what a statement answers, and the store that it leaves.
-/

namespace ModelStore

open Sql (Expr quoteName)

/-! ## Statements -/

/-- Values for columns. -/
abbrev Assignments := List (Column × Cell)

/-- A statement. -/
inductive Statement where
  | find (plan : Plan)
  | first (table : String) (columns : List Column) (predicate : List Expr)
  | insert (table : String) (values : Assignments) (returned : List Column)
  | update (table : String) (values : Assignments) (predicate : List Expr) (returned : Option (List Column))
  | delete (table : String) (predicate : List Expr) (returned : Option (List Column))
  | count (table : String) (predicate : List Expr)
  deriving Repr, Inhabited

/-- How a statement is run: for rows, for the number of rows that it touches, or for one number. -/
inductive StatementKind where
  | query
  | execute
  | scalar
  deriving DecidableEq, Repr, Inhabited

/-- The name of a kind. -/
def StatementKind.name : StatementKind → String
  | .query => "query"
  | .execute => "execute"
  | .scalar => "scalar"

namespace Statement

/-- How the statement is run. -/
def kind : Statement → StatementKind
  | find _ | first .. | insert .. | update _ _ _ (some _) | delete _ _ (some _) => .query
  | update _ _ _ none | delete _ _ none => .execute
  | count .. => .scalar

/-- Whether the statement is meant to change the store. -/
def changes : Statement → Bool
  | insert .. | update .. | delete .. => true
  | find _ | first .. | count .. => false

/-- The columns of the rows that the statement returns. -/
def outputs : Statement → List OutputColumn
  | find plan => plan.outputs
  | first _ columns _ => columns.map OutputColumn.of
  | insert _ _ returned => returned.map OutputColumn.of
  | update _ _ _ returned | delete _ _ returned => (returned.getD []).map OutputColumn.of
  | count .. => []

/-! ## Text -/

/-- The names of some columns. -/
def nameList (columns : List Column) : String :=
  String.intercalate ", " (columns.map fun column => quoteName column.name)

/-- The clause of the columns that are returned. -/
def returning : Option (List Column) → String
  | some columns => " RETURNING " ++ nameList columns
  | none => ""

/-- What stands behind the table of an insertion. -/
def insertBody (values : Assignments) : String :=
  if values.isEmpty then " DEFAULT VALUES"
  else " (" ++ nameList (values.map (·.1)) ++ ") VALUES (" ++ Sql.placeholders values.length ++ ")"

/-- The new values of a change. -/
def assignmentList (values : Assignments) : String :=
  String.intercalate ", " (values.map fun (column, _) => quoteName column.name ++ " = ?")

/-- The text of the statement. -/
def sql : Statement → String
  | find plan => plan.sql
  | first table columns predicate =>
    "SELECT " ++ nameList columns ++ " FROM " ++ quoteName table ++ Sql.whereClause predicate ++ " LIMIT 1"
  | insert table values returned =>
    "INSERT INTO " ++ quoteName table ++ insertBody values ++ returning (some returned)
  | update table values predicate returned =>
    "UPDATE " ++ quoteName table ++ " SET " ++ assignmentList values ++ Sql.whereClause predicate
      ++ returning returned
  | delete table predicate returned =>
    "DELETE FROM " ++ quoteName table ++ Sql.whereClause predicate ++ returning returned
  | count table predicate => "SELECT COUNT(*) FROM " ++ quoteName table ++ Sql.whereClause predicate

/-- The parameters of the statement, in the order of the placeholders. -/
def params : Statement → List Cell
  | find plan => plan.params
  | first _ _ predicate | delete _ predicate _ | count _ predicate => Sql.conjunctionParams predicate
  | insert _ values _ => values.map (·.2)
  | update _ values predicate _ => values.map (·.2) ++ Sql.conjunctionParams predicate

end Statement

/-! ## Meaning -/

/-- What a statement answers: the rows that it returns, and how many rows it touches or counts. -/
structure Answer where
  rows : List (List Cell)
  affected : Nat
  deriving DecidableEq, Repr, Inhabited

namespace StoredTable

/-- The columns of one row in scope. -/
def scope (table : StoredTable) (row : StoredRow) : Bindings := [table.bind table.name row]

/-- Whether a row satisfies a conjunction. -/
def satisfies (table : StoredTable) (predicate : List Expr) (row : StoredRow) : Bool :=
  Sql.allHold (Bindings.lookup (table.scope row)) predicate

/-- The rows that satisfy a conjunction. -/
def choose (table : StoredTable) (predicate : List Expr) : List StoredRow :=
  table.rows.filter (table.satisfies predicate)

/-- The cells of some columns of a row. -/
def project (table : StoredTable) (columns : List Column) (row : StoredRow) : List Cell :=
  columns.map fun column => (Bindings.lookup (table.scope row) ⟨none, column.name⟩).1

/-- The cells that the rows given return. -/
def answer (table : StoredTable) (returned : Option (List Column)) (rows : List StoredRow) : Answer :=
  ⟨(returned.map fun columns => rows.map (table.project columns)).getD [], rows.length⟩

/-- The slots of columns with their values, or the first column that means none in the table. -/
def slotValues (table : StoredTable) (missing : String → StoreError) : Assignments → Except StoreError SlotValues
  | [] => .ok []
  | (column, cell) :: rest =>
    match table.slot? column.name with
    | none => .error (missing column.name)
    | some slot => do return (slot, cell) :: (← table.slotValues missing rest)

end StoredTable

namespace Statement

/-- The table of a name in the store. -/
def tableOf (store : Store) (name : String) : Except StoreError StoredTable :=
  match store.table? name with
  | some table => .ok table
  | none => .error (.noSuchTable name)

/-- What the statement, once it has been read, answers at a time, and the store that it leaves. Where a change names a
slot twice, the last value counts. -/
def answer (now : Int) (store : Store) : Statement → Except StoreError (Answer × Store)
  | find plan => do
    plan.check store
    return (⟨(plan.eval store).rows, 0⟩, store)
  | first table columns predicate => do
    let stored ← tableOf store table
    let needed := columns.map (fun column => ⟨none, column.name⟩) ++ predicate.map Expr.ref
    let found := (stored.read ⟨predicate, needed, []⟩).filter (stored.satisfies predicate)
    return (stored.answer (some columns) (found.take 1), store)
  | insert table values returned => do
    let stored ← tableOf store table
    let given ← stored.slotValues (.noColumnNamed table) values
    let (row, stored) ← stored.insert now given
    return (stored.answer (some returned) [row], store.put stored)
  | update table values predicate returned => do
    let stored ← tableOf store table
    let given ← stored.slotValues (fun name => .noSuchColumn name none) values
    let (rows, stored) ← stored.update given.reverse (stored.choose predicate)
    return (stored.answer returned rows, store.put stored)
  | delete table predicate returned => do
    let stored ← tableOf store table
    let chosen := stored.choose predicate
    return (stored.answer returned chosen, store.put (stored.delete chosen))
  | count table predicate => do
    let stored ← tableOf store table
    return (⟨[], (stored.choose predicate).length⟩, store)

/-- Whether a conjunction of the statement is too high. -/
def isTooHigh : Statement → Bool
  | find plan => plan.isTooHigh
  | first _ _ predicate | update _ _ predicate _ | delete _ predicate _ | count _ predicate =>
    decide (Sql.heightLimit < Sql.conjunctionHeight predicate)
  | insert .. => false

/-- What the statement answers at a time, and the store that it leaves. It has to be read first. -/
def run (now : Int) (store : Store) (statement : Statement) : Except StoreError (Answer × Store) :=
  match Sql.readingFault statement.sql with
  | some fault => .error fault
  | none => if statement.isTooHigh then .error (.tooHigh Sql.heightLimit) else statement.answer now store

end Statement

end ModelStore
