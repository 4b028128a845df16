import ModelStore.Query.Plan
import ModelStore.Store.Table

/-!
# Access to tables

In what order a search reads the rows of a table. They stand in the order of their ids, and for every column with
distinct values they are also known in the order of that column. The latter is read where the conditions bound the
column and bound nothing else more closely, where the rows are to be sorted by it, or where nothing but it and the row
id is wanted.

## Main definitions

* `Bound`, `Sql.Expr.bound?`: how a condition bounds a column.
* `Access`: what is wanted of a table.
* `StoredTable.read`: the rows in the order in which they are read.
-/

namespace ModelStore

open Sql (Expr ColumnRef)

/-! ## Bounds -/

/-- How a condition bounds a column: to one value, to some values, or from one side. -/
inductive Bound where
  | point
  | points
  | below
  | above
  deriving DecidableEq, Repr, Inhabited

/-- The bound that a comparison sets. -/
def Sql.Comparison.bound? : Sql.Comparison → Option Bound
  | .eq => some .point
  | .ne => none
  | .gt | .gte => some .below
  | .lt | .lte => some .above

/-- The bound that a condition sets, and the column that it is set to. -/
def Sql.Expr.bound? : Expr → Option (ColumnRef × Bound)
  | .compare (.column ref) op _ => op.bound?.map (ref, ·)
  | .member (.column ref) [_] => some (ref, .point)
  | .member (.column ref) (_ :: _ :: _) => some (ref, .points)
  | .nullTest (.column ref) true => some (ref, .point)
  | _ => none

/-- How loose some bounds on one column are: 0 for a single value, and 4 for no bound at all. -/
def looseness (bounds : List Bound) : Nat :=
  if bounds.contains .point then 0
  else if bounds.contains .points then 1
  else if bounds.contains .below && bounds.contains .above then 2
  else if bounds.isEmpty then 4
  else 3

/-! ## Access -/

/-- What is wanted of a table: the conditions, the references whose values are needed, and the sort keys. -/
structure Access where
  terms : List Expr
  needed : List ColumnRef
  order : List SortKey
  deriving Repr, Inhabited

namespace StoredTable

/-- The slot that a reference means in the table. -/
def slotOf? (table : StoredTable) (ref : ColumnRef) : Option Slot :=
  if ref.qualifier.all (sameName table.name) then table.slot? ref.name else none

/-- The places of the columns in whose order the rows are known. -/
def indexed (table : StoredTable) : List Nat := table.distinct.filter fun i => table.rowId != some i

/-- How loosely the conditions bound a slot. -/
def loosenessOf (table : StoredTable) (access : Access) (slot : Slot) : Nat :=
  looseness (access.terms.filterMap fun term => term.bound?.bind fun (ref, bound) =>
    if table.slotOf? ref = some slot then some bound else none)

/-- The room that a column takes up, as it is estimated. -/
def columnRoom (table : StoredTable) (i : Nat) : Nat :=
  match table.columns[i]? with
  | some column => if column.affinity = .text then 5 else 1
  | none => 0

/-- The room that a row takes up, as it is estimated. -/
def rowRoom (table : StoredTable) : Nat :=
  let withoutColumns := if table.rowId.isNone then 1 else 0
  (List.range table.columns.length).foldl (fun room i => room + table.columnRoom i) withoutColumns

/-- Whether a column and the row id are all that is wanted, and take up less room than whole rows. -/
def covers (table : StoredTable) (access : Access) (i : Nat) : Bool :=
  decide (table.columnRoom i + 1 < table.rowRoom)
    && access.needed.all fun ref =>
      match table.slotOf? ref with
      | some (.column j) => i == j
      | _ => true

/-- The column of the first sort key, if the rows are known in its order. -/
def sortedColumn? (table : StoredTable) (access : Access) : Option Nat :=
  match access.order.head?.bind fun key => table.slotOf? key.ref with
  | some (.column i) => if table.indexed.contains i then some i else none
  | _ => none

/-- The column in whose order the rows are read, if it is not that of the ids. -/
def readColumn? (table : StoredTable) (access : Access) : Option Nat :=
  let loose (i : Nat) : Nat := table.loosenessOf access (.column i)
  let least := table.indexed.foldl (fun least i => min least (loose i)) (table.loosenessOf access .rowId)
  let closest := table.indexed.filter fun i => loose i == least
  let covering := closest.filter (table.covers access)
  if least = 0 then none
  else if least = 4 then
    (table.sortedColumn? access).or
      (covering.find? fun i => covering.all fun j => table.columnRoom i ≤ table.columnRoom j)
  else if covering.isEmpty && table.loosenessOf access .rowId == least then none
  else covering.head?.or closest.head?

/-- The rows in the order of a column. -/
def rowsBy (table : StoredTable) (i : Nat) : List StoredRow :=
  table.rows.mergeSort fun a b => Cell.order (a.cells[i]?.getD .null) (b.cells[i]?.getD .null) != .gt

/-- Whether the rows are to be sorted by a column from its greatest value on. -/
def isDescending (table : StoredTable) (access : Access) (i : Nat) : Bool :=
  match access.order.head? with
  | some key => key.direction == .descending && table.slotOf? key.ref == some (.column i)
  | none => false

/-- The rows in the order in which they are read. -/
def read (table : StoredTable) (access : Access) : List StoredRow :=
  match table.readColumn? access with
  | none => table.rows
  | some i => if table.isDescending access i then (table.rowsBy i).reverse else table.rowsBy i

end StoredTable

end ModelStore
