import ModelStore.Query.Access
import ModelStore.Query.Scope

/-!
# Running plans

The rows of a plan: each row of its table that satisfies the conjunction, combined with the rows of every joined plan
whose referenced column equals the local one, or with one row of nulls where there are none; then sorted, cut to
the window, and reduced to the select list. The joined plans are run on their own, before the join.

## Main definitions

* `ResultSet`: rows under names.
* `Plan.eval`: the rows of a plan.
-/

namespace ModelStore

open Sql (Expr ColumnRef)

/-- A column of a result: its name and its affinity. -/
structure ResultColumn where
  name : String
  affinity : Affinity
  deriving DecidableEq, Repr, Inhabited

/-- Rows, with a cell for each column. -/
structure ResultSet where
  columns : List ResultColumn
  rows : List (List Cell)
  deriving Repr, Inhabited

/-- One row of a table or joined relation, under its name. A row of a table has an id. -/
structure Binding where
  name : String
  columns : List ResultColumn
  cells : List Cell
  rowId : Option Int
  deriving Repr, Inhabited

/-- The rows that are combined. -/
abbrev Bindings := List Binding

/-- The cell of a column in one row; of several columns with one name the first counts. -/
def Binding.cell? (name : String) (binding : Binding) : Option (Cell × Affinity) :=
  ((binding.columns.zip binding.cells).find? fun (column, _) => sameName column.name name).map
    fun (column, cell) => (cell, column.affinity)

/-- The cell of the row id of a table, if a name means it. -/
def Binding.id? (name : String) (binding : Binding) : Option (Cell × Affinity) :=
  if isRowIdName name then binding.rowId.map fun id => (.int id, .integer) else none

/-- The cell that a name means in some rows: that of a column, or else the row id. -/
def Bindings.cell? (name : String) (bindings : Bindings) : Option (Cell × Affinity) :=
  (bindings.findSome? (Binding.cell? name)).or (bindings.findSome? (Binding.id? name))

/-- The cell that a reference means in some rows. A reference without qualifier that means none is a text. -/
def Bindings.lookup (bindings : Bindings) (ref : ColumnRef) : Cell × Affinity :=
  match ref.qualifier with
  | some qualifier =>
    (Bindings.cell? ref.name (bindings.filter fun b => sameName b.name qualifier)).getD (.null, .none)
  | none => (Bindings.cell? ref.name bindings).getD (.text ref.name, .none)

/-! ## Joins -/

/-- Whether two cells agree; a null agrees with nothing. -/
def agree (left right : Cell × Affinity) : Bool :=
  if left.1.isNull || right.1.isNull then false
  else
    let (l, r) := Affinity.align left.2 right.2 left.1 right.1
    Cell.same l r

/-- The rows that a combination continues with: those that agree, or a row of nulls. -/
def matching (table : String) (link : Link) (joined : ResultSet) (bindings : Bindings) : List Bindings :=
  let bind (cells : List Cell) : Binding := ⟨link.name, joined.columns, cells, none⟩
  let extended := joined.rows.map fun cells => bindings ++ [bind cells]
  let found := extended.filter fun bs =>
    agree (Bindings.lookup bs (link.localRef table)) (Bindings.lookup bs link.referencedRef)
  if found.isEmpty then [bindings ++ [bind (joined.columns.map fun _ => .null)]] else found

/-- All continuations of a combination by the joined results, in order. -/
def combine (table : String) : List (Link × ResultSet) → Bindings → List Bindings
  | [], bindings => [bindings]
  | (link, joined) :: rest, bindings => (matching table link joined bindings).flatMap (combine table rest)

/-! ## Sorting -/

/-- The order of two combinations by some sort keys, the first of which decides. -/
def compareBy : List SortKey → Bindings → Bindings → Ordering
  | [], _, _ => .eq
  | key :: rest, a, b =>
    let o := Cell.order (Bindings.lookup a key.ref).1 (Bindings.lookup b key.ref).1
    match (match key.direction with | .ascending => o | .descending => o.swap) with
    | .eq => compareBy rest a b
    | decided => decided

/-- The combinations in the order of some sort keys; those that are equal in it keep their order. -/
def sortBy (keys : List SortKey) (rows : List Bindings) : List Bindings :=
  if keys.isEmpty then rows else rows.mergeSort fun a b => compareBy keys a b != .gt

/-- The rows that a window leaves. -/
def Window.apply {α : Type} (window : Window) (rows : List α) : List α :=
  let rows := rows.drop (window.offset.getD 0)
  match window.limit with
  | some limit => rows.take limit
  | none => rows

/-! ## Plans -/

/-- A row of a stored table, under the name of the table. -/
def StoredTable.bind (table : StoredTable) (name : String) (row : StoredRow) : Binding :=
  ⟨name, table.columns.map fun column => ⟨column.name, column.affinity⟩, row.cells, some row.id⟩

/-- The affinity of what a reference means among the columns given; a name that means none of them is that of a row
id. -/
def affinityOf (columns : List (String × List ResultColumn)) (ref : ColumnRef) : Affinity :=
  let candidates := columns.filter fun (name, _) => sameName name (ref.qualifier.getD "")
  ((candidates.findSome? fun (_, cs) => cs.find? fun c => sameName c.name ref.name).map (·.affinity)).getD .integer

/-- What a plan wants of its table. -/
def accessOf (core : PlanCore) (items : List SelectItem) (links : List Link) : Access :=
  { terms := core.predicate
    needed := items.map (·.ref) ++ core.predicate.map Expr.ref ++ core.order.map (·.ref)
      ++ links.map fun link => link.localRef core.table
    order := core.order }

/-- What a plan does with the rows of its table and the results of its joined plans. -/
def runCore (table : StoredTable) (core : PlanCore) (items : List SelectItem)
    (joined : List (Link × ResultSet)) : ResultSet :=
  let driving := (table.read (accessOf core items (joined.map (·.1)))).filterMap fun row =>
    let bindings := [table.bind core.table row]
    if Sql.allHold (Bindings.lookup bindings) core.predicate then some bindings else none
  let combined := driving.flatMap (combine core.table joined)
  let kept := core.window.apply (sortBy core.order combined)
  let sources :=
    (core.table, table.columns.map fun column => ResultColumn.mk column.name column.affinity)
      :: joined.map fun (link, result) => (link.name, result.columns)
  { columns := items.map fun item => ⟨item.name, affinityOf sources item.ref⟩
    rows := kept.map fun bindings => items.map fun item => (Bindings.lookup bindings item.ref).1 }

mutual

/-- The rows of a plan. -/
def Plan.eval (store : Store) : Plan → ResultSet
  | .node core joins =>
    runCore ((store.table? core.table).getD default) core (selectItems core joins) (Plan.evalJoins store joins)

/-- The rows of joined plans. -/
def Plan.evalJoins (store : Store) : List (Link × Plan) → List (Link × ResultSet)
  | [] => []
  | (link, plan) :: rest => (link, Plan.eval store plan) :: Plan.evalJoins store rest

end

end ModelStore
