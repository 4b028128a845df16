import ModelStore.Schema.Ddl
import ModelStore.Sql.Reading
import ModelStore.Store.Cell
import ModelStore.Store.Error

/-!
# Stored tables

A stored table has columns and rows. Every row has a number, its row id, and the rows stand in the order of their
ids. An integer primary key is the row id itself; otherwise an id that is not given is one more than the greatest there
is, so rows stand in the order of their insertion. The row id goes by names of its own wherever no column has them.

An operation on several rows treats them one after another, each against the rows as they then are, and changes
nothing at all if one of them is refused.

## Main definitions

* `StoredTable`: columns, constraints and rows.
* `Slot`, `StoredTable.slot?`: what a name means in a table.
* `StoredTable.ofTable`: the empty table that a description asks for.
* `StoredTable.insert`, `StoredTable.update`, `StoredTable.delete`: the operations.
-/

namespace ModelStore

/-! ## Names -/

/-- Whether two names are the same up to the case of the letters a to z. -/
def sameName (a b : String) : Bool := a.toList.map Char.toLower == b.toList.map Char.toLower

/-! ## Tables -/

/-- The value of a column that an insert leaves out. -/
inductive StoredDefault where
  | value (cell : Cell)
  | time
  deriving DecidableEq, Repr, Inhabited

/-- The value of a default at a time. -/
def StoredDefault.cellAt (now : Int) : StoredDefault → Cell
  | .value cell => cell
  | .time => .text (toString now)

/-- A column of a stored table. -/
structure StoredColumn where
  name : String
  affinity : Affinity
  notNull : Bool
  initial : StoredDefault
  deriving DecidableEq, Repr, Inhabited

/-- A row: its id, and a cell for each column. -/
structure StoredRow where
  id : Int
  cells : List Cell
  deriving DecidableEq, Repr, Inhabited

/-- A stored table. The columns with distinct values are listed in the order in which they are checked. -/
structure StoredTable where
  name : String
  columns : List StoredColumn
  rowId : Option Nat
  distinct : List Nat
  rows : List StoredRow
  deriving DecidableEq, Repr, Inhabited

/-- The affinity of a column type. -/
def ColumnType.affinity : ColumnType → Affinity
  | .text => .text
  | .integer | .boolean | .timestamp => .integer
  | .real => .real

/-- The stored form of a default. -/
def DefaultRule.stored : DefaultRule → StoredDefault
  | .none | .uuid => .value .null
  | .unixEpoch => .time
  | .text s => .value (.text s)
  | .integer i => .value (.int i)
  | .boolean b => .value (.int (if b then 1 else 0))

/-- The stored form of a column. -/
def Column.stored (column : Column) : StoredColumn :=
  ⟨column.name, column.type.affinity, !column.nullable, column.initial.stored⟩

/-! ## Slots -/

/-- What a value of a row can be given to: the row id, or a column that is kept for itself. -/
inductive Slot where
  | rowId
  | column (place : Nat)
  deriving DecidableEq, Repr, Inhabited

/-- The names of the row id. The first one is shown. -/
def rowIdNames : List String := ["rowid", "oid", "_rowid_"]

/-- Whether a name is one of the row id. -/
def isRowIdName (name : String) : Bool := rowIdNames.any (sameName name)

namespace StoredTable

/-- The place of the column of a name. -/
def columnIndex? (table : StoredTable) (name : String) : Option Nat :=
  table.columns.findIdx? fun column => sameName column.name name

/-- The slot that a name means. A column comes before the row id, and an integer primary key is the row id. -/
def slot? (table : StoredTable) (name : String) : Option Slot :=
  match table.columnIndex? name with
  | some i => some (if table.rowId = some i then .rowId else .column i)
  | none => if isRowIdName name then some .rowId else none

/-! ## Creation -/

/-- The greatest number of columns. -/
def columnLimit : Nat := 2000

/-- Whether a text breaks off the statement in which it is quoted. -/
def breaksOff (text : String) : Bool := text.toList.contains '\x00'

/-- The first fault of some columns, given the names that stand before them, whether a primary key does, and what
becomes of a statement that breaks off. -/
def columnFault (table : String) (unread : Option StoreError) :
    (before : List String) → (keyed : Bool) → List Column → Option StoreError
  | _, _, [] => none
  | before, keyed, column :: rest =>
    if breaksOff column.name then unread
    else if columnLimit ≤ before.length then some (.tooManyColumns table)
    else if before.any (sameName column.name) then some (.duplicateColumn column.name)
    else if keyed && column.primaryKey then some (.secondPrimaryKey table)
    else if breaksOff (column.initial.sql.getD "") then unread
    else columnFault table unread (column.name :: before) (keyed || column.primaryKey) rest

/-- Whether the store keeps a table name to itself. -/
def isReserved (name : String) : Bool :=
  (name.toList.take 7).map Char.toLower == "sqlite_".toList

/-- The place of the integer primary key, if there is one. -/
def rowIdOf (columns : List Column) : Option Nat :=
  columns.findIdx? fun column => column.primaryKey && column.type.affinity == .integer

/-- The places of the columns with distinct values, the last one first. -/
def distinctOf (columns : List Column) : List Nat :=
  (((columns.zipIdx).filter fun (column, _) => column.primaryKey || column.unique).map (·.2)).reverse

/-- The empty table that a description asks for. -/
def ofTable {ι : Type} (table : Table ι) : Except StoreError StoredTable :=
  let unread := Sql.readingFault table.createSql
  match if breaksOff table.name then unread else nameFault with
  | some fault => .error fault
  | none =>
    match columnFault table.name unread [] false table.columns with
    | some fault => .error fault
    | none =>
      .ok
        { name := table.name
          columns := table.columns.map Column.stored
          rowId := rowIdOf table.columns
          distinct := distinctOf table.columns
          rows := [] }
where
  /-- The fault of a table that shows before its columns. -/
  nameFault : Option StoreError :=
    if isReserved table.name then some (.reservedName table.name)
    else if table.columns.isEmpty then some (.noColumns ⟨table.createSql, table.createHead.utf8ByteSize⟩)
    else none

/-! ## Constraints -/

/-- The first column, other than the row id, that is null and must not be. -/
def nullFault (table : StoredTable) (cells : List Cell) : Option StoreError :=
  let checked := (table.columns.zip cells).zipIdx
  (checked.find? fun ((column, cell), i) => column.notNull && cell.isNull && table.rowId != some i).map
    fun ((column, _), _) => .notNull table.name column.name

/-- Whether some row, other than that of the id given, has a cell in common with the cells given. -/
def taken (rows : List StoredRow) (except : Option Int) (cells : List Cell) (i : Nat) : Bool :=
  match cells[i]? with
  | none => false
  | some cell =>
    !cell.isNull && rows.any fun row =>
      some row.id != except && ((row.cells[i]?).map (Cell.same cell)).getD false

/-- The name of a column by its place. -/
def columnName (table : StoredTable) (i : Nat) : String := ((table.columns[i]?).map (·.name)).getD ""

/-- The name that the row id is shown by. -/
def rowIdName (table : StoredTable) : String :=
  match table.rowId with
  | some i => table.columnName i
  | none => rowIdNames.headD ""

/-- The first constraint that a row breaks which is to stand beside the rows of the table, or to replace the row of
an id: nulls, then the row id, then the columns with distinct values. -/
def fault (table : StoredTable) (replaced : Option Int) (row : StoredRow) : Option StoreError :=
  match table.nullFault row.cells with
  | some e => some e
  | none =>
    if table.rows.any fun other => some other.id != replaced && other.id == row.id then
      some (.unique table.name table.rowIdName)
    else
      (table.distinct.find? (taken table.rows replaced row.cells)).map fun i =>
        .unique table.name (table.columnName i)

/-- Puts a row in its place in the order of ids. -/
def place (row : StoredRow) : List StoredRow → List StoredRow
  | [] => [row]
  | other :: rest => if row.id < other.id then row :: other :: rest else other :: place row rest

/-! ## Insertion -/

/-- The id of the next row: one more than the greatest, or one for the first row. -/
def nextId (rows : List StoredRow) : Int :=
  match (rows.map (·.id)).max? with
  | none => 1
  | some greatest => greatest + 1

/-- Values for slots. -/
abbrev SlotValues := List (Slot × Cell)

/-- The row id that a value stands for. -/
def idOf (cell : Cell) : Except StoreError Int :=
  match Affinity.integer.store cell with
  | .int id => .ok id
  | _ => .error .typeMismatch

/-- The cells of a row of an id, of which an integer primary key shows the id. -/
def showId (table : StoredTable) (id : Int) (cells : List Cell) : StoredRow :=
  match table.rowId with
  | some i => ⟨id, cells.set i (.int id)⟩
  | none => ⟨id, cells⟩

/-- The cells of a new row: the values given, or else the defaults, as the columns keep them. -/
def newCells (table : StoredTable) (now : Int) (values : SlotValues) : List Cell :=
  table.columns.zipIdx.map fun (column, i) =>
    column.affinity.store ((values.lookup (.column i)).getD (column.initial.cellAt now))

/-- The id of a new row: the last one that is given, or else the next one. -/
def newId (table : StoredTable) (values : SlotValues) : Except StoreError Int :=
  match (values.reverse.lookup .rowId).getD .null with
  | .null => .ok (nextId table.rows)
  | cell => idOf cell

/-- Inserts a row with the values given for some of the slots. The first value for a column counts, and the last one
for the row id. -/
def insert (table : StoredTable) (now : Int) (values : SlotValues) :
    Except StoreError (StoredRow × StoredTable) := do
  let row := table.showId (← table.newId values) (table.newCells now values)
  match table.fault none row with
  | some e => throw e
  | none => return (row, { table with rows := place row table.rows })

/-! ## Change -/

/-- A row with some cells replaced. The first value for a slot counts. -/
def assign (table : StoredTable) (values : SlotValues) (row : StoredRow) : Except StoreError StoredRow := do
  let cells := row.cells.zipIdx.map fun (cell, i) =>
    match values.lookup (.column i), table.columns[i]? with
    | some value, some column => column.affinity.store value
    | _, _ => cell
  match values.lookup .rowId with
  | none => return ⟨row.id, cells⟩
  | some value => return table.showId (← idOf value) cells

/-- Replaces cells of one row. -/
def updateRow (values : SlotValues) (table : StoredTable) (row : StoredRow) :
    Except StoreError (StoredRow × StoredTable) := do
  let changed ← table.assign values row
  match table.fault (some row.id) changed with
  | some e => throw e
  | none =>
    return (changed, { table with rows := place changed (table.rows.filter (·.id != row.id)) })

/-- Replaces cells of some rows, one after another. -/
def updateRows (values : SlotValues) :
    List StoredRow → StoredTable → Except StoreError (List StoredRow × StoredTable)
  | [], table => .ok ([], table)
  | row :: rest, table => do
    let (changed, table) ← updateRow values table row
    let (others, table) ← updateRows values rest table
    return (changed :: others, table)

/-- Replaces cells of the rows that are chosen. -/
def update (table : StoredTable) (values : SlotValues) (chosen : List StoredRow) :
    Except StoreError (List StoredRow × StoredTable) :=
  updateRows values chosen table

/-- Removes the rows that are chosen. -/
def delete (table : StoredTable) (chosen : List StoredRow) : StoredTable :=
  { table with rows := table.rows.filter fun row => !(chosen.map (·.id)).contains row.id }

end StoredTable

/-! ## Stores -/

/-- A store: its tables, in the order of their creation. -/
abbrev Store := List StoredTable

namespace Store

/-- The table of a name. -/
def table? (store : Store) (name : String) : Option StoredTable :=
  store.find? fun table => sameName table.name name

/-- Replaces the table that bears the name of the table given. -/
def put (store : Store) (table : StoredTable) : Store :=
  store.map fun old => if sameName old.name table.name then table else old

/-- Creates a table, unless there is one of its name. -/
def create {ι : Type} (store : Store) (table : Table ι) : Except StoreError Store :=
  match store.table? table.name with
  | some _ =>
    match Sql.readingFault table.createSql with
    | some fault => .error fault
    | none => if table.columns.isEmpty then (fun _ => store) <$> StoredTable.ofTable table else .ok store
  | none => (fun created => store ++ [created]) <$> StoredTable.ofTable table

/-- Creates the tables of a schema that do not exist. -/
def bootstrap {ι : Type} (store : Store) (schema : Schema ι) : Except StoreError Store :=
  schema.keys.foldlM (fun acc key => Store.create acc (schema.table key)) store

end Store

end ModelStore
