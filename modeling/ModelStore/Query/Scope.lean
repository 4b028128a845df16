import ModelStore.Query.Printer
import ModelStore.Store.Table

/-!
# Names in statements

The store looks up every column that a plan mentions before it runs the plan. A reference names a table or a joined
relation, and has to fit exactly one column of those in scope. Subqueries are looked into first, then the select
list, the conjunction, the conditions of the joins and the sort keys. A refusal names the place of the reference in
the statement, except for the conditions of joins.

A reference without qualifier that fits no column is no refusal: it is a text, spelled like a name.

## Main definitions

* `Scope`, `Scope.matches`: the columns in scope.
* `Plan.check`: the first refusal of a plan.
-/

namespace ModelStore

open Sql (Expr ColumnRef)

/-- A table or joined relation in scope: its name, those of its columns, and whether its rows have ids. -/
structure ScopeItem where
  name : String
  columns : List String
  hasRowIds : Bool
  deriving Repr, Inhabited

/-- What is in scope. -/
abbrev Scope := List ScopeItem

/-- Whether a reference may be to an item. -/
def ScopeItem.isNamedBy (ref : ColumnRef) (item : ScopeItem) : Bool :=
  match ref.qualifier with
  | some qualifier => sameName item.name qualifier
  | none => true

/-- Whether a reference fits a column of an item. -/
def ScopeItem.fits (ref : ColumnRef) (item : ScopeItem) : Bool :=
  item.isNamedBy ref && item.columns.any (sameName ref.name)

/-- Whether a reference fits the row ids of an item. -/
def ScopeItem.fitsRowId (ref : ColumnRef) (item : ScopeItem) : Bool :=
  item.isNamedBy ref && item.hasRowIds && isRowIdName ref.name

/-- How a reference is cited. -/
def ColumnRef.cited (ref : ColumnRef) : String :=
  match ref.qualifier with
  | some qualifier => qualifier ++ "." ++ ref.name
  | none => ref.name

/-- The refusal of a reference, if it does not fit exactly one item. It is to a row id only where it fits no column. -/
def Scope.refusal (scope : Scope) (ref : ColumnRef) (site : Option Site) : Option StoreError :=
  match (scope.filter (ScopeItem.fits ref)).length with
  | 0 => if scope.any (ScopeItem.fitsRowId ref) then none else some (.noSuchColumn (ColumnRef.cited ref) site)
  | 1 => none
  | _ => some (.ambiguousColumn (ColumnRef.cited ref) site)

/-- The first refusal among some references that stand in a text one after another: each with the text that it
begins, and the number of bytes between that text and the next. -/
def Scope.firstRefusal (scope : Scope) (sql : String) (gap : Nat) :
    (offset : Nat) → List (ColumnRef × String) → Option StoreError
  | _, [] => none
  | offset, (ref, text) :: rest =>
    match scope.refusal ref (some ⟨sql, offset⟩) with
    | some e => some e
    | none => scope.firstRefusal sql gap (offset + text.utf8ByteSize + gap) rest

/-- What a plan has in scope. -/
def scopeOf (store : Store) (core : PlanCore) (joins : List (Link × Plan)) : Scope :=
  let own := ((store.table? core.table).map fun table => table.columns.map (·.name)).getD []
  ⟨core.table, own, true⟩ :: joins.map fun (link, plan) =>
    ⟨link.name, (selectItems plan.core plan.joins).map (·.name), false⟩

/-- The refusal of a condition of a join. -/
def Scope.joinRefusal (scope : Scope) (table : String) (link : Link) : Option StoreError :=
  (scope.refusal (link.localRef table) none).or (scope.refusal link.referencedRef none)

mutual

/-- The first refusal of a plan whose text begins at an offset of a statement. -/
def Plan.refusalAt (store : Store) (sql : String) (offset : Nat) : Plan → Option StoreError
  | .node core joins =>
    let scope := scopeOf store core joins
    let items := selectItems core joins
    let head := selectHead core joins
    let tailAt := offset + head.utf8ByteSize + (Plan.joinsSql core.table joins).utf8ByteSize
    let orderAt := tailAt + (Sql.whereClause core.predicate).utf8ByteSize
    (Plan.joinsRefusalAt store sql core.table (offset + head.utf8ByteSize) joins)
      |>.or (scope.firstRefusal sql 2 (offset + "SELECT ".utf8ByteSize)
              (items.map fun item => (item.ref, item.sql)))
      |>.or (scope.firstRefusal sql " AND ".utf8ByteSize (tailAt + " WHERE ".utf8ByteSize)
              (core.predicate.map fun term => (term.ref, term.sql)))
      |>.or (joins.findSome? fun (link, _) => scope.joinRefusal core.table link)
      |>.or (scope.firstRefusal sql 2 (orderAt + " ORDER BY ".utf8ByteSize)
              (core.order.map fun key => (key.ref, key.sql)))

/-- The first refusal of the subqueries of joins whose text begins at an offset of a statement. -/
def Plan.joinsRefusalAt (store : Store) (sql table : String) (offset : Nat) :
    List (Link × Plan) → Option StoreError
  | [] => none
  | (link, plan) :: rest =>
    let start := offset + joinHead.utf8ByteSize
    let next := start + plan.sql.utf8ByteSize + (joinTail table link).utf8ByteSize
    (Plan.refusalAt store sql start plan).or (Plan.joinsRefusalAt store sql table next rest)

end

/-! ## Limits -/

/-- The greatest number of tables in a join. -/
def tableLimit : Nat := 64

mutual

/-- A plan and all that it joins, each with its joins. -/
def Plan.nodes : Plan → List (PlanCore × List (Link × Plan))
  | .node core joins => (core, joins) :: Plan.nodesOfJoins joins

/-- Joined plans and all that they join. -/
def Plan.nodesOfJoins : List (Link × Plan) → List (PlanCore × List (Link × Plan))
  | [] => []
  | (_, plan) :: rest => Plan.nodes plan ++ Plan.nodesOfJoins rest

end

/-- Whether a conjunction of a plan is too high. -/
def Plan.isTooHigh (plan : Plan) : Bool :=
  plan.nodes.any fun (core, _) => decide (Sql.heightLimit < Sql.conjunctionHeight core.predicate)

/-- Whether a plan shows more columns than there may be. -/
def Plan.showsTooMany (plan : Plan) : Bool :=
  plan.nodes.any fun (core, joins) => decide (StoredTable.columnLimit < (selectItems core joins).length)

/-- Whether a plan joins more tables than there may be. -/
def Plan.joinsTooMany (plan : Plan) : Bool := plan.nodes.any fun (_, joins) => decide (tableLimit ≤ joins.length)

/-! ## The check -/

/-- The first refusal of a plan. -/
def Plan.check (store : Store) (plan : Plan) : Except StoreError Unit :=
  match store.table? plan.core.table with
  | none => .error (.noSuchTable plan.core.table)
  | some _ =>
    if plan.showsTooMany then .error .tooManyResults
    else
      match plan.refusalAt store plan.sql 0 with
      | some e => .error e
      | none => if plan.joinsTooMany then .error (.tooManyTables tableLimit) else .ok ()

end ModelStore
