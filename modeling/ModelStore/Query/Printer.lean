import ModelStore.Query.Plan

/-!
# Plans in SQL

A plan is one statement: the joined plans are subqueries under the names of their relations. Its parameters stand in
the order of the placeholders, those of the subqueries before those of the own conjunction.

## Main definitions

* `Plan.sql`, `Plan.params`: text and parameters.
-/

namespace ModelStore

open Sql (ColumnRef quoteName)

/-! ## Parts -/

/-- The window of a statement; an offset alone takes an unlimited limit. -/
def Window.sql (window : Window) : String :=
  match window.limit, window.offset with
  | some limit, some offset => " LIMIT " ++ toString limit ++ " OFFSET " ++ toString offset
  | some limit, none => " LIMIT " ++ toString limit
  | none, some offset => " LIMIT -1 OFFSET " ++ toString offset
  | none, none => ""

/-- A sort key in a statement. -/
def SortKey.sql (key : SortKey) : String := key.ref.sql ++ " " ++ key.direction.sql

/-- The clause of the sort keys, nothing if there are none. -/
def orderClause (keys : List SortKey) : String :=
  if keys.isEmpty then "" else " ORDER BY " ++ String.intercalate ", " (keys.map SortKey.sql)

/-- An item of a select list: what is fetched, and the name it gets. -/
structure SelectItem where
  ref : ColumnRef
  name : String
  deriving DecidableEq, Repr, Inhabited

/-- An item in a statement. -/
def SelectItem.sql (item : SelectItem) : String := item.ref.sql ++ " AS " ++ quoteName item.name

/-- The item of a column of the own table. -/
def SelectItem.own (table : String) (column : Column) : SelectItem := ⟨⟨some table, column.name⟩, column.name⟩

/-- The items of the columns that a joined plan shows. -/
def SelectItem.joined (join : Link × Plan) : List SelectItem :=
  join.2.outputs.map fun column =>
    ⟨⟨some join.1.name, column.name⟩, joinedName join.1.name column.name⟩

/-- The select list: the columns shown, those of the joined plans, and the hidden ones. -/
def selectItems (core : PlanCore) (joins : List (Link × Plan)) : List SelectItem :=
  core.projection.map (SelectItem.own core.table)
    ++ joins.flatMap SelectItem.joined
    ++ core.hidden.map (SelectItem.own core.table)

/-- What stands before the joins. -/
def selectHead (core : PlanCore) (joins : List (Link × Plan)) : String :=
  "SELECT " ++ String.intercalate ", " ((selectItems core joins).map SelectItem.sql)
    ++ " FROM " ++ quoteName core.table

/-- What stands before a subquery. -/
def joinHead : String := " LEFT JOIN ("

/-- The local side of a join. -/
def Link.localRef (link : Link) (table : String) : ColumnRef := ⟨some table, link.localField⟩

/-- The joined side of a join. -/
def Link.referencedRef (link : Link) : ColumnRef := ⟨some link.name, link.referencedField⟩

/-- What stands behind a subquery. -/
def joinTail (table : String) (link : Link) : String :=
  ") AS " ++ quoteName link.name ++ " ON " ++ (link.localRef table).sql ++ " = " ++ link.referencedRef.sql

/-- What stands behind the joins. -/
def selectTail (core : PlanCore) : String :=
  Sql.whereClause core.predicate ++ orderClause core.order ++ core.window.sql

/-! ## Plans -/

mutual

/-- The statement of a plan. -/
def Plan.sql : Plan → String
  | .node core joins => selectHead core joins ++ Plan.joinsSql core.table joins ++ selectTail core

/-- The joins of a statement. -/
def Plan.joinsSql (table : String) : List (Link × Plan) → String
  | [] => ""
  | (link, plan) :: rest =>
    joinHead ++ Plan.sql plan ++ joinTail table link ++ Plan.joinsSql table rest

end

mutual

/-- The parameters of the statement of a plan. -/
def Plan.params : Plan → List Cell
  | .node core joins => Plan.joinsParams joins ++ Sql.conjunctionParams core.predicate

/-- The parameters of joined plans. -/
def Plan.joinsParams : List (Link × Plan) → List Cell
  | [] => []
  | (_, plan) :: rest => Plan.params plan ++ Plan.joinsParams rest

end

end ModelStore
