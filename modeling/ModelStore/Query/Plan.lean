import ModelStore.Query.Predicate

/-!
# Plans of searches

A plan is what a search on a table of a schema means: the columns to show, the conjunction to satisfy, the sort keys,
the window, and for every relation that is asked for the plan of the related table, joined under the name of the
relation. A joined plan fetches its referenced column even if it does not show it.

Building a plan reports the relations that do not exist, in the order in which they are met, also when it fails
later. A table cannot be joined inside its own chain of includes.

## Main definitions

* `Plan`: plans.
* `Plan.outputs`: the columns that a plan shows.
* `Plan.build`: the plan of a search.
-/

namespace ModelStore

open Sql (Expr ColumnRef)

/-! ## Plans -/

/-- How many rows to return, and how many to leave out before. -/
structure Window where
  limit : Option Nat
  offset : Option Nat
  deriving DecidableEq, Repr, Inhabited

/-- A sort key. -/
structure SortKey where
  ref : ColumnRef
  direction : Direction
  deriving DecidableEq, Repr, Inhabited

/-- What a plan does on its own table. -/
structure PlanCore where
  table : String
  projection : List Column
  hidden : List Column
  predicate : List Expr
  order : List SortKey
  window : Window
  deriving Repr, Inhabited

/-- How a plan is joined: under which name, and which fields have to agree. -/
structure Link where
  name : String
  localField : String
  referencedField : String
  deriving DecidableEq, Repr, Inhabited

/-- A plan. -/
inductive Plan where
  | node (core : PlanCore) (joins : List (Link × Plan))
  deriving Repr, Inhabited

namespace Plan

/-- What the plan does on its own table. -/
def core : Plan → PlanCore
  | node core _ => core

/-- The plans that are joined. -/
def joins : Plan → List (Link × Plan)
  | node _ joins => joins

/-- The plan with another window. -/
def withWindow (window : Window) : Plan → Plan
  | node core joins => node { core with window := window } joins

end Plan

/-! ## Outputs -/

/-- A column of an answer: its name, and the type of the column that it comes from. -/
structure OutputColumn where
  name : String
  type : ColumnType
  deriving DecidableEq, Repr, Inhabited

/-- The output of a column. -/
def OutputColumn.of (column : Column) : OutputColumn := ⟨column.name, column.type⟩

/-- The name of a column of a joined plan. -/
def joinedName (relation name : String) : String := relation ++ "_" ++ name

mutual

/-- The columns that a plan shows, those of its own table first. -/
def Plan.outputs : Plan → List OutputColumn
  | .node core joins => core.projection.map OutputColumn.of ++ Plan.outputsOfJoins joins

/-- The columns that joined plans show. -/
def Plan.outputsOfJoins : List (Link × Plan) → List OutputColumn
  | [] => []
  | (link, plan) :: rest =>
    (Plan.outputs plan).map (fun column => ⟨joinedName link.name column.name, column.type⟩)
      ++ Plan.outputsOfJoins rest

end

/-! ## The parts of a plan -/

/-- The columns that a selection shows: those flagged, in the order of the table, or all if none is left. -/
def compileSelect {ι : Type} (table : Table ι) (selection : Option (Fields Bool)) : List Column :=
  let chosen := table.columns.filter fun column => ((selection.getD []).get? column.name).getD false
  if chosen.isEmpty then table.columns else chosen

/-- The sort keys of a search. -/
def compileOrderBy {ι : Type} (table : Table ι) :
    List (String × Direction) → Except Error (List SortKey)
  | [] => .ok []
  | (column, direction) :: rest =>
    match table.column? column with
    | none => .error (.unknownColumn table.name column)
    | some _ => do
      return ⟨⟨some table.name, column⟩, direction⟩ :: (← compileOrderBy table rest)

/-- What a search does on its own table. -/
def PlanCore.build {ι : Type} (table : Table ι) (own : SearchOptions) : Except Error PlanCore := do
  let predicate ← compileFilter table (some table.name) own.filter
  let order ← compileOrderBy table (own.orderBy.getD [])
  return {
    table := table.name
    projection := compileSelect table own.select
    hidden := []
    predicate := predicate
    order := order
    window := ⟨own.take, own.skip⟩ }

/-- The plan, with a column of its table fetched that it may not show. -/
def Plan.expose {ι : Type} (table : Table ι) (name : String) : Plan → Except Error Plan
  | .node core joins =>
    if (core.projection ++ core.hidden).any (·.name == name) then .ok (.node core joins)
    else
      match table.column? name with
      | some column => .ok (.node { core with hidden := core.hidden ++ [column] } joins)
      | none => .error (.unknownColumn table.name name)

/-! ## Building -/

/-- A step that may fail and reports diagnostics either way. -/
abbrev Reporting (α : Type) := ExceptT Error (StateM (List Event)) α

/-- Reports a diagnostic. -/
def report (event : Event) : Reporting Unit := modify (· ++ [event])

/-- A step that only may fail. -/
def liftExcept {α : Type} : Except Error α → Reporting α
  | .ok value => return value
  | .error e => throw e

section Build

variable {ι : Type} (schema : Schema ι)

/-- Joins the plan of a relation, made by `sub` from the key of its target and the longer chain. -/
def joinRelation (chain : List String) (key : ι) (name : String) (sub : ι → List String → Reporting Plan) :
    Reporting (List (Link × Plan)) := do
  match (schema.table key).relation? name with
  | none =>
    report (.unknownRelation (schema.table key).name name)
    return []
  | some relation =>
    let target := schema.table relation.target
    let deeper := chain ++ [target.name]
    if chain.contains target.name then throw (.includeCycle deeper)
    else
      let plan ← sub relation.target deeper
      let plan ← liftExcept (plan.expose target relation.referencedField)
      return [(⟨relation.name, relation.localField, relation.referencedField⟩, plan)]

/-- The plan of a search without includes. -/
def buildCore (key : ι) (own : SearchOptions) : Reporting PlanCore :=
  liftExcept (PlanCore.build (schema.table key) own)

mutual

/-- The plan of a search on the table of a key, which is the last of the chain of tables. -/
def buildPlan (chain : List String) (key : ι) (own : SearchOptions) :
    Option (List (String × Include)) → Reporting Plan
  | none => do return .node (← buildCore schema key own) []
  | some includes => do
    let core ← buildCore schema key own
    return .node core (← buildJoins chain key includes)

/-- The joined plans of the relations that are asked for. -/
def buildJoins (chain : List String) (key : ι) : List (String × Include) → Reporting (List (Link × Plan))
  | [] => return []
  | (name, ask) :: rest => do
    let join ← buildJoin chain key name ask
    return join ++ (← buildJoins chain key rest)

/-- The joined plan of one relation, if it is asked for and exists. -/
def buildJoin (chain : List String) (key : ι) (name : String) : Include → Reporting (List (Link × Plan))
  | .flag false => return []
  | .flag true =>
    joinRelation schema chain key name fun target _ => do
      return .node (← buildCore schema target .empty) []
  | .nested own includes =>
    joinRelation schema chain key name fun target deeper => buildPlan deeper target own includes

end

/-- The plan of a search on the table of a key. -/
def Plan.build (key : ι) (options : FindOptions) : Reporting Plan :=
  buildPlan schema [(schema.table key).name] key options.own options.includes

end Build

end ModelStore
