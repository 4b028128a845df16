import ModelStore.Proofs.Query.Naming
import ModelStore.Query.Eval

/-!
# Where the columns of a plan come from

Every reference of a plan is to one column of one table or joined relation in scope.  Followed from
level to level, an item of a select list fetches a column of a described table.  The columns that a
plan shows are the leading items of its select list, each under the name of its item and with the
type of the column that it fetches; the hidden columns are the items that remain.  Since the rows of
a plan have one cell for each item, every output is read from its own cell.

## Main definitions

* `Scope.candidates`: the columns in scope that a reference may be to.
* `Fetched`: which column of a described table an item of a select list fetches.
* `InStep`: levels whose parts are in step.

## Main results

* `Query.PlannedAs.candidates_references`: every reference of a plan has one candidate.
* `Query.PlannedAs.outputs_standFor`: the outputs of a plan are the leading items of its select
  list.
* `exists_bindings_of_mem_rows`: a row has one cell for each item.
* `Query.PlannedAs.inStep`: every level of a plan is in step.
-/

namespace ModelStore

open Sql (Expr ColumnRef)

variable {ι : Type} {schema : Schema ι}

/-! ## Candidates -/

/-- The columns in scope that a reference may be to, each with the table or joined relation that it
is a column of. -/
def Scope.candidates (scope : Scope) (ref : ColumnRef) : List (String × String) :=
  (scope.filter (ScopeItem.isNamedBy ref)).flatMap fun item =>
    (item.columns.filter (sameName ref.name)).map fun name => (item.name, name)

/-- Where the names in scope are distinct, and the names of the columns under each of them, a
reference that names one of them and a column under it may be to no other column. -/
theorem Scope.Names.exists_candidate {scope : Scope} {ref : ColumnRef} (hNames : scope.Names ref)
    (hDistinct : DistinctNames (scope.map (·.name)))
    (hColumns : ∀ item ∈ scope, DistinctNames item.columns) :
    ∃ item ∈ scope, ∃ name ∈ item.columns, ref = ⟨some item.name, name⟩ ∧
      scope.candidates ref = [(item.name, name)] := by
  obtain ⟨item, hItem, name, hName, rfl⟩ := hNames
  refine ⟨item, hItem, name, hName, rfl, ?_⟩
  have hNamed : ScopeItem.isNamedBy ⟨some item.name, name⟩ item = true := sameName_self item.name
  have hItems : scope.filter (ScopeItem.isNamedBy ⟨some item.name, name⟩) = [item] :=
    hDistinct.filter_eq hItem hNamed fun other _ hOther => hOther
  have hOwn : DistinctNames (item.columns.map id) := by
    rw [List.map_id]
    exact hColumns item hItem
  have hOne : item.columns.filter (sameName name) = [name] := by
    refine hOwn.filter_eq (f := id) hName (sameName_self name) fun other _ hOther => ?_
    exact sameName_iff.mpr (sameName_iff.mp hOther).symm
  rw [candidates, hItems, List.flatMap_singleton, hOne, List.map_singleton]

section Resolving

variable (hNamed : schema.WellNamed) {store : Store} (hStore : store.Holds schema)
  {query : Query ι} {key : ι} {core : PlanCore} {joins : List (Link × Plan)}
  (hPlanned : query.PlannedAs schema key (.node core joins)) (hOnce : query.AsksOnce)

include hNamed hStore hPlanned hOnce

/-- The columns under each name in scope have distinct names. -/
theorem distinct_columns_scopeOf :
    ∀ item ∈ scopeOf store core joins, DistinctNames item.columns := by
  obtain ⟨own, related⟩ := query
  obtain ⟨hCore, hJoins⟩ := hPlanned
  simp only [Plan.core, Plan.joins] at hCore hJoins
  rw [Query.AsksOnce, Query.allAskOnce_iff] at hOnce
  obtain ⟨stored, hStored, hHolds⟩ := hStore key
  rw [scopeOf, List.forall_mem_cons, List.forall_mem_map]
  constructor
  · have hNames := hHolds.distinctNames
    simpa [hCore.table_eq, hStored, hHolds.columns_eq, Function.comp_def, Table.columnNames,
      Column.stored] using hNames
  · intro join hJoin
    obtain ⟨entry, hMem, hEntry⟩ := hJoins.exists_entry join hJoin
    exact hEntry.planned.distinctNames hNamed (hOnce.2 entry hMem)

/-- **Candidates**: every reference of a plan is to one column of one table or joined relation in
scope, which it names. -/
theorem Query.PlannedAs.candidates_references :
    ∀ ref ∈ references core joins, ∃ item ∈ scopeOf store core joins, ∃ name ∈ item.columns,
      ref = ⟨some item.name, name⟩ ∧
        (scopeOf store core joins).candidates ref = [(item.name, name)] := by
  intro ref hRef
  have hDistinct : DistinctNames ((scopeOf store core joins).map (·.name)) :=
    distinct_scopeOf hNamed hPlanned hOnce
  have hColumns := distinct_columns_scopeOf hNamed hStore hPlanned hOnce
  obtain ⟨own, related⟩ := query
  have hNames := names_references hNamed hStore hPlanned.1 hPlanned.2 ref hRef
  exact hNames.exists_candidate hDistinct hColumns

end Resolving

/-! ## Columns of described tables -/

/-- Which column of a described table an item of the select list of a plan fetches: a column of the
table of the plan, or what an item of a joined plan fetches. -/
inductive Fetched (schema : Schema ι) :
    ι → PlanCore → List (Link × Plan) → SelectItem → Column → Prop where
  | own {key : ι} {core : PlanCore} {joins : List (Link × Plan)} {column : Column}
      (hTable : core.table = (schema.table key).name)
      (hColumn : column ∈ (schema.table key).columns) :
      Fetched schema key core joins (.own core.table column) column
  | joined {key : ι} {core : PlanCore} {joins : List (Link × Plan)} {relation : Relation ι}
      {inner : Plan} {item : SelectItem} {column : Column}
      (hRelation : relation ∈ (schema.table key).relations)
      (hJoin : (relation.link, inner) ∈ joins) (hItem : item ∈ selectItems inner.core inner.joins)
      (hFetched : Fetched schema relation.target inner.core inner.joins item column) :
      Fetched schema key core joins
        ⟨⟨some relation.name, item.name⟩, joinedName relation.name item.name⟩ column

/-- Whether an output stands for an item of the select list of a plan: it has the name of the item
and the type of the column that the item fetches. -/
def OutputColumn.StandsFor (schema : Schema ι) (key : ι) (core : PlanCore)
    (joins : List (Link × Plan)) (output : OutputColumn) (item : SelectItem) : Prop :=
  output.name = item.name ∧
    ∃ column, Fetched schema key core joins item column ∧ output.type = column.type

/-- The items of the columns that a plan shows. -/
def leadingItems (core : PlanCore) (joins : List (Link × Plan)) : List SelectItem :=
  core.projection.map (SelectItem.own core.table) ++ joins.flatMap SelectItem.joined

theorem selectItems_eq (core : PlanCore) (joins : List (Link × Plan)) :
    selectItems core joins =
      leadingItems core joins ++ core.hidden.map (SelectItem.own core.table) := rfl

/-- **Outputs**: the outputs of a plan stand for the leading items of its select list. -/
theorem Query.PlannedAs.outputs_standFor {query : Query ι} :
    ∀ {key : ι} {plan : Plan}, query.PlannedAs schema key plan →
      List.Forall₂ (OutputColumn.StandsFor schema key plan.core plan.joins) plan.outputs
        (leadingItems plan.core plan.joins) := by
  induction query using Query.induction with
  | node own related ih =>
      intro key plan hPlanned
      obtain ⟨core, joins⟩ := plan
      obtain ⟨hCore, hJoins⟩ := hPlanned
      simp only [Plan.core, Plan.joins] at hCore hJoins ⊢
      have hOwn : List.Forall₂ (OutputColumn.StandsFor schema key core joins)
          (core.projection.map OutputColumn.of)
          (core.projection.map (SelectItem.own core.table)) := by
        rw [List.forall₂_map_left_iff, List.forall₂_map_right_iff, List.forall₂_same]
        intro column hColumn
        have hMem : column ∈ (schema.table key).columns :=
          hCore.fetched_mem column (List.mem_append_left _ hColumn)
        exact ⟨rfl, column, .own hCore.table_eq hMem, rfl⟩
      have hEach : ∀ join ∈ joins, List.Forall₂ (OutputColumn.StandsFor schema key core joins)
          (join.2.outputs.map fun column => ⟨joinedName join.1.name column.name, column.type⟩)
          (SelectItem.joined join) := by
        intro join hJoin
        obtain ⟨entry, hMem, hEntry⟩ := hJoins.exists_entry join hJoin
        have hInner := ih entry hMem hEntry.planned
        rw [SelectItem.joined, List.forall₂_map_left_iff, List.forall₂_map_right_iff,
          List.forall₂_same]
        intro output hOutput
        obtain ⟨item, hItem, hName, column, hFetched, hType⟩ :=
          StoredTable.exists_left_of_forall₂ hInner.flip hOutput
        refine ⟨rfl, column, ?_, hType⟩
        have hItem' : item ∈ selectItems join.2.core join.2.joins := by
          rw [selectItems_eq]
          exact List.mem_append_left _ hItem
        have hJoin' : (entry.1.link, join.2) ∈ joins := hEntry.link_eq ▸ hJoin
        rw [hName, hEntry.link_eq]
        exact .joined hEntry.relation_mem hJoin' hItem' hFetched
      have hSelf : List.Forall₂ (fun a b => a = b ∧ a ∈ joins) joins joins :=
        List.forall₂_same.mpr fun join hJoin => ⟨rfl, hJoin⟩
      have hJoined := List.rel_flatMap hSelf fun join other hSame => by
        obtain ⟨rfl, hJoin⟩ := hSame
        exact hEach join hJoin
      rw [Plan.outputs, Plan.outputsOfJoins_eq, leadingItems]
      exact List.rel_append hOwn hJoined

/-! ## Positions -/

/-- Every row of a plan has one cell for each item of the select list: what the reference of the
item means in the rows that are combined. -/
theorem exists_bindings_of_mem_rows {store : Store} {plan : Plan} :
    ∀ cells ∈ (plan.eval store).rows, ∃ bindings, cells =
      (selectItems plan.core plan.joins).map fun item => (Bindings.lookup bindings item.ref).1 := by
  intro cells hCells
  obtain ⟨core, joins⟩ := plan
  rw [Plan.eval, runCore] at hCells
  obtain ⟨bindings, -, hCell⟩ := List.mem_map.mp hCells
  exact ⟨bindings, hCell.symm⟩

/-- A row has at least as many cells as there are outputs. -/
theorem length_outputs_le {store : Store} {plan : Plan} :
    ∀ cells ∈ (plan.eval store).rows, plan.outputs.length ≤ cells.length := by
  intro cells hCells
  obtain ⟨bindings, rfl⟩ := exists_bindings_of_mem_rows cells hCells
  rw [List.length_map, length_selectItems, Plan.node_core_joins]
  exact Nat.le_add_right _ _

/-! ## Levels in step -/

/-- A level of a plan whose parts are in step.  Each of its references is to one column in scope,
and it names that column.  A joined plan has its referenced field in its select list.  The outputs
stand for the leading items of the select list, and the remaining items are the hidden columns. -/
structure InStep (schema : Schema ι) (store : Store) (key : ι) (core : PlanCore)
    (joins : List (Link × Plan)) : Prop where
  table_eq : core.table = (schema.table key).name
  candidates : ∀ ref ∈ references core joins,
    ∃ item ∈ scopeOf store core joins, ∃ name ∈ item.columns,
      ref = ⟨some item.name, name⟩ ∧
        (scopeOf store core joins).candidates ref = [(item.name, name)]
  exposed : ∀ join ∈ joins,
    join.1.referencedField ∈ (selectItems join.2.core join.2.joins).map (·.name)
  outputs : List.Forall₂ (OutputColumn.StandsFor schema key core joins)
    (Plan.node core joins).outputs (leadingItems core joins)
  hidden : selectItems core joins =
    leadingItems core joins ++ core.hidden.map (SelectItem.own core.table)

/-- **Levels in step**: in a store whose tables were created from well-named descriptions, every
level of a plan is in step. -/
theorem Query.PlannedAs.inStep (hNamed : schema.WellNamed) {store : Store}
    (hStore : store.Holds schema) {query : Query ι} {key : ι} {plan : Plan}
    (hPlanned : query.PlannedAs schema key plan) (hOnce : query.AsksOnce) :
    ∀ level ∈ plan.nodes, ∃ target, InStep schema store target level.1 level.2 := by
  intro level hLevel
  obtain ⟨target, other, hLevelPlanned, hOtherOnce⟩ := hPlanned.of_mem_nodes level hLevel
  refine ⟨target, ?_⟩
  exact
    { table_eq := hLevelPlanned.own_planned.table_eq
      candidates := hLevelPlanned.candidates_references hNamed hStore (hOtherOnce hOnce)
      exposed := by
        intro join hJoin
        obtain ⟨own, related⟩ := other
        obtain ⟨entry, -, hEntry⟩ := hLevelPlanned.2.exists_entry join hJoin
        rw [hEntry.link_eq]
        exact hEntry.fetches.mem_names
      outputs := hLevelPlanned.outputs_standFor
      hidden := selectItems_eq level.1 level.2 }

end ModelStore
