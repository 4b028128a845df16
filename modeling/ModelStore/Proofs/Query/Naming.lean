import ModelStore.Proofs.Query.Levels

/-!
# The names in a plan

A plan shows the columns of a joined relation under the name of the relation, an underscore and
their own names.  Where no column and no relation of a table begins like that, regardless of case,
the names in a select list are all distinct, at every level.  The names in scope are distinct as
well, those of the table and of the relations that are joined, and so every reference of a plan
fits one column and no other: the store has nothing to refuse in it but its size.

## Main definitions

* `Table.WellNamed`, `Schema.WellNamed`: descriptions whose names keep apart.
* `Plan.WithinLimits`: plans that are not too large for the store.

## Main results

* `Query.PlannedAs.distinctNames`: the names in the select list of a plan are distinct.
* `Query.PlannedAs.refusalAt_eq_none`: every reference of a plan fits one column.
* `Query.PlannedAs.check_eq`: the store has nothing against a plan but its size.
-/

namespace ModelStore

open Sql (Expr ColumnRef)

variable {ι : Type}

/-! ## Well-named descriptions -/

/-- A table whose names keep apart from each other, whatever the case of their letters: those of
its columns, those of its relations, and those under which the columns of a relation are shown. -/
structure Table.WellNamed (table : Table ι) : Prop where
  columns_distinct : DistinctNames table.columnNames
  relations_distinct : DistinctNames (table.relations.map (·.name))
  relation_ne_table : ∀ relation ∈ table.relations, sameName relation.name table.name = false
  unprefixed : ∀ relation ∈ table.relations,
    ∀ name ∈ table.columnNames ++ table.relations.map (·.name),
      ¬foldedName (joinedName relation.name "") <+: foldedName name
  fields_exist : ∀ relation ∈ table.relations, (table.column? relation.localField).isSome = true

instance (table : Table ι) : Decidable table.WellNamed :=
  decidable_of_iff
    (DistinctNames table.columnNames ∧ DistinctNames (table.relations.map (·.name)) ∧
      (∀ relation ∈ table.relations, sameName relation.name table.name = false) ∧
      (∀ relation ∈ table.relations, ∀ name ∈ table.columnNames ++ table.relations.map (·.name),
        ¬foldedName (joinedName relation.name "") <+: foldedName name) ∧
      ∀ relation ∈ table.relations, (table.column? relation.localField).isSome = true)
    ⟨fun ⟨h₁, h₂, h₃, h₄, h₅⟩ => ⟨h₁, h₂, h₃, h₄, h₅⟩,
      fun h => ⟨h.1, h.2, h.3, h.4, h.5⟩⟩

/-- A schema all of whose tables are well named. -/
def Schema.WellNamed (schema : Schema ι) : Prop := ∀ key, (schema.table key).WellNamed

/-- The names of a well-named table keep apart regardless of case. -/
theorem Table.WellNamed.spelledApart {table : Table ι} (hNamed : table.WellNamed) :
    table.SpelledApart .folded :=
  ⟨hNamed.columns_distinct, hNamed.relations_distinct, hNamed.unprefixed⟩

/-! ## Names in a select list -/

/-- What holds of the items of the columns that are fetched, and of those of the joined plans, holds
of every item of the select list. -/
theorem forall_mem_selectItems {core : PlanCore} {joins : List (Link × Plan)}
    {p : SelectItem → Prop}
    (hOwn : ∀ column ∈ core.projection ++ core.hidden, p (SelectItem.own core.table column))
    (hJoined : ∀ join ∈ joins, ∀ column ∈ join.2.outputs,
      p ⟨⟨some join.1.name, column.name⟩, joinedName join.1.name column.name⟩) :
    ∀ item ∈ selectItems core joins, p item := by
  rw [List.forall_mem_append] at hOwn
  rw [selectItems, List.forall_mem_append, List.forall_mem_append, List.forall_mem_map,
    List.forall_mem_map]
  refine ⟨⟨hOwn.1, fun item hItem => ?_⟩, hOwn.2⟩
  obtain ⟨join, hJoin, hOutput⟩ := List.mem_flatMap.mp hItem
  obtain ⟨column, hColumn, rfl⟩ := List.mem_map.mp hOutput
  exact hJoined join hJoin column hColumn

/-- A column that a plan fetches stands in its select list. -/
theorem Plan.Fetches.mem_names {plan : Plan} {name : String} (hFetches : plan.Fetches name) :
    name ∈ (selectItems plan.core plan.joins).map (·.name) := by
  obtain ⟨column, hColumn, rfl⟩ := hFetches
  have hItem : ∀ {columns : List Column}, column ∈ columns →
      column.name ∈ (columns.map (SelectItem.own plan.core.table)).map (·.name) := by
    intro columns hMem
    rw [List.map_map]
    exact List.mem_map_of_mem (f := (·.name) ∘ SelectItem.own plan.core.table) hMem
  rw [selectItems, List.map_append, List.map_append, List.mem_append, List.mem_append]
  rcases List.mem_append.mp hColumn with h | h
  · exact .inl (.inl (hItem h))
  · exact .inr (hItem h)

section Naming

variable {schema : Schema ι} (hNamed : schema.WellNamed)

include hNamed

/-- The relations that are joined have distinct names, regardless of case, if none is asked for
twice. -/
theorem Query.AllPlannedAs.distinct_links {key : ι} {related : List (Relation ι × Query ι)}
    {joins : List (Link × Plan)} (hJoins : Query.AllPlannedAs schema key related joins)
    (hOnce : (related.map (·.1.name)).Nodup) : DistinctNames (joins.map (·.1.name)) := by
  rw [DistinctNames, List.map_map]
  exact hJoins.nodup_links (fun key => (hNamed key).spelledApart) hOnce

/-- **Distinct names**: the names in the select list of a plan are distinct, regardless of case. -/
theorem Query.PlannedAs.distinctNames {query : Query ι} {key : ι} {plan : Plan}
    (hPlanned : query.PlannedAs schema key plan) (hOnce : query.AsksOnce) :
    DistinctNames ((selectItems plan.core plan.joins).map (·.name)) := by
  rw [DistinctNames, List.map_map]
  exact hPlanned.nodup_spelled (fun key => (hNamed key).spelledApart) hOnce

end Naming

/-! ## References -/

/-- The conditions of a plan are on columns of its table, under its name. -/
theorem PlanCore.PlannedAs.ref_known {table : Table ι} {own : SearchOptions} {core : PlanCore}
    (hCore : core.PlannedAs table own) :
    ∀ e ∈ core.predicate,
      e.ref.qualifier = some table.name ∧ (table.column? e.ref.name).isSome = true := by
  have hPredicate := hCore.predicate_eq
  cases hFilter : own.filter with
  | none =>
      rw [hFilter] at hPredicate
      rw [← Except.ok.inj hPredicate]
      simp
  | some conditions =>
      rw [hFilter] at hPredicate
      exact Conditions.ref_of_compile hPredicate

/-- The sort keys of a plan are columns of its table, under its name. -/
theorem PlanCore.PlannedAs.sortKey_known {table : Table ι} {own : SearchOptions}
    {core : PlanCore} (hCore : core.PlannedAs table own) :
    ∀ key ∈ core.order,
      key.ref.qualifier = some table.name ∧ (table.column? key.ref.name).isSome = true := by
  rw [hCore.order_eq, List.forall_mem_map]
  exact fun entry hEntry => ⟨rfl, hCore.order_known entry hEntry⟩

section Resolving

variable {schema : Schema ι} (hNamed : schema.WellNamed) {store : Store}
  (hStore : store.Holds schema)

include hNamed in
/-- The names in the scope of a plan are distinct. -/
theorem Query.AllPlannedAs.distinct_scope {key : ι} {own : SearchOptions} {core : PlanCore}
    (hCore : core.PlannedAs (schema.table key) own) {related : List (Relation ι × Query ι)}
    {joins : List (Link × Plan)} (hJoins : Query.AllPlannedAs schema key related joins)
    (hOnce : (related.map (·.1.name)).Nodup) :
    DistinctNames (core.table :: joins.map (·.1.name)) := by
  refine List.nodup_cons.mpr ⟨?_, hJoins.distinct_links hNamed hOnce⟩
  rw [List.map_map, List.mem_map]
  rintro ⟨join, hJoin, hSame⟩
  obtain ⟨entry, -, hEntry⟩ := hJoins.exists_entry join hJoin
  rw [Function.comp_apply, hEntry.link_eq, Relation.link_name, hCore.table_eq] at hSame
  have hApart := (hNamed key).relation_ne_table entry.1 hEntry.relation_mem
  rw [sameName_iff.mpr hSame] at hApart
  cases hApart

/-- The names in the scope of a plan are distinct, as the store has them in scope. -/
theorem distinct_scopeOf {query : Query ι} {key : ι} {core : PlanCore}
    {joins : List (Link × Plan)} (hNamed : schema.WellNamed)
    (hPlanned : query.PlannedAs schema key (.node core joins)) (hOnce : query.AsksOnce) :
    DistinctNames ((scopeOf store core joins).map (·.name)) := by
  obtain ⟨own, related⟩ := query
  obtain ⟨hCore, hJoins⟩ := hPlanned
  have hNames := Query.AllPlannedAs.distinct_scope hNamed hCore hJoins hOnce.1
  simpa [scopeOf, Function.comp_def, Plan.core, Plan.joins] using hNames

section Level

variable {key : ι} {own : SearchOptions} {core : PlanCore}
  (hCore : core.PlannedAs (schema.table key) own) {related : List (Relation ι × Query ι)}
  {joins : List (Link × Plan)} (hJoins : Query.AllPlannedAs schema key related joins)

/-- A column that a joined plan fetches is in scope under the name of the plan. -/
theorem names_joined {join : Link × Plan} (hJoin : join ∈ joins) {name : String}
    (hName : name ∈ (selectItems join.2.core join.2.joins).map (·.name)) :
    (scopeOf store core joins).Names ⟨some join.1.name, name⟩ :=
  ⟨⟨join.1.name, (selectItems join.2.core join.2.joins).map (·.name), false⟩,
    List.mem_cons_of_mem _ (List.mem_map_of_mem hJoin), name, hName, rfl⟩

include hCore hStore

/-- A column of the table of a plan is in scope under the name of the table. -/
theorem names_own {name : String} (hKnown : ((schema.table key).column? name).isSome = true) :
    (scopeOf store core joins).Names ⟨some core.table, name⟩ := by
  obtain ⟨column, hColumn⟩ := Option.isSome_iff_exists.mp hKnown
  obtain ⟨hMem, rfl⟩ := Table.mem_of_column? hColumn
  obtain ⟨stored, hStored, hHolds⟩ := hStore key
  refine ⟨_, List.mem_cons_self, column.name, ?_, rfl⟩
  simp only [hCore.table_eq, hStored, hHolds.columns_eq, Option.map_some, Option.getD_some,
    List.map_map]
  exact List.mem_map.mpr ⟨column, hMem, rfl⟩

theorem names_ref {ref : ColumnRef} (hQualifier : ref.qualifier = some (schema.table key).name)
    (hKnown : ((schema.table key).column? ref.name).isSome = true) :
    (scopeOf store core joins).Names ref := by
  obtain ⟨qualifier, name⟩ := ref
  have hTable : qualifier = some core.table := hCore.table_eq ▸ hQualifier
  subst hTable
  exact names_own hStore hCore hKnown

/-- Every item of the select list is in scope. -/
theorem names_items :
    ∀ item ∈ selectItems core joins, (scopeOf store core joins).Names item.ref := by
  refine forall_mem_selectItems (fun column hColumn => ?_) fun join hJoin column hColumn => ?_
  · exact names_own hStore hCore (Table.column?_isSome (hCore.fetched_mem column hColumn))
  · refine names_joined hJoin ?_
    rw [names_selectItems, Plan.node_core_joins]
    exact List.mem_append_left _ (List.mem_map_of_mem hColumn)

include hNamed hJoins

/-- Both fields of every join are in scope. -/
theorem names_links :
    ∀ join ∈ joins, (scopeOf store core joins).Names (join.1.localRef core.table) ∧
      (scopeOf store core joins).Names join.1.referencedRef := by
  intro join hJoin
  obtain ⟨entry, -, hEntry⟩ := hJoins.exists_entry join hJoin
  have hLocal : (scopeOf store core joins).Names ⟨some core.table, entry.1.localField⟩ :=
    names_own hStore hCore ((hNamed key).fields_exist entry.1 hEntry.relation_mem)
  have hReferenced : (scopeOf store core joins).Names
      ⟨some join.1.name, entry.1.referencedField⟩ :=
    names_joined hJoin hEntry.fetches.mem_names
  rw [hEntry.link_eq] at hReferenced ⊢
  exact ⟨hLocal, hReferenced⟩

/-- **Names**: every reference of a plan names a table or joined relation in scope and a column
under it. -/
theorem names_references :
    ∀ ref ∈ references core joins, (scopeOf store core joins).Names ref := by
  rw [forall_mem_references_iff, List.forall_mem_map, List.forall_mem_map, List.forall_mem_map]
  refine ⟨⟨⟨names_items hStore hCore, names_links hNamed hStore hCore hJoins⟩, ?_⟩, ?_⟩
  · intro e he
    obtain ⟨hQualifier, hKnown⟩ := hCore.ref_known e he
    exact names_ref hStore hCore hQualifier hKnown
  · intro sortKey hSortKey
    obtain ⟨hQualifier, hKnown⟩ := hCore.sortKey_known sortKey hSortKey
    exact names_ref hStore hCore hQualifier hKnown

end Level

include hNamed hStore

/-- **References**: every reference of a plan, and of the plans that it joins, fits one column. -/
theorem Query.PlannedAs.refusalAt_eq_none {query : Query ι} {key : ι} {plan : Plan} {sql : String}
    {offset : Nat} (hPlanned : query.PlannedAs schema key plan) (hOnce : query.AsksOnce) :
    plan.refusalAt store sql offset = none := by
  rw [Plan.refusalAt_eq_none_iff]
  intro level hLevel ref hRef
  obtain ⟨target, ⟨own, related⟩, hLevelPlanned, hOtherOnce⟩ :=
    hPlanned.of_mem_nodes level hLevel
  have hNames := names_references hNamed hStore hLevelPlanned.1 hLevelPlanned.2 ref hRef
  exact hNames.resolves (distinct_scopeOf hNamed hLevelPlanned (hOtherOnce hOnce))

end Resolving

/-! ## The check -/

/-- A plan that is not too large for the store: in its parameters, in the height of its
conjunctions, in the columns that it shows and in the tables that it joins. -/
structure Plan.WithinLimits (plan : Plan) : Prop where
  params : plan.params.length ≤ Sql.placeholderLimit
  height : plan.isTooHigh = false
  columns : plan.showsTooMany = false
  joins : plan.joinsTooMany = false

instance (plan : Plan) : Decidable plan.WithinLimits :=
  decidable_of_iff
    (plan.params.length ≤ Sql.placeholderLimit ∧ plan.isTooHigh = false ∧
      plan.showsTooMany = false ∧ plan.joinsTooMany = false)
    ⟨fun ⟨h₁, h₂, h₃, h₄⟩ => ⟨h₁, h₂, h₃, h₄⟩, fun h => ⟨h.1, h.2, h.3, h.4⟩⟩

/-- **The check**: the store has nothing against a plan but its size. -/
theorem Query.PlannedAs.check_eq {schema : Schema ι} (hNamed : schema.WellNamed) {store : Store}
    (hStore : store.Holds schema) {query : Query ι} {key : ι} {plan : Plan}
    (hPlanned : query.PlannedAs schema key plan) (hOnce : query.AsksOnce) :
    plan.check store =
      if plan.showsTooMany then .error .tooManyResults
      else if plan.joinsTooMany then .error (.tooManyTables tableLimit) else .ok () := by
  have hTable : plan.core.table = (schema.table key).name := hPlanned.own_planned.table_eq
  obtain ⟨stored, hStored, -⟩ := hStore key
  rw [Plan.check, hTable, hStored]
  simp only [hPlanned.refusalAt_eq_none hNamed hStore hOnce]

end ModelStore
