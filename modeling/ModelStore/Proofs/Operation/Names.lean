import ModelStore.Proofs.Operation.Compiling
import ModelStore.Proofs.Operation.Failure
import ModelStore.Proofs.Query.Statements

/-!
# The names in what is sent

A name that a caller gives is looked up before it is written into a statement: a column of a
condition, of a payload or of an order among the columns of the table, a relation among its
relations.  What is then written is a name of the schema.

## Main definitions

* `Schema.Names`: the names that a schema gives to tables, columns and relations.

## Main results

* `namesHave_of_prepare`, `Session.namesHave_of_compile`: the statements of an operation and of a
  call use names of the schema only.
-/

namespace ModelStore

open Sql (Expr)

variable {ι : Type}

/-- The names of a schema, and those that columns get under its relations. -/
inductive Schema.Names (schema : Schema ι) : String → Prop where
  | table (key : ι) : schema.Names (schema.table key).name
  | column {key : ι} {column : Column} (hMem : column ∈ (schema.table key).columns) :
      schema.Names column.name
  | relation {key : ι} {relation : Relation ι} (hMem : relation ∈ (schema.table key).relations) :
      schema.Names relation.name
  | localField {key : ι} {relation : Relation ι} (hMem : relation ∈ (schema.table key).relations) :
      schema.Names relation.localField
  | joined {key : ι} {relation : Relation ι} (hMem : relation ∈ (schema.table key).relations)
      {name : String} (hName : schema.Names name) :
      schema.Names (joinedName relation.name name)

/-- The names of a schema are its names. -/
theorem Schema.namesHave_names (schema : Schema ι) : schema.NamesHave schema.Names where
  table := .table
  column _ _ := .column
  relation _ _ := .relation
  localField _ _ := .localField
  joined _ _ hMem _ := .joined hMem

section Names

variable {schema : Schema ι} {property : String → Prop} (hNames : schema.NamesHave property)
  {key : ι}

include hNames

/-! ## Conditions and payloads -/

/-- A conjunction uses names of the table. -/
theorem Schema.NamesHave.uses_of_compileFilter {filter : Option Conditions} {terms : List Expr}
    (hTerms : compileFilter (schema.table key) none filter = .ok terms) :
    ∀ e ∈ terms, ∀ piece ∈ e.ref.pieces, piece.Uses property := by
  cases filter with
  | none =>
      cases hTerms
      simp
  | some conditions =>
      intro e he
      obtain ⟨hQualifier, hKnown⟩ := Conditions.ref_of_compile hTerms e he
      exact hNames.uses_column (by simp [hQualifier]) hKnown

/-- The values of a payload are for columns of the table. -/
theorem Schema.NamesHave.have_of_compile {data : Payload} :
    ∀ {values : Assignments}, Payload.compile (schema.table key) data = .ok values →
      ∀ entry ∈ values, property entry.1.name := by
  induction data with
  | nil =>
      intro values hValues
      cases hValues
      simp
  | cons entry data ih =>
      intro values hValues
      obtain ⟨name, value⟩ := entry
      rw [Payload.compile] at hValues
      split at hValues
      · cases hValues
      · rename_i column hColumn
        obtain ⟨cell, -, hRest⟩ := bind_eq_ok.mp hValues
        obtain ⟨others, hOthers, hPure⟩ := bind_eq_ok.mp hRest
        rw [← pure_eq_ok.mp hPure, List.forall_mem_cons]
        exact ⟨hNames.column key column (Table.mem_of_column? hColumn).1, ih hOthers⟩

/-! ## Statements -/

/-- The columns that a change or a removal returns are those of the table. -/
theorem Schema.NamesHave.have_returned (asked : Bool) :
    ∀ column ∈ ((schema.table key).returned asked).getD [], property column.name := by
  cases asked with
  | false => simp [Table.returned]
  | true => exact hNames.column key

section Statements

variable {filter : Option Conditions} {data : Payload} {statement : Statement}

theorem namesHave_of_insertion {ids : Nat → String}
    (hInsertion : (schema.table key).insertion ids data = .ok statement) :
    statement.NamesHave property := by
  obtain ⟨values, hValues, hPure⟩ := bind_eq_ok.mp hInsertion
  rw [← pure_eq_ok.mp hPure]
  refine ⟨hNames.table key, List.forall_mem_append.mpr ⟨hNames.have_of_compile hValues, ?_⟩,
    hNames.column key⟩
  rw [List.forall_mem_map]
  rintro ⟨column, k⟩ hColumn
  have hIdentified : column ∈ (schema.table key).identified data :=
    List.fst_mem_of_mem_zipIdx hColumn
  exact hNames.column key column (List.mem_filter.mp hIdentified).1

theorem namesHave_of_change {asked : Bool}
    (hChange : (schema.table key).change filter data asked = .ok statement) :
    statement.NamesHave property := by
  rw [Table.change] at hChange
  split at hChange
  · cases hChange
  · obtain ⟨values, hValues, hRest⟩ := bind_eq_ok.mp hChange
    obtain ⟨predicate, hPredicate, hPure⟩ := bind_eq_ok.mp hRest
    rw [← pure_eq_ok.mp hPure]
    exact ⟨hNames.table key, hNames.have_of_compile hValues,
      hNames.uses_of_compileFilter hPredicate, hNames.have_returned asked⟩

theorem namesHave_of_removal {asked : Bool}
    (hRemoval : (schema.table key).removal filter asked = .ok statement) :
    statement.NamesHave property := by
  obtain ⟨predicate, hPredicate, hPure⟩ := bind_eq_ok.mp hRemoval
  rw [← pure_eq_ok.mp hPure]
  exact ⟨hNames.table key, hNames.uses_of_compileFilter hPredicate, hNames.have_returned asked⟩

theorem namesHave_of_counting (hCounting : (schema.table key).counting filter = .ok statement) :
    statement.NamesHave property := by
  obtain ⟨predicate, hPredicate, hPure⟩ := bind_eq_ok.mp hCounting
  rw [← pure_eq_ok.mp hPure]
  exact ⟨hNames.table key, hNames.uses_of_compileFilter hPredicate⟩

theorem namesHave_of_lookup (hLookup : (schema.table key).lookup filter = .ok statement) :
    statement.NamesHave property := by
  obtain ⟨predicate, hPredicate, hPure⟩ := bind_eq_ok.mp hLookup
  rw [← pure_eq_ok.mp hPure]
  exact ⟨hNames.table key, hNames.column key, hNames.uses_of_compileFilter hPredicate⟩

end Statements

/-! ## Operations -/

/-- A plan that was built uses names of the schema, also in another window. -/
theorem namesHave_of_build {options : FindOptions} {plan : Plan}
    (hBuilt : Yields (Plan.build schema key options) plan) :
    (Statement.find plan).NamesHave property ∧
      ∀ window, (Statement.find (plan.withWindow window)).NamesHave property := by
  have hPlanned := planned_of_buildPlan options.includes hBuilt
  exact ⟨hPlanned.uses_pieces hNames, fun window => (hPlanned.withWindow window).uses_pieces hNames⟩

theorem namesHave_of_prepareUpsert {ids : Nat → String} {options : UpsertOptions} {work : Work}
    (hPrepared : Operation.prepareUpsert (schema.table key) ids options = .ok work) :
    ∀ statement ∈ work.statements, statement.NamesHave property := by
  obtain ⟨conditions, lookup, change, insertion, rfl, hLookup, hChange, hInsertion⟩ :=
    Operation.prepareUpsert_eq_ok hPrepared
  rw [Work.statements, List.forall_mem_cons, List.forall_mem_append, List.forall_mem_singleton]
  refine ⟨namesHave_of_lookup hNames hLookup, fun statement hMem => ?_,
    namesHave_of_insertion hNames hInsertion⟩
  exact namesHave_of_change hNames (hChange statement (Option.mem_toList.mp hMem))

/-- **The names in what is sent**: the statements of an operation use names of the schema only. -/
theorem namesHave_of_prepare {policy : BulkPolicy} {ids : Nat → String} {operation : Operation}
    {work : Work} (hPrepared : Yields (operation.prepare schema key policy ids) work) :
    ∀ statement ∈ work.statements, statement.NamesHave property := by
  have hSingle : ∀ {statement : Statement}, statement.NamesHave property →
      ∀ other ∈ [statement], other.NamesHave property :=
    fun hStatement => List.forall_mem_singleton.mpr hStatement
  cases operation with
  | findFirst options =>
      obtain ⟨plan, hPlan, hPure⟩ := hPrepared.of_bind
      rw [← hPure.of_pure]
      exact hSingle ((namesHave_of_build hNames hPlan).2 _)
  | findMany options =>
      obtain ⟨plan, hPlan, hPure⟩ := hPrepared.of_bind
      rw [← hPure.of_pure]
      exact hSingle (namesHave_of_build hNames hPlan).1
  | create options =>
      obtain ⟨statement, hStatement, hPure⟩ := hPrepared.of_bind
      rw [← hPure.of_pure]
      exact hSingle (namesHave_of_insertion hNames hStatement.of_liftExcept)
  | update options | updateAll options =>
      obtain ⟨statement, hStatement, hPure⟩ := hPrepared.of_bind
      rw [← hPure.of_pure]
      exact hSingle (namesHave_of_change hNames hStatement.of_liftExcept)
  | delete options | deleteAll =>
      obtain ⟨statement, hStatement, hPure⟩ := hPrepared.of_bind
      rw [← hPure.of_pure]
      exact hSingle (namesHave_of_removal hNames hStatement.of_liftExcept)
  | updateMany options =>
      obtain ⟨statement, hStatement, hRest⟩ := hPrepared.of_bind
      obtain ⟨-, -, hPure⟩ := hRest.of_bind
      rw [← hPure.of_pure]
      exact hSingle (namesHave_of_change hNames hStatement.of_liftExcept)
  | deleteMany options =>
      obtain ⟨statement, hStatement, hRest⟩ := hPrepared.of_bind
      obtain ⟨-, -, hPure⟩ := hRest.of_bind
      rw [← hPure.of_pure]
      exact hSingle (namesHave_of_removal hNames hStatement.of_liftExcept)
  | count options =>
      obtain ⟨statement, hStatement, hPure⟩ := hPrepared.of_bind
      rw [← hPure.of_pure]
      exact hSingle (namesHave_of_counting hNames hStatement.of_liftExcept)
  | upsert options => exact namesHave_of_prepareUpsert hNames hPrepared.of_liftExcept

/-- The statements that a call is compiled to use names of the schema only. -/
theorem Session.namesHave_of_compile {world : World} {method : Method} {args : Json}
    {session : Session} {work : Work}
    (hCompile : session.compile schema world key method args = .ok work) :
    ∀ statement ∈ work.statements, statement.NamesHave property := by
  rw [compile] at hCompile
  split at hCompile
  · cases hCompile
  · rename_i operation hArgs
    exact namesHave_of_prepare hNames ⟨[], _, Prod.ext hCompile rfl⟩

end Names

end ModelStore
