import ModelStore.Proofs.Query.Naming

/-!
# The first thing that is wrong with a search

A search can be wrong in several places at once, and only one of them is told.  All of them can be
listed in the order in which the caller wrote them, going down into each include before the next:
for every table first its unknown columns, then the operands that are no cells, then the unknown
columns that it is sorted by, then its includes, and after each include its referenced field.  A
relation that leads back into the chain of tables is wrong by itself, and nothing below it counts.

Building a plan tells the first fault of this list, and succeeds just if the list is empty.

## Main definitions

* `FailsFirst`, `Reporting.FailsFirst`: steps that fail with the first of some faults.
* `Conditions.faults`, `SearchOptions.faults`: what is wrong on one table, in order.
* `searchFaults`, `includesFaults`, `FindOptions.faults`: what is wrong with a search, in order.

## Main results

* `first_compileFilter`: conditions fail with their first fault.
* `first_build`: searches fail with their first fault.
-/

namespace ModelStore

open Sql (ColumnRef Comparison)

/-! ## Steps that fail with the first fault -/

/-- A result is there just if there is no fault; else the first one is told.  It is not the
store's. -/
def FailsFirst {α : Type} (faults : List Error) : Except Error α → Prop
  | .ok _ => faults = []
  | .error e => faults.head? = some e ∧ e.kind ≠ .storage

/-- A step that reports fails with the first fault, whatever was reported before. -/
def Reporting.FailsFirst {α : Type} (faults : List Error) (step : Reporting α) : Prop :=
  ∀ before, ModelStore.FailsFirst faults (step.run.run before).1

section FailsFirst

variable {α β : Type} {faults others : List Error} {result : Except Error α} {step : Reporting α}

theorem first_ok (a : α) : FailsFirst [] (.ok a) := rfl

theorem first_error {e : Error} (hKind : e.kind ≠ .storage) :
    FailsFirst [e] (.error e : Except Error α) := ⟨rfl, hKind⟩

theorem FailsFirst.congr (hFirst : FailsFirst faults result) (hSame : faults = others) :
    FailsFirst others result := hSame ▸ hFirst

/-- The faults of steps one after another are those of the one and then those of the other. -/
theorem FailsFirst.bind {next : α → Except Error β} (hFirst : FailsFirst faults result)
    (hNext : ∀ a, result = .ok a → FailsFirst others (next a)) :
    FailsFirst (faults ++ others) (result >>= next) := by
  cases result with
  | error e =>
      refine ⟨?_, hFirst.2⟩
      rw [List.head?_append, hFirst.1, Option.some_or]
  | ok a =>
      have hNone : faults = [] := hFirst
      rw [hNone, List.nil_append]
      exact hNext a rfl

/-- A last step that cannot fail. -/
theorem FailsFirst.bind_pure (hFirst : FailsFirst faults result) (make : α → β) :
    FailsFirst faults (do return make (← result)) :=
  (hFirst.bind fun a _ => first_ok (make a)).congr (List.append_nil faults)

namespace Reporting

theorem FailsFirst.congr (hFirst : Reporting.FailsFirst faults step) (hSame : faults = others) :
    Reporting.FailsFirst others step := hSame ▸ hFirst

theorem first_pure (a : α) : Reporting.FailsFirst [] (pure a) := fun _ => first_ok a

theorem first_throw {e : Error} (hKind : e.kind ≠ .storage) :
    Reporting.FailsFirst [e] (throw e : Reporting α) := fun _ => first_error hKind

theorem first_report (event : Event) : Reporting.FailsFirst [] (report event) :=
  fun _ => first_ok ()

theorem first_liftExcept (hFirst : ModelStore.FailsFirst faults result) :
    Reporting.FailsFirst faults (liftExcept result) := by
  intro before
  cases result <;> exact hFirst

/-- The faults of steps one after another are those of the one and then those of the other. -/
theorem FailsFirst.bind {next : α → Reporting β} (hFirst : Reporting.FailsFirst faults step)
    (hNext : ∀ a, Yields step a → Reporting.FailsFirst others (next a)) :
    Reporting.FailsFirst (faults ++ others) (step >>= next) := by
  intro before
  have hBefore := hFirst before
  rw [run_bind]
  rcases hRun : step.run.run before with ⟨e | a, between⟩
  · rw [hRun] at hBefore
    refine ⟨?_, hBefore.2⟩
    rw [List.head?_append, hBefore.1, Option.some_or]
  · rw [hRun] at hBefore
    have hNone : faults = [] := hBefore
    rw [hNone, List.nil_append]
    exact hNext a ⟨before, between, hRun⟩ between

/-- A last step that cannot fail. -/
theorem FailsFirst.bind_pure (hFirst : Reporting.FailsFirst faults step) (make : α → β) :
    Reporting.FailsFirst faults (do return make (← step)) :=
  (hFirst.bind fun a _ => first_pure (make a)).congr (List.append_nil faults)

/-- A step that fails with the first of some faults succeeds just if there is none. -/
theorem FailsFirst.exists_ok_iff (hFirst : Reporting.FailsFirst faults step)
    (before : List Event) :
    (∃ a after, step.run.run before = (.ok a, after)) ↔ faults = [] := by
  have hBefore := hFirst before
  rcases hRun : step.run.run before with ⟨e | a, after⟩
  · rw [hRun] at hBefore
    refine iff_of_false (fun hOk => ?_) (List.ne_nil_of_mem (List.mem_of_head? hBefore.1))
    obtain ⟨a, after, hSame⟩ := hOk
    cases hSame
  · rw [hRun] at hBefore
    exact iff_of_true ⟨a, after, rfl⟩ hBefore

end Reporting

end FailsFirst

/-! ## Operands -/

/-- The operands of some operators, those in a list among them. -/
def Operators.operands (ops : Operators) : List Json :=
  ops.eq.toList ++ ops.ne.toList ++ ops.gt.toList ++ ops.gte.toList ++ ops.lt.toList ++
    ops.lte.toList ++ ops.among.getD []

/-- The operands of a condition. -/
def Condition.operands : Condition → List Json
  | .equals value => [value]
  | .operators ops => ops.operands

/-- Lists and objects among the values for a column, none of which is a cell. -/
def compoundFaults (column : String) (values : List Json) : List Error :=
  (values.filter (·.isCompound)).map fun _ => .refused (.compoundValue column)

theorem compoundFaults_append (column : String) (values others : List Json) :
    compoundFaults column (values ++ others) =
      compoundFaults column values ++ compoundFaults column others := by
  rw [compoundFaults, List.filter_append, List.map_append]
  rfl

/-- A list or an object is no cell, and everything else is one. -/
theorem first_cell (column : String) (value : Json) :
    FailsFirst (compoundFaults column [value]) (Cell.ofJson column value) := by
  have hKind : (Error.refused (.compoundValue column)).kind ≠ .storage := ErrorKind.noConfusion
  cases value with
  | list items => exact ⟨rfl, hKind⟩
  | object fields => exact ⟨rfl, hKind⟩
  | _ => rfl

theorem first_cells (column : String) (values : List Json) :
    FailsFirst (compoundFaults column values) (Cell.ofJsons column values) := by
  induction values with
  | nil => exact first_ok []
  | cons value values ih =>
      rw [Cell.ofJsons, List.mapM_cons]
      refine ((first_cell column value).bind fun cell _ => ih.bind_pure (cell :: ·)).congr ?_
      exact (compoundFaults_append column [value] values).symm

section Terms

variable (ref : ColumnRef)

theorem first_order (op : Comparison) (value : Json) :
    FailsFirst (compoundFaults ref.name [value]) (compileOrder ref op value) :=
  (first_cell ref.name value).bind_pure _

/-- A null is no list and no object. -/
theorem isCompound_of_isNull {value : Json} (hNull : value.isNull = true) :
    value.isCompound = false := by
  cases value with
  | null => rfl
  | _ => cases hNull

/-- A comparison with a value, nulls being asked for in another way. -/
theorem first_unless_null (op : Comparison) (absent : Sql.Expr) (value : Json) :
    FailsFirst (compoundFaults ref.name [value])
      (if value.isNull then .ok absent else compileOrder ref op value) := by
  split
  · rename_i hNull
    exact (first_ok absent).congr (by simp [compoundFaults, isCompound_of_isNull hNull])
  · exact first_order ref op value

theorem first_eq (value : Json) :
    FailsFirst (compoundFaults ref.name [value]) (compileEq ref value) :=
  first_unless_null ref .eq (.nullTest (.column ref) true) value

theorem first_ne (value : Json) :
    FailsFirst (compoundFaults ref.name [value]) (compileNe ref value) :=
  first_unless_null ref .ne (.nullTest (.column ref) false) value

theorem first_among (values : List Json) :
    FailsFirst (compoundFaults ref.name values) (compileAmong ref values) :=
  (first_cells ref.name values).bind_pure _

/-- An operator that may be absent. -/
theorem first_if {compile : Json → Except Error Sql.Expr}
    (hCompile : ∀ value, FailsFirst (compoundFaults ref.name [value]) (compile value))
    (operand : Option Json) :
    FailsFirst (compoundFaults ref.name operand.toList) (compileIf operand compile) := by
  cases operand with
  | none => exact first_ok []
  | some value => exact (hCompile value).bind_pure _

theorem first_ifAmong (values : Option (List Json)) :
    FailsFirst (compoundFaults ref.name (values.getD []))
      (compileIf values (compileAmong ref)) := by
  cases values with
  | none => exact first_ok []
  | some values => exact (first_among ref values).bind_pure _

/-- Operators are compiled in their own order. -/
theorem first_operators (ops : Operators) :
    FailsFirst (compoundFaults ref.name ops.operands) (ops.compile ref) := by
  refine FailsFirst.congr
    ((first_if ref (first_eq ref) ops.eq).bind fun _ _ =>
    (first_if ref (first_ne ref) ops.ne).bind fun _ _ =>
    (first_if ref (first_order ref .gt) ops.gt).bind fun _ _ =>
    (first_if ref (first_order ref .gte) ops.gte).bind fun _ _ =>
    (first_if ref (first_order ref .lt) ops.lt).bind fun _ _ =>
    (first_if ref (first_order ref .lte) ops.lte).bind fun _ _ =>
    (first_ifAmong ref ops.among).bind_pure _) ?_
  simp only [Operators.operands, compoundFaults_append, List.append_assoc]

theorem first_condition (condition : Condition) :
    FailsFirst (compoundFaults ref.name condition.operands) (condition.compile ref) := by
  cases condition with
  | equals value => exact (first_eq ref value).bind_pure _
  | operators ops => exact first_operators ref ops

end Terms

/-! ## Conditions and sort keys -/

section Tables

variable {ι : Type} (table : Table ι)

/-- What is wrong with the names of some columns, in order. -/
def Table.unknownFaults (names : List String) : List Error :=
  (names.filter fun name => (table.column? name).isNone).map fun name =>
    .unknownColumn table.name name

/-- What is wrong with conditions: all unknown columns come before all operands. -/
def Conditions.faults (conditions : Conditions) : List Error :=
  table.unknownFaults (conditions.map (·.1)) ++
    conditions.flatMap fun entry => compoundFaults entry.1 entry.2.operands

/-- What is wrong with a search on its own table: its conditions, then its sort keys. -/
def SearchOptions.faults (own : SearchOptions) : List Error :=
  (own.filter.elim [] fun conditions => conditions.faults table) ++
    table.unknownFaults ((own.orderBy.getD []).map (·.1))

theorem first_compileKnown (qualifier : Option String) (conditions : Conditions) :
    FailsFirst (conditions.flatMap fun entry => compoundFaults entry.1 entry.2.operands)
      (Conditions.compileKnown qualifier conditions) := by
  induction conditions with
  | nil => exact first_ok []
  | cons entry conditions ih =>
      obtain ⟨column, condition⟩ := entry
      exact (first_condition ⟨qualifier, column⟩ condition).bind fun terms _ =>
        ih.bind_pure (terms ++ ·)

theorem first_conditions (qualifier : Option String) (conditions : Conditions) :
    FailsFirst (conditions.faults table) (conditions.compile table qualifier) := by
  have hUnknown : (table.unknownFaults (conditions.map (·.1))).head? =
      (conditions.unknownColumn? table).map fun name => .unknownColumn table.name name := by
    rw [Table.unknownFaults, List.head?_map, List.head?_filter, List.find?_map, Option.map_map,
      Conditions.unknownColumn?, Option.map_map]
    rfl
  rw [Conditions.compile, Conditions.faults]
  cases hColumn : conditions.unknownColumn? table with
  | some column =>
      rw [hColumn] at hUnknown
      refine ⟨?_, ErrorKind.noConfusion⟩
      rw [List.head?_append, hUnknown]
      rfl
  | none =>
      rw [hColumn, Option.map_none, List.head?_eq_none_iff] at hUnknown
      rw [hUnknown, List.nil_append]
      exact first_compileKnown qualifier conditions

/-- **Conditions** fail with their first fault. -/
theorem first_compileFilter (qualifier : Option String) (filter : Option Conditions) :
    FailsFirst (filter.elim [] fun conditions => conditions.faults table)
      (compileFilter table qualifier filter) := by
  cases filter with
  | none => exact first_ok []
  | some conditions => exact first_conditions table qualifier conditions

theorem first_orderBy (orderBy : List (String × Direction)) :
    FailsFirst (table.unknownFaults (orderBy.map (·.1))) (compileOrderBy table orderBy) := by
  induction orderBy with
  | nil => exact first_ok []
  | cons entry orderBy ih =>
      obtain ⟨name, direction⟩ := entry
      rw [compileOrderBy, Table.unknownFaults, List.map_cons]
      cases hColumn : table.column? name with
      | none =>
          rw [List.filter_cons_of_pos (by simp [hColumn])]
          exact ⟨rfl, ErrorKind.noConfusion⟩
      | some column =>
          rw [List.filter_cons_of_neg (by simp [hColumn])]
          exact ih.bind_pure _

theorem PlanCore.first_build (own : SearchOptions) :
    FailsFirst (own.faults table) (PlanCore.build table own) :=
  (first_compileFilter table _ own.filter).bind fun _ _ =>
    (first_orderBy table (own.orderBy.getD [])).bind_pure _

/-- The columns that a plan fetches are columns of a table. -/
def Plan.FetchesFrom (plan : Plan) : Prop :=
  ∀ column ∈ plan.core.projection ++ plan.core.hidden, column ∈ table.columns

variable {table}

/-- A field that a plan does not fetch has to be there. -/
theorem first_expose {plan : Plan} (hFetches : plan.FetchesFrom table) (name : String) :
    FailsFirst (table.unknownFaults [name]) (plan.expose table name) := by
  obtain ⟨core, joins⟩ := plan
  rw [Plan.expose]
  split
  · rename_i hAny
    obtain ⟨column, hColumn, hName⟩ := List.any_eq_true.mp hAny
    have hKnown := Table.column?_isSome (hFetches column hColumn)
    rw [eq_of_beq hName] at hKnown
    exact (first_ok _).congr (by simp [Table.unknownFaults, Option.isSome_iff_ne_none.mp hKnown])
  · cases hColumn : table.column? name with
    | none => exact ⟨by simp [Table.unknownFaults, hColumn], ErrorKind.noConfusion⟩
    | some column => exact (first_ok _).congr (by simp [Table.unknownFaults, hColumn])

end Tables

/-! ## Searches -/

section Searches

variable {ι : Type} (schema : Schema ι)

/-- What is wrong with joining a relation, given what is wrong with its plan: a relation that leads
back into the chain is wrong by itself. -/
def joinFaults (chain : List String) (key : ι) (name : String)
    (sub : ι → List String → List Error) : List Error :=
  match (schema.table key).relation? name with
  | none => []
  | some relation =>
    let target := schema.table relation.target
    let deeper := chain ++ [target.name]
    if target.name ∈ chain then [.includeCycle deeper]
    else sub relation.target deeper ++ target.unknownFaults [relation.referencedField]

mutual

/-- What is wrong with a search on the table of a key, which is the last of the chain: what is wrong
on its own table, then what is wrong with its includes. -/
def searchFaults (chain : List String) (key : ι) (own : SearchOptions) :
    Option (List (String × Include)) → List Error
  | none => own.faults (schema.table key)
  | some includes => own.faults (schema.table key) ++ includesFaults chain key includes

/-- What is wrong with the includes of a table, one by one. -/
def includesFaults (chain : List String) (key : ι) : List (String × Include) → List Error
  | [] => []
  | (name, ask) :: rest => includeFaults chain key name ask ++ includesFaults chain key rest

/-- What is wrong with one include. -/
def includeFaults (chain : List String) (key : ι) (name : String) : Include → List Error
  | .flag false => []
  | .flag true => joinFaults schema chain key name fun _ _ => []
  | .nested own includes =>
    joinFaults schema chain key name fun target deeper => searchFaults deeper target own includes

end

/-- What is wrong with a search on the table of a key. -/
def FindOptions.faults (key : ι) (options : FindOptions) : List Error :=
  searchFaults schema [(schema.table key).name] key options.own options.includes

variable {schema}

theorem searchFaults_eq {chain : List String} {key : ι} {own : SearchOptions}
    {includes : Option (List (String × Include))} :
    searchFaults schema chain key own includes =
      own.faults (schema.table key) ++ includesFaults schema chain key (includes.getD []) := by
  cases includes with
  | none => rw [searchFaults, Option.getD_none, includesFaults, List.append_nil]
  | some includes => rw [searchFaults, Option.getD_some]

theorem includesFaults_eq_flatMap {chain : List String} {key : ι}
    (includes : List (String × Include)) :
    includesFaults schema chain key includes =
      includes.flatMap fun entry => includeFaults schema chain key entry.1 entry.2 := by
  induction includes with
  | nil => rw [includesFaults, List.flatMap_nil]
  | cons entry includes ih =>
      obtain ⟨name, ask⟩ := entry
      rw [includesFaults, List.flatMap_cons, ih]

theorem Query.PlannedAs.fetchesFrom {key : ι} {query : Query ι} {plan : Plan}
    (hPlanned : query.PlannedAs schema key plan) : plan.FetchesFrom (schema.table key) :=
  hPlanned.own_planned.fetched_mem

theorem first_buildCore (key : ι) (own : SearchOptions) :
    Reporting.FailsFirst (own.faults (schema.table key)) (buildCore schema key own) :=
  Reporting.first_liftExcept (PlanCore.first_build (schema.table key) own)

/-- Joining a relation. -/
theorem first_joinRelation {chain : List String} {key : ι} {name : String}
    {sub : ι → List String → Reporting Plan} {faults : ι → List String → List Error}
    (hSub : ∀ target deeper, Reporting.FailsFirst (faults target deeper) (sub target deeper))
    (hFetches : ∀ target deeper plan, Yields (sub target deeper) plan →
      plan.FetchesFrom (schema.table target)) :
    Reporting.FailsFirst (joinFaults schema chain key name faults)
      (joinRelation schema chain key name sub) := by
  rw [joinRelation, joinFaults]
  cases hRelation : (schema.table key).relation? name with
  | none => exact (Reporting.first_report _).bind fun _ _ => Reporting.first_pure _
  | some relation =>
      dsimp only
      by_cases hChain : (schema.table relation.target).name ∈ chain
      · rw [if_pos hChain, if_pos (List.contains_iff_mem.mpr hChain)]
        exact Reporting.first_throw (e := .includeCycle _) ErrorKind.noConfusion
      · rw [if_neg hChain, if_neg fun hMem => hChain (List.contains_iff_mem.mp hMem)]
        exact (hSub relation.target _).bind fun plan hPlan =>
          (Reporting.first_liftExcept (first_expose (hFetches _ _ plan hPlan)
            relation.referencedField)).bind_pure _

mutual

/-- Searches fail with their first fault. -/
theorem first_buildPlan {own : SearchOptions} :
    ∀ (includes : Option (List (String × Include))) (chain : List String) (key : ι),
      Reporting.FailsFirst (searchFaults schema chain key own includes)
        (buildPlan schema chain key own includes)
  | none, chain, key => by
      rw [buildPlan, searchFaults]
      exact (first_buildCore key own).bind_pure _
  | some includes, chain, key => by
      rw [buildPlan, searchFaults]
      exact (first_buildCore key own).bind fun core _ =>
        (first_buildJoins includes chain key).bind_pure _

theorem first_buildJoins :
    ∀ (includes : List (String × Include)) (chain : List String) (key : ι),
      Reporting.FailsFirst (includesFaults schema chain key includes)
        (buildJoins schema chain key includes)
  | [], chain, key => by
      rw [buildJoins, includesFaults]
      exact Reporting.first_pure _
  | (name, ask) :: rest, chain, key => by
      rw [buildJoins, includesFaults]
      exact (first_buildJoin ask chain key name).bind fun join _ =>
        (first_buildJoins rest chain key).bind_pure (join ++ ·)

theorem first_buildJoin :
    ∀ (ask : Include) (chain : List String) (key : ι) (name : String),
      Reporting.FailsFirst (includeFaults schema chain key name ask)
        (buildJoin schema chain key name ask)
  | .flag false, chain, key, name => by
      rw [buildJoin, includeFaults]
      exact Reporting.first_pure _
  | .flag true, chain, key, name => by
      rw [buildJoin, includeFaults]
      refine first_joinRelation (fun target _ => (first_buildCore target .empty).bind_pure _)
        fun target deeper plan hPlan => ?_
      obtain ⟨core, hCore, hPure⟩ := hPlan.of_bind
      rw [← hPure.of_pure]
      exact (planned_of_buildCore hCore).fetched_mem
  | .nested own includes, chain, key, name => by
      rw [buildJoin, includeFaults]
      exact first_joinRelation (fun target deeper => first_buildPlan includes deeper target)
        fun target deeper plan hPlan => (planned_of_buildPlan includes hPlan).fetchesFrom

end

/-- **Searches** fail with their first fault, and are planned just if they have none. -/
theorem first_build (key : ι) (options : FindOptions) :
    Reporting.FailsFirst (options.faults schema key) (Plan.build schema key options) :=
  first_buildPlan options.includes _ key

end Searches

end ModelStore
