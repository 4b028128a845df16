import ModelStore.Proofs.Query.Outline
import ModelStore.Proofs.Query.Planning
import ModelStore.Proofs.Query.Values
import ModelStore.Query.Mutation

/-!
# What is compiled depends on outlines only

A blank statement is one whose values are forgotten: all of them are null.  Options and their
outline are compiled to the same blank statements, or fail for the same reason, and building a plan
reports the same on the way.  Conditions, payloads and searches are compiled by steps of which each
goes on with what the one before has made, so it is enough that every step keeps blank results the
same.

## Main definitions

* `Cell.blank`: the value that stands for all values.

## Main results

* `Sql.compileFilter_outline`, `Payload.compile_outline`: conditions and payloads.
* `buildPlan_outline`: searches, at any depth.
* `Table.insertion_outline` and so on: the statements of the other operations.
-/

namespace ModelStore

open Json (outlineItems outlineFields)
open Sql (Expr ColumnRef Comparison)

/-! ## Steps that are the same up to a change -/

/-- Results that are the same up to a change, and then steps that are so on them. -/
theorem Except.map_bind_congr {ε α β γ δ : Type} {x y : Except ε α} {next next' : α → Except ε β}
    {h : α → γ} {g : β → δ} (hSame : h <$> x = h <$> y)
    (hNext : ∀ a b, h a = h b → g <$> next a = g <$> next' b) :
    g <$> (x >>= next) = g <$> (y >>= next') := by
  cases x with
  | error e =>
      cases y with
      | error e' =>
          cases hSame
          rfl
      | ok b => cases hSame
  | ok a =>
      cases y with
      | error e' => cases hSame
      | ok b => exact hNext a b (Except.ok.inj hSame)

/-- Steps that report and are the same up to a change, and then steps that are so on their
results. -/
theorem Reporting.map_bind_congr {α β γ δ : Type} {x y : Reporting α}
    {next next' : α → Reporting β} {h : α → γ} {g : β → δ} (hSame : h <$> x = h <$> y)
    (hNext : ∀ a b, h a = h b → g <$> next a = g <$> next' b) :
    g <$> (x >>= next) = g <$> (y >>= next') := by
  refine ExceptT.ext (StateT.ext fun before => ?_)
  have hRun : (h <$> x).run.run before = (h <$> y).run.run before := by rw [hSame]
  rw [Reporting.run_map, Reporting.run_map] at hRun
  rw [Reporting.run_map, Reporting.run_map, Reporting.run_bind, Reporting.run_bind]
  generalize hx : x.run.run before = resultX at hRun ⊢
  generalize hy : y.run.run before = resultY at hRun ⊢
  obtain ⟨rx, sx⟩ := resultX
  obtain ⟨ry, sy⟩ := resultY
  obtain ⟨hResult, rfl⟩ := Prod.mk.inj hRun
  cases rx with
  | error e =>
      cases ry with
      | error e' =>
          cases hResult
          rfl
      | ok b => cases hResult
  | ok a =>
      cases ry with
      | error e' => cases hResult
      | ok b =>
          have hStep := hNext a b (Except.ok.inj hResult)
          have hAfter : (g <$> next a).run.run sx = (g <$> next' b).run.run sx := by rw [hStep]
          rw [Reporting.run_map, Reporting.run_map] at hAfter
          exact hAfter

theorem map_liftExcept {α β : Type} (g : α → β) (x : Except Error α) :
    g <$> liftExcept x = liftExcept (g <$> x) := by
  cases x <;> rfl

/-! ## Values and conditions -/

/-- The value that stands for all values. -/
def Cell.blank : Cell → Cell := fun _ => .null

/-- Conditions with their values forgotten. -/
def Sql.blankTerms (terms : List Expr) : List Expr := terms.map (Expr.mapValues Cell.blank)

theorem Cell.ofJson_of_not_isCompound (column : String) {value : Json}
    (hScalar : value.isCompound = false) : ∃ cell, Cell.ofJson column value = .ok cell := by
  cases value with
  | list items => cases hScalar
  | object fields => cases hScalar
  | _ => exact ⟨_, rfl⟩

/-- A scalar has a cell, and its outline too; a list or an object has none. -/
theorem Cell.ofJson_outline (column : String) (keep : Json → Bool) (value : Json) :
    Cell.blank <$> Cell.ofJson column (value.outline keep) =
      Cell.blank <$> Cell.ofJson column value := by
  cases value using Json.casesScalar with
  | list items => rw [Json.outline_list]; rfl
  | object fields => rw [Json.outline_object]; rfl
  | scalar value hScalar =>
      have hOutline := (Json.isCompound_outline keep value).trans hScalar
      obtain ⟨cell, hCell⟩ := Cell.ofJson_of_not_isCompound column hScalar
      obtain ⟨outlined, hOutlined⟩ := Cell.ofJson_of_not_isCompound column hOutline
      rw [hCell, hOutlined]
      rfl

theorem Cell.ofJsons_outline (column : String) (values : List Json) :
    List.map Cell.blank <$> Cell.ofJsons column (outlineItems values) =
      List.map Cell.blank <$> Cell.ofJsons column values := by
  induction values with
  | nil => rw [outlineItems]
  | cons value values ih =>
      rw [outlineItems, Cell.ofJsons, Cell.ofJsons, List.mapM_cons, List.mapM_cons]
      refine Except.map_bind_congr (Cell.ofJson_outline column _ value) fun a b _ => ?_
      refine Except.map_bind_congr ih fun cells others hCells => ?_
      simp only [map_pure, List.map_cons, hCells]
      rfl

section Conditions

variable (ref : ColumnRef)

/-- A comparison with a value, its value forgotten. -/
theorem compileOrder_outline (op : Comparison) (value : Json) :
    Expr.mapValues Cell.blank <$> compileOrder ref op (outlineOperand value) =
      Expr.mapValues Cell.blank <$> compileOrder ref op value :=
  Except.map_bind_congr (Cell.ofJson_outline ref.name _ value) fun _ _ _ => rfl

theorem isNull_outlineOperand (value : Json) : (outlineOperand value).isNull = value.isNull :=
  Json.isNull_outline rfl value

/-- A comparison with a value, nulls being asked for in another way. -/
theorem unless_null_outline (op : Comparison) (absent : Expr) (value : Json) :
    Expr.mapValues Cell.blank <$> (if (outlineOperand value).isNull then .ok absent
        else compileOrder ref op (outlineOperand value) : Except Error Expr) =
      Expr.mapValues Cell.blank <$> (if value.isNull then .ok absent
        else compileOrder ref op value : Except Error Expr) := by
  rw [isNull_outlineOperand]
  split
  · rfl
  · exact compileOrder_outline ref op value

theorem compileEq_outline (value : Json) :
    Expr.mapValues Cell.blank <$> compileEq ref (outlineOperand value) =
      Expr.mapValues Cell.blank <$> compileEq ref value :=
  unless_null_outline ref .eq (.nullTest (.column ref) true) value

theorem compileNe_outline (value : Json) :
    Expr.mapValues Cell.blank <$> compileNe ref (outlineOperand value) =
      Expr.mapValues Cell.blank <$> compileNe ref value :=
  unless_null_outline ref .ne (.nullTest (.column ref) false) value

theorem compileAmong_outline (values : List Json) :
    Expr.mapValues Cell.blank <$> compileAmong ref (outlineItems values) =
      Expr.mapValues Cell.blank <$> compileAmong ref values := by
  refine Except.map_bind_congr (Cell.ofJsons_outline ref.name values) fun cells others hCells => ?_
  simp only [map_pure, Expr.mapValues, hCells]

/-- An operator that may be absent. -/
theorem compileIf_outline {α : Type} {compile : α → Except Error Expr} {outline : α → α}
    (hCompile : ∀ value, Expr.mapValues Cell.blank <$> compile (outline value) =
      Expr.mapValues Cell.blank <$> compile value) (operand : Option α) :
    Sql.blankTerms <$> compileIf (operand.map outline) compile =
      Sql.blankTerms <$> compileIf operand compile := by
  cases operand with
  | none => rfl
  | some value =>
      refine Except.map_bind_congr (hCompile value) fun term other hTerm => ?_
      simp only [map_pure, Sql.blankTerms, List.map_cons, List.map_nil, hTerm]

/-- The operators on a column, each compiled as its outline is. -/
theorem Operators.compile_outline (ops : Operators) :
    Sql.blankTerms <$> ops.outline.compile ref = Sql.blankTerms <$> ops.compile ref := by
  have hOrder (op : Comparison) (operand : Option Json) :=
    compileIf_outline (compileOrder_outline ref op) operand
  refine Except.map_bind_congr (compileIf_outline (compileEq_outline ref) ops.eq) fun _ _ hEq => ?_
  refine Except.map_bind_congr (compileIf_outline (compileNe_outline ref) ops.ne) fun _ _ hNe => ?_
  refine Except.map_bind_congr (hOrder .gt ops.gt) fun _ _ hGt => ?_
  refine Except.map_bind_congr (hOrder .gte ops.gte) fun _ _ hGte => ?_
  refine Except.map_bind_congr (hOrder .lt ops.lt) fun _ _ hLt => ?_
  refine Except.map_bind_congr (hOrder .lte ops.lte) fun _ _ hLte => ?_
  refine Except.map_bind_congr (compileIf_outline (compileAmong_outline ref) ops.among)
    fun _ _ hAmong => ?_
  simp only [Sql.blankTerms] at hEq hNe hGt hGte hLt hLte hAmong
  simp only [map_pure, Sql.blankTerms, List.map_append, hEq, hNe, hGt, hGte, hLt, hLte, hAmong]

theorem Condition.compile_outline (condition : Condition) :
    Sql.blankTerms <$> condition.outline.compile ref = Sql.blankTerms <$> condition.compile ref := by
  cases condition with
  | equals value =>
      refine Except.map_bind_congr (compileEq_outline ref value) fun term other hTerm => ?_
      simp only [map_pure, Sql.blankTerms, List.map_cons, List.map_nil, hTerm]
  | operators ops => exact ops.compile_outline ref

end Conditions

variable {ι : Type}

theorem Conditions.compileKnown_outline (qualifier : Option String) (conditions : Conditions) :
    Sql.blankTerms <$> Conditions.compileKnown qualifier conditions.outline =
      Sql.blankTerms <$> Conditions.compileKnown qualifier conditions := by
  induction conditions with
  | nil => rfl
  | cons entry conditions ih =>
      obtain ⟨column, condition⟩ := entry
      refine Except.map_bind_congr (condition.compile_outline ⟨qualifier, column⟩)
        fun terms others hTerms => ?_
      refine Except.map_bind_congr ih fun rest rest' hRest => ?_
      simp only [Sql.blankTerms] at hTerms hRest
      simp only [map_pure, Sql.blankTerms, List.map_append, hTerms, hRest]

/-- The columns of conditions are those of their outline. -/
theorem Conditions.unknownColumn?_outline (table : Table ι) (conditions : Conditions) :
    conditions.outline.unknownColumn? table = conditions.unknownColumn? table := by
  simp [unknownColumn?, outline, List.find?_map, Function.comp_def, Option.map_map]

theorem Conditions.compile_outline (table : Table ι) (qualifier : Option String)
    (conditions : Conditions) :
    Sql.blankTerms <$> conditions.outline.compile table qualifier =
      Sql.blankTerms <$> conditions.compile table qualifier := by
  rw [compile, compile, unknownColumn?_outline]
  split
  · rfl
  · exact conditions.compileKnown_outline qualifier

/-- **Conditions that may be absent** are compiled as their outline is. -/
theorem compileFilter_outline (table : Table ι) (qualifier : Option String)
    (filter : Option Conditions) :
    Sql.blankTerms <$> compileFilter table qualifier (filter.map Conditions.outline) =
      Sql.blankTerms <$> compileFilter table qualifier filter := by
  cases filter with
  | none => rfl
  | some conditions => exact conditions.compile_outline table qualifier

/-! ## Payloads and statements -/

/-- **Payloads** are compiled as their outline is. -/
theorem Payload.compile_outline (table : Table ι) (data : Payload) :
    Assignments.mapValues Cell.blank <$> Payload.compile table data.outline =
      Assignments.mapValues Cell.blank <$> Payload.compile table data := by
  induction data with
  | nil => rw [Payload.outline, outlineFields]
  | cons entry data ih =>
      obtain ⟨name, value⟩ := entry
      rw [Payload.outline] at ih ⊢
      rw [outlineFields, Payload.compile, Payload.compile]
      split
      · rfl
      · refine Except.map_bind_congr (Cell.ofJson_outline _ _ value) fun cell other _ => ?_
        refine Except.map_bind_congr ih fun values others hValues => ?_
        simp only [Assignments.mapValues] at hValues
        simp only [map_pure, Assignments.mapValues, List.map_cons, hValues]
        rfl

theorem Payload.isEmpty_outline (data : Payload) : data.outline.isEmpty = data.isEmpty := by
  cases data with
  | nil => rw [Payload.outline, outlineFields]
  | cons entry data => rw [Payload.outline, outlineFields]; rfl

/-- An insertion makes identifiers for the columns that a payload leaves out. -/
theorem Table.identified_outline (table : Table ι) (data : Payload) :
    table.identified data.outline = table.identified data := by
  simp [identified, Payload.outline, Json.outlineFields_eq_map, Fields.contains, List.any_map,
    Function.comp_def]

namespace Table

variable (table : Table ι)

/-- An insertion, whichever identifiers are made for it. -/
theorem insertion_outline (ids ids' : Nat → String) (data : Payload) :
    Statement.mapValues Cell.blank <$> table.insertion ids' data.outline =
      Statement.mapValues Cell.blank <$> table.insertion ids data := by
  rw [insertion, insertion, table.identified_outline]
  refine Except.map_bind_congr (Payload.compile_outline table data) fun values others hValues => ?_
  simp only [Assignments.mapValues] at hValues
  simp only [map_pure, Statement.mapValues, Assignments.mapValues, List.map_append, List.map_map,
    hValues]
  rfl

theorem change_outline (filter : Option Conditions) (data : Payload) (returning : Bool) :
    Statement.mapValues Cell.blank <$>
        table.change (filter.map Conditions.outline) data.outline returning =
      Statement.mapValues Cell.blank <$> table.change filter data returning := by
  rw [change, change, data.isEmpty_outline]
  split
  · rfl
  · refine Except.map_bind_congr (Payload.compile_outline table data) fun _ _ hValues => ?_
    refine Except.map_bind_congr (compileFilter_outline table none filter) fun _ _ hTerms => ?_
    simp only [Sql.blankTerms] at hTerms
    simp only [map_pure, Statement.mapValues, hValues, hTerms]

/-- A statement that is made of the terms of a condition. -/
theorem filtered_outline (filter : Option Conditions) {make : List Expr → Statement}
    (hMake : ∀ terms others, Sql.blankTerms terms = Sql.blankTerms others →
      (make terms).mapValues Cell.blank = (make others).mapValues Cell.blank) :
    Statement.mapValues Cell.blank <$>
        (do return make (← compileFilter table none (filter.map Conditions.outline)) :
          Except Error Statement) =
      Statement.mapValues Cell.blank <$>
        (do return make (← compileFilter table none filter) : Except Error Statement) := by
  refine Except.map_bind_congr (compileFilter_outline table none filter) fun terms others hTerms => ?_
  rw [map_pure, map_pure, hMake terms others hTerms]

theorem removal_outline (filter : Option Conditions) (returning : Bool) :
    Statement.mapValues Cell.blank <$> table.removal (filter.map Conditions.outline) returning =
      Statement.mapValues Cell.blank <$> table.removal filter returning :=
  table.filtered_outline filter fun _ _ hTerms =>
    congrArg (Statement.delete table.name · (table.returned returning)) hTerms

theorem counting_outline (filter : Option Conditions) :
    Statement.mapValues Cell.blank <$> table.counting (filter.map Conditions.outline) =
      Statement.mapValues Cell.blank <$> table.counting filter :=
  table.filtered_outline filter fun _ _ hTerms => congrArg (Statement.count table.name) hTerms

theorem lookup_outline (filter : Option Conditions) :
    Statement.mapValues Cell.blank <$> table.lookup (filter.map Conditions.outline) =
      Statement.mapValues Cell.blank <$> table.lookup filter :=
  table.filtered_outline filter fun _ _ hTerms =>
    congrArg (Statement.first table.name table.columns) hTerms

end Table

/-! ## Plans -/

theorem PlanCore.build_outline (table : Table ι) (own : SearchOptions) :
    PlanCore.mapValues Cell.blank <$> PlanCore.build table own.outline =
      PlanCore.mapValues Cell.blank <$> PlanCore.build table own := by
  refine Except.map_bind_congr (compileFilter_outline table (some table.name) own.filter)
    fun terms others hTerms => ?_
  refine Except.map_bind_congr (h := id) rfl fun order _ hOrder => ?_
  obtain rfl := hOrder
  simp only [Sql.blankTerms] at hTerms
  simp only [map_pure, PlanCore.mapValues, hTerms]
  rfl

/-- Fetching one more column has nothing to do with values. -/
theorem Plan.expose_mapValues (f : Cell → Cell) (table : Table ι) (name : String) (plan : Plan) :
    mapValues f <$> plan.expose table name = (plan.mapValues f).expose table name := by
  obtain ⟨core, joins⟩ := plan
  have hFetched : (core.mapValues f).projection ++ (core.mapValues f).hidden =
      core.projection ++ core.hidden := rfl
  rw [mapValues, expose, expose, hFetched]
  split
  · rfl
  · cases table.column? name <;> rfl

section Build

variable {schema : Schema ι} {chain : List String} {key : ι}

/-- Joining a relation, its target searched by steps that are the same up to values. -/
theorem joinRelation_congr {name : String} {sub sub' : ι → List String → Reporting Plan}
    (hSub : ∀ target deeper, Plan.mapValues Cell.blank <$> sub target deeper =
      Plan.mapValues Cell.blank <$> sub' target deeper) :
    Plan.mapJoins Cell.blank <$> joinRelation schema chain key name sub =
      Plan.mapJoins Cell.blank <$> joinRelation schema chain key name sub' := by
  rw [joinRelation, joinRelation]
  split
  · rfl
  · rename_i relation hRelation
    dsimp only
    split
    · rfl
    · refine Reporting.map_bind_congr (hSub relation.target _) fun plan other hPlan => ?_
      have hExposed : Plan.mapValues Cell.blank <$>
            liftExcept (plan.expose (schema.table relation.target) relation.referencedField) =
          Plan.mapValues Cell.blank <$>
            liftExcept (other.expose (schema.table relation.target) relation.referencedField) := by
        rw [map_liftExcept, map_liftExcept, Plan.expose_mapValues, Plan.expose_mapValues, hPlan]
      refine Reporting.map_bind_congr hExposed fun exposed exposed' hSame => ?_
      simp only [map_pure, Plan.mapJoins, hSame]

theorem buildCore_outline (own : SearchOptions) :
    PlanCore.mapValues Cell.blank <$> buildCore schema key own.outline =
      PlanCore.mapValues Cell.blank <$> buildCore schema key own := by
  rw [buildCore, buildCore, map_liftExcept, map_liftExcept, PlanCore.build_outline]

mutual

/-- **Searches** are planned as their outline is. -/
theorem buildPlan_outline (own : SearchOptions) :
    ∀ (includes : Option (List (String × Include))) (chain : List String) (key : ι),
      Plan.mapValues Cell.blank <$>
          buildPlan schema chain key own.outline (includes.map Include.outlineAll) =
        Plan.mapValues Cell.blank <$> buildPlan schema chain key own includes
  | none, chain, key => by
      rw [Option.map_none, buildPlan, buildPlan]
      refine Reporting.map_bind_congr (buildCore_outline own) fun core other hCore => ?_
      simp only [map_pure, Plan.mapValues, hCore]
  | some includes, chain, key => by
      rw [Option.map_some, buildPlan, buildPlan]
      refine Reporting.map_bind_congr (buildCore_outline own) fun core other hCore => ?_
      refine Reporting.map_bind_congr (buildJoins_outline includes chain key)
        fun joins joins' hJoins => ?_
      simp only [map_pure, Plan.mapValues, hCore, hJoins]

theorem buildJoins_outline :
    ∀ (includes : List (String × Include)) (chain : List String) (key : ι),
      Plan.mapJoins Cell.blank <$> buildJoins schema chain key (Include.outlineAll includes) =
        Plan.mapJoins Cell.blank <$> buildJoins schema chain key includes
  | [], chain, key => by rw [Include.outlineAll]
  | (name, ask) :: rest, chain, key => by
      rw [Include.outlineAll, buildJoins, buildJoins]
      refine Reporting.map_bind_congr (buildJoin_outline ask chain key name)
        fun join join' hJoin => ?_
      refine Reporting.map_bind_congr (buildJoins_outline rest chain key)
        fun others others' hOthers => ?_
      simp only [Plan.mapJoins_eq_map] at hJoin hOthers
      simp only [map_pure, Plan.mapJoins_eq_map, List.map_append, hJoin, hOthers]

theorem buildJoin_outline :
    ∀ (ask : Include) (chain : List String) (key : ι) (name : String),
      Plan.mapJoins Cell.blank <$> buildJoin schema chain key name ask.outline =
        Plan.mapJoins Cell.blank <$> buildJoin schema chain key name ask
  | .flag false, chain, key, name => by rw [Include.outline]
  | .flag true, chain, key, name => by rw [Include.outline]
  | .nested own includes, chain, key, name => by
      rw [Include.outline_nested, buildJoin, buildJoin]
      exact joinRelation_congr fun target deeper => buildPlan_outline own includes deeper target

end

end Build

end ModelStore
