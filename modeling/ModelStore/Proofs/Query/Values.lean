import ModelStore.Proofs.Query.Rendering
import ModelStore.Query.Statement

/-!
# The values of statements

The values of a statement are those that it binds.  Changing them changes its parameters, one for
one, and neither its text nor the columns that it shows.

## Main definitions

* `Sql.Expr.mapValues`, `Plan.mapValues`, `Statement.mapValues`: conditions, plans and statements
  with their values changed.

## Main results

* `Statement.sql_mapValues`, `Statement.params_mapValues`: the text stays, and the parameters are
  changed.
-/

namespace ModelStore

open Sql (Expr)

variable (f : Cell → Cell)

/-! ## Conditions -/

namespace Sql

/-- A condition with its values changed. -/
def Expr.mapValues (f : Cell → Cell) : Expr → Expr
  | column ref => column ref
  | compare left op right => compare (left.mapValues f) op (f right)
  | member left values => member (left.mapValues f) (values.map f)
  | nullTest left isNull => nullTest (left.mapValues f) isNull

@[simp] theorem Expr.sql_mapValues (e : Expr) : (e.mapValues f).sql = e.sql := by
  induction e with
  | column ref => rfl
  | compare left op right ih => simp [mapValues, sql, ih]
  | member left values ih => cases values <;> simp [mapValues, sql, ih]
  | nullTest left isNull ih => simp [mapValues, sql, ih]

@[simp] theorem Expr.params_mapValues (e : Expr) :
    (e.mapValues f).params = e.params.map f := by
  induction e with
  | column ref => rfl
  | compare left op right ih => simp [mapValues, params, ih]
  | member left values ih => cases values <;> simp [mapValues, params, ih]
  | nullTest left isNull ih => simp [mapValues, params, ih]

@[simp] theorem whereClause_mapValues (terms : List Expr) :
    whereClause (terms.map (Expr.mapValues f)) = whereClause terms := by
  simp [whereClause, Function.comp_def]

@[simp] theorem conjunctionParams_mapValues (terms : List Expr) :
    conjunctionParams (terms.map (Expr.mapValues f)) = (conjunctionParams terms).map f := by
  simp [conjunctionParams, List.flatMap_map, List.map_flatMap]

end Sql

/-! ## Plans -/

/-- What a plan does on its own table, with the values changed. -/
def PlanCore.mapValues (core : PlanCore) : PlanCore :=
  { core with predicate := core.predicate.map (Expr.mapValues f) }

mutual

/-- A plan with its values changed. -/
def Plan.mapValues (f : Cell → Cell) : Plan → Plan
  | .node core joins => .node (core.mapValues f) (Plan.mapJoins f joins)

/-- Joined plans with their values changed. -/
def Plan.mapJoins (f : Cell → Cell) : List (Link × Plan) → List (Link × Plan)
  | [] => []
  | (link, plan) :: rest => (link, Plan.mapValues f plan) :: Plan.mapJoins f rest

end

theorem Plan.mapJoins_eq_map (joins : List (Link × Plan)) :
    Plan.mapJoins f joins = joins.map fun join => (join.1, join.2.mapValues f) := by
  induction joins with
  | nil => rw [Plan.mapJoins, List.map_nil]
  | cons join joins ih => rw [Plan.mapJoins, ih, List.map_cons]

@[simp] theorem Plan.outputs_mapValues (plan : Plan) :
    (plan.mapValues f).outputs = plan.outputs := by
  induction plan using Plan.induction with
  | node core joins ih =>
      have hJoins : joins.flatMap (fun join => (join.2.mapValues f).outputs.map fun column =>
          (⟨joinedName join.1.name column.name, column.type⟩ : OutputColumn)) =
            joins.flatMap fun join => join.2.outputs.map fun column =>
              ⟨joinedName join.1.name column.name, column.type⟩ :=
        List.flatMap_congr fun join hJoin => by rw [ih join hJoin]
      rw [Plan.mapValues, Plan.outputs, Plan.outputs, Plan.outputsOfJoins_eq,
        Plan.outputsOfJoins_eq, Plan.mapJoins_eq_map, List.flatMap_map, hJoins]
      rfl

/-- The select list names columns only. -/
theorem selectItems_mapValues (core : PlanCore) (joins : List (Link × Plan)) :
    selectItems (core.mapValues f) (Plan.mapJoins f joins) = selectItems core joins := by
  have hJoined (join : Link × Plan) :
      SelectItem.joined (join.1, join.2.mapValues f) = SelectItem.joined join := by
    simp [SelectItem.joined]
  simp [selectItems, PlanCore.mapValues, Plan.mapJoins_eq_map, List.flatMap_map, hJoined]

theorem selectHead_mapValues (core : PlanCore) (joins : List (Link × Plan)) :
    selectHead (core.mapValues f) (Plan.mapJoins f joins) = selectHead core joins := by
  rw [selectHead, selectHead, selectItems_mapValues]
  rfl

theorem selectTail_mapValues (core : PlanCore) : selectTail (core.mapValues f) = selectTail core := by
  simp [selectTail, PlanCore.mapValues]

/-- Changing the values of a plan does not change its text. -/
@[simp] theorem Plan.sql_mapValues (plan : Plan) : (plan.mapValues f).sql = plan.sql := by
  induction plan using Plan.induction with
  | node core joins ih =>
      have hJoins : ∀ {others : List (Link × Plan)}, (∀ join ∈ others, join ∈ joins) →
          Plan.joinsSql core.table (Plan.mapJoins f others) = Plan.joinsSql core.table others := by
        intro others hSub
        induction others with
        | nil => rw [Plan.mapJoins]
        | cons join others ihOthers =>
            obtain ⟨hJoin, hOthers⟩ := List.forall_mem_cons.mp hSub
            rw [Plan.mapJoins, Plan.joinsSql, Plan.joinsSql, ih join hJoin, ihOthers hOthers]
      have hTable : (core.mapValues f).table = core.table := rfl
      rw [Plan.mapValues, Plan.sql, Plan.sql, selectHead_mapValues, selectTail_mapValues, hTable,
        hJoins fun join hJoin => hJoin]

/-- Changing the values of a plan changes its parameters. -/
@[simp] theorem Plan.params_mapValues (plan : Plan) :
    (plan.mapValues f).params = plan.params.map f := by
  induction plan using Plan.induction with
  | node core joins ih =>
      have hJoins : ∀ {others : List (Link × Plan)}, (∀ join ∈ others, join ∈ joins) →
          Plan.joinsParams (Plan.mapJoins f others) = (Plan.joinsParams others).map f := by
        intro others hSub
        induction others with
        | nil => rw [Plan.mapJoins]; rfl
        | cons join others ihOthers =>
            obtain ⟨hJoin, hOthers⟩ := List.forall_mem_cons.mp hSub
            rw [Plan.mapJoins, Plan.joinsParams, Plan.joinsParams, ih join hJoin,
              ihOthers hOthers, List.map_append]
      rw [Plan.mapValues, Plan.params, Plan.params, hJoins fun join hJoin => hJoin,
        List.map_append, PlanCore.mapValues, Sql.conjunctionParams_mapValues]

/-! ## Statements -/

/-- Values for columns, changed. -/
def Assignments.mapValues (values : Assignments) : Assignments :=
  values.map fun entry => (entry.1, f entry.2)

namespace Statement

/-- A statement with its values changed. -/
def mapValues (f : Cell → Cell) : Statement → Statement
  | find plan => find (plan.mapValues f)
  | first table columns predicate => first table columns (predicate.map (Expr.mapValues f))
  | insert table values returned => insert table (Assignments.mapValues f values) returned
  | update table values predicate returned =>
    update table (Assignments.mapValues f values) (predicate.map (Expr.mapValues f)) returned
  | delete table predicate returned => delete table (predicate.map (Expr.mapValues f)) returned
  | count table predicate => count table (predicate.map (Expr.mapValues f))

theorem insertBody_mapValues (values : Assignments) :
    insertBody (Assignments.mapValues f values) = insertBody values := by
  simp [insertBody, Assignments.mapValues, Function.comp_def]

theorem assignmentList_mapValues (values : Assignments) :
    assignmentList (Assignments.mapValues f values) = assignmentList values := by
  simp [assignmentList, Assignments.mapValues, Function.comp_def]

/-- **Changing the values of a statement does not change its text.** -/
theorem sql_mapValues (statement : Statement) : (statement.mapValues f).sql = statement.sql := by
  unfold sql
  cases statement with
  | find plan => exact plan.sql_mapValues f
  | insert table values returned => simp [mapValues, insertBody_mapValues]
  | update table values predicate returned => simp [mapValues, assignmentList_mapValues]
  | _ => simp [mapValues]

/-- **Changing the values of a statement changes its parameters.** -/
theorem params_mapValues (statement : Statement) :
    (statement.mapValues f).params = statement.params.map f := by
  cases statement with
  | find plan => exact plan.params_mapValues f
  | _ => simp [mapValues, params, Assignments.mapValues]

end Statement

end ModelStore
