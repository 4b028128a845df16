import ModelStore.Proofs.Query.Conditions
import ModelStore.Proofs.Query.Written

/-!
# The clauses of a filter

A filter is a conjunction of tests.  To be compiled, each test becomes a condition on its column,
and most conditions are sets of operators of which all but one are absent.  What comes out of this
is said here without either: one clause for each test, in the order of the tests, whatever the
operand is, be it a null or an empty list.  A filter has a test, so that its clause is never empty,
and there is no way to compile it to nothing.

It may fail to be compiled at all: if it names a column that the table does not have, or else if it
gives a list or an object where a value is wanted.

## Main definitions

* `Test.clause`, `Test.clauses`: the clause of a test, and those of some tests.
* `Test.compileAll`: what tests on a table come to.

## Main results

* `Test.compile_condition`: the condition of a test comes to its clause.
* `compile_tests`: conditions that stand for tests come to what the tests come to.
* `Filter.tests_ne_nil`: no filter is without tests.
* `compileFilter_search`: the filters of a search come to the clauses of all their tests.
-/

namespace ModelStore

open Sql (ColumnRef Comparison Expr)

/-! ## Values -/

theorem Cell.ofJson_eq_ite (column : String) (value : Json) :
    Cell.ofJson column value =
      if value.isCompound then .error (.refused (.compoundValue column)) else .ok value.bound := by
  cases value <;> rfl

theorem Cell.ofJsons_eq_ite (column : String) (values : List Json) :
    Cell.ofJsons column values =
      if values.any Json.isCompound then .error (.refused (.compoundValue column))
      else .ok (values.map Json.bound) := by
  induction values with
  | nil => rfl
  | cons value values ih =>
      rw [Cell.ofJsons, List.mapM_cons, Cell.ofJson_eq_ite, ← Cell.ofJsons, ih, List.any_cons]
      cases value.isCompound <;> cases values.any Json.isCompound <;> rfl

/-! ## Tests -/

namespace Test

/-- Some operand of the test is a list or an object. -/
def isCompound (test : Test) : Bool := test.operands.any Json.isCompound

/-- The clause of a test, on the column that is tested. -/
def clause (ref : ColumnRef) : Test → Expr
  | eq value =>
    if value.isNull then .nullTest (.column ref) true
    else .compare (.column ref) .eq value.bound
  | ne value =>
    if value.isNull then .nullTest (.column ref) false
    else .compare (.column ref) .ne value.bound
  | gt value => .compare (.column ref) .gt value.bound
  | gte value => .compare (.column ref) .gte value.bound
  | lt value => .compare (.column ref) .lt value.bound
  | lte value => .compare (.column ref) .lte value.bound
  | among values => .member (.column ref) (values.map Json.bound)
  | isNull => .nullTest (.column ref) true
  | isNotNull => .nullTest (.column ref) false

/-- The one operator that the condition of a test has. -/
def operator (ref : ColumnRef) : Test → Except Error Expr
  | eq value => compileEq ref value
  | ne value => compileNe ref value
  | gt value => compileOrder ref .gt value
  | gte value => compileOrder ref .gte value
  | lt value => compileOrder ref .lt value
  | lte value => compileOrder ref .lte value
  | among values => compileAmong ref values
  | isNull => compileEq ref .null
  | isNotNull => compileNe ref .null

theorem operator_eq_ite (ref : ColumnRef) (test : Test) :
    test.operator ref =
      if test.isCompound then .error (.refused (.compoundValue ref.name))
      else .ok (test.clause ref) := by
  cases test with
  | among values =>
      rw [operator, compileAmong, Cell.ofJsons_eq_ite, isCompound, operands]
      cases values.any Json.isCompound <;> rfl
  | isNull | isNotNull => rfl
  | eq value | ne value | gt value | gte value | lt value | lte value => cases value <;> rfl

/-- The condition of a test comes to one clause, unless an operand is a list or an object. -/
theorem compile_condition (ref : ColumnRef) (test : Test) :
    test.condition.compile ref =
      if test.isCompound then .error (.refused (.compoundValue ref.name))
      else .ok [test.clause ref] := by
  have hOnly : test.condition.compile ref = do return [← test.operator ref] := by
    -- The other operators are absent, and what is absent adds nothing.
    cases hOperator : test.operator ref
    all_goals
      cases test <;> rw [operator] at hOperator <;>
        simp only [condition, Condition.compile, Operators.compile, compileIf, Operators.empty,
          hOperator] <;> rfl
  rw [hOnly, operator_eq_ite]
  cases test.isCompound <;> rfl

/-! ## Some tests -/

/-- The clauses of some tests, each on its own column. -/
def clauses (qualifier : Option String) (tests : List (String × Test)) : List Expr :=
  tests.map fun entry => entry.2.clause ⟨qualifier, entry.1⟩

theorem clauses_ne_nil {qualifier : Option String} {tests : List (String × Test)}
    (hSome : tests ≠ []) : clauses qualifier tests ≠ [] :=
  fun hNil => hSome (List.map_eq_nil_iff.mp hNil)

section Tables

variable {ι : Type} (table : Table ι) (qualifier : Option String)

/-- What some tests on a table come to: the first column that the table does not have is told, else
the column of the first test of a list or an object, else there is one clause for each. -/
def compileAll (tests : List (String × Test)) : Except Error (List Expr) :=
  match tests.find? fun entry => (table.column? entry.1).isNone,
    tests.find? fun entry => entry.2.isCompound with
  | some entry, _ => .error (.unknownColumn table.name entry.1)
  | none, some entry => .error (.refused (.compoundValue entry.1))
  | none, none => .ok (clauses qualifier tests)

/-- Tests of columns that are known. -/
theorem compileKnown_tests (tests : List (String × Test)) :
    Conditions.compileKnown qualifier (tests.map (Prod.map id condition)) =
      match tests.find? fun entry => entry.2.isCompound with
      | some entry => .error (.refused (.compoundValue entry.1))
      | none => .ok (clauses qualifier tests) := by
  induction tests with
  | nil => rfl
  | cons entry tests ih =>
      obtain ⟨column, test⟩ := entry
      rw [List.map_cons, Prod.map_apply, Conditions.compileKnown, id, compile_condition, ih,
        List.find?_cons]
      cases test.isCompound with
      | true => rfl
      | false => cases tests.find? fun entry => entry.2.isCompound <;> rfl

/-- Conditions that stand for tests come to what the tests come to. -/
theorem compile_tests (tests : List (String × Test)) :
    Conditions.compile table qualifier (tests.map (Prod.map id condition)) =
      compileAll table qualifier tests := by
  rw [Conditions.compile, Conditions.unknownColumn?, List.find?_map, Option.map_map,
    compileKnown_tests, compileAll]
  have hSame : (fun entry : String × Condition => (table.column? entry.1).isNone) ∘
      Prod.map id condition = fun entry => (table.column? entry.1).isNone := rfl
  rw [hSame]
  cases tests.find? fun entry => (table.column? entry.1).isNone with
  | some entry => rfl
  | none => cases tests.find? fun entry => entry.2.isCompound <;> rfl

variable {table qualifier}

/-- What compiles comes to one clause for each test. -/
theorem clauses_of_compileAll {tests : List (String × Test)} {terms : List Expr}
    (hTerms : compileAll table qualifier tests = .ok terms) :
    terms = clauses qualifier tests := by
  unfold compileAll at hTerms
  split at hTerms
  · cases hTerms
  · cases hTerms
  · exact (Except.ok.inj hTerms).symm

/-- Where the table has all of the columns, only a list or an object can be wrong. -/
theorem kind_of_compileAll {tests : List (String × Test)} {e : Error}
    (hKnown : ∀ entry ∈ tests, (table.column? entry.1).isSome = true)
    (hError : compileAll table qualifier tests = .error e) : e.kind = .validation := by
  have hNone : (tests.find? fun entry => (table.column? entry.1).isNone) = none :=
    List.find?_eq_none.mpr fun entry hMem => by
      simp [Option.isSome_iff_ne_none.mp (hKnown entry hMem)]
  rw [compileAll, hNone] at hError
  cases hCompound : tests.find? fun entry => entry.2.isCompound with
  | some entry =>
      rw [hCompound] at hError
      cases hError
      rfl
  | none =>
      rw [hCompound] at hError
      cases hError

end Tables

end Test

/-! ## Filters -/

section Filters

variable {ι : Type} (table : Table ι) (qualifier : Option String)

theorem Filter.tests_ne_nil (filter : Filter) : filter.tests ≠ [] := by
  induction filter with
  | test column t => exact List.cons_ne_nil _ _
  | both left right ihLeft _ => exact List.append_ne_nil_of_left_ne_nil ihLeft _

/-- A filter comes to what its tests come to. -/
theorem Filter.compile_conditions (filter : Filter) :
    filter.conditions.compile table qualifier =
      Test.compileAll table qualifier filter.tests := by
  rw [Filter.conditions_eq_map, Test.compile_tests]

-- A null and an empty list come to clauses like any other operand.
example :
    (Filter.both (.test "role" .isNull) (.test "id" (.among []))).conditions.compile
        BuiltIn.usersTable none =
      .ok [.nullTest (.column ⟨none, "role"⟩) true, .member (.column ⟨none, "id"⟩) []] := rfl

namespace SearchStep

/-- The filters of a search come to what all of their tests come to. -/
theorem compileFilter_search (steps : List SearchStep) :
    compileFilter table qualifier (search steps).toOptions.own.filter =
      Test.compileAll table qualifier (tests steps) := by
  rw [toOptions_search]
  dsimp only
  cases hFilters : steps.filterMap filter? with
  | nil =>
      rw [tests, hFilters]
      rfl
  | cons filter filters => exact Test.compile_tests table qualifier (tests steps)

/-- The clauses of a search are those of its filters, one after another. -/
theorem clauses_tests (steps : List SearchStep) :
    Test.clauses qualifier (tests steps) =
      (steps.filterMap filter?).flatMap fun filter => Test.clauses qualifier filter.tests := by
  rw [Test.clauses, tests, List.map_flatMap]
  rfl

/-- All of the clauses of a search hold just if those of each of its filters do. -/
theorem allHold_tests {columns : ColumnRef → Cell × Affinity} (steps : List SearchStep) :
    Sql.allHold columns (Test.clauses qualifier (tests steps)) = true ↔
      ∀ filter ∈ steps.filterMap filter?,
        Sql.allHold columns (Test.clauses qualifier filter.tests) = true := by
  rw [clauses_tests, Sql.allHold, List.all_flatMap, List.all_eq_true]
  rfl

end SearchStep

end Filters

end ModelStore
