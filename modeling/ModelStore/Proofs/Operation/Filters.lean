import ModelStore.Proofs.Operation.Compiling
import ModelStore.Proofs.Operation.UpsertCorrect
import ModelStore.Proofs.Query.Clauses
import ModelStore.Proofs.Query.Repeating

/-!
# What filters bound

A filter that is built from tests cannot be empty, and each of its tests comes to a clause.  So a
mutation that is given a filter sends no statement that reads, changes or removes rows of the table
without a clause for every test: either nothing is sent, or all of the statements stand under the
same clauses.  Only the insertion of an upsert has none, and it looks at no row.

## Main definitions

* `Statement.Under`: statements on the rows that satisfy a conjunction.
* `Filter.Bounds`: the mutations that are given a filter.

## Main results

* `Filter.Bounds.under_of_prepare`: the statements of such a mutation.
* `Session.filters_bound`: what filters come to, what they bound, and what the filters of a search
  come to.
-/

namespace ModelStore

open Sql (ColumnRef Expr)

variable {ι : Type}

/-! ## Statements under a conjunction -/

/-- The statement is on the rows that satisfy a conjunction. -/
inductive Statement.Under (terms : List Expr) : Statement → Prop
  | first (table : String) (columns : List Column) : Under terms (.first table columns terms)
  | update (table : String) (values : Assignments) (returned : Option (List Column)) :
    Under terms (.update table values terms returned)
  | delete (table : String) (returned : Option (List Column)) :
    Under terms (.delete table terms returned)

theorem Sql.append_whereClause {terms : List Expr} (hSome : terms ≠ []) (front back : String) :
    front ++ whereClause terms ++ back =
      front ++ " WHERE " ++ String.intercalate " AND " (terms.map Expr.sql) ++ back := by
  rw [whereClause, List.isEmpty_eq_false_iff.mpr hSome, if_neg Bool.false_ne_true,
    ← String.append_assoc]

/-- Such a statement has a clause with all of the conjunction. -/
theorem Statement.Under.sql_eq {terms : List Expr} {statement : Statement}
    (hUnder : statement.Under terms) (hSome : terms ≠ []) :
    ∃ front back, statement.sql =
      front ++ " WHERE " ++ String.intercalate " AND " (terms.map Expr.sql) ++ back := by
  cases hUnder with
  | first table columns => exact ⟨_, _, Sql.append_whereClause hSome _ _⟩
  | update table values returned => exact ⟨_, _, Sql.append_whereClause hSome _ _⟩
  | delete table returned => exact ⟨_, _, Sql.append_whereClause hSome _ _⟩

/-! ## Mutations that are given a filter -/

/-- The mutation is given a filter. -/
inductive Filter.Bounds (filter : Filter) : Operation → Prop
  | update (data : Payload) : Bounds filter (.update ⟨filter.conditions, data⟩)
  | updateMany (data : Payload) : Bounds filter (.updateMany ⟨some filter.conditions, data⟩)
  | upsert (update create : Payload) :
    Bounds filter (.upsert ⟨some filter.conditions, update, create⟩)
  | delete : Bounds filter (.delete ⟨filter.conditions⟩)
  | deleteMany : Bounds filter (.deleteMany ⟨some filter.conditions⟩)

/-- A change or a removal that is prepared stands under what its conditions come to. -/
theorem Table.under_of_change {table : Table ι} {conditions : Conditions} {data : Payload}
    {asked : Bool} {statement : Statement}
    (hChange : table.change (some conditions) data asked = .ok statement) :
    ∃ terms, conditions.compile table none = .ok terms ∧ statement.Under terms := by
  rw [change] at hChange
  split at hChange
  · cases hChange
  · obtain ⟨values, -, hRest⟩ := bind_eq_ok.mp hChange
    obtain ⟨terms, hTerms, hPure⟩ := bind_eq_ok.mp hRest
    exact ⟨terms, hTerms, pure_eq_ok.mp hPure ▸ .update _ _ _⟩

theorem Table.under_of_removal {table : Table ι} {conditions : Conditions} {asked : Bool}
    {statement : Statement}
    (hRemoval : table.removal (some conditions) asked = .ok statement) :
    ∃ terms, conditions.compile table none = .ok terms ∧ statement.Under terms := by
  obtain ⟨terms, hTerms, hPure⟩ := bind_eq_ok.mp hRemoval
  exact ⟨terms, hTerms, pure_eq_ok.mp hPure ▸ .delete _ _⟩

/-- **Preparation**: every statement of the work stands under what the conditions of the filter come
to, but for the insertion of an upsert. -/
theorem Filter.Bounds.under_of_prepare {schema : Schema ι} {key : ι} {policy : BulkPolicy}
    {ids : Nat → String} {filter : Filter} {operation : Operation}
    (hBounds : filter.Bounds operation) {work : Work}
    (hPrepared : Yields (operation.prepare schema key policy ids) work) :
    ∃ terms, filter.conditions.compile (schema.table key) none = .ok terms ∧
      ∀ statement ∈ work.statements, statement.Under terms ∨
        (operation.method = .upsert ∧ statement.Inserts) := by
  have hOnly : ∀ {statement : Statement} {terms : List Expr} {other : Statement → Prop},
      statement.Under terms → ∀ sent ∈ [statement], sent.Under terms ∨ other sent :=
    fun hUnder => List.forall_mem_singleton.mpr (.inl hUnder)
  cases hBounds with
  | update data =>
      obtain ⟨statement, hChange, hPure⟩ := hPrepared.of_bind
      obtain ⟨terms, hTerms, hUnder⟩ := Table.under_of_change hChange.of_liftExcept
      exact ⟨terms, hTerms, hPure.of_pure ▸ hOnly hUnder⟩
  | updateMany data =>
      obtain ⟨statement, hChange, hRest⟩ := hPrepared.of_bind
      obtain ⟨-, -, hPure⟩ := hRest.of_bind
      obtain ⟨terms, hTerms, hUnder⟩ := Table.under_of_change hChange.of_liftExcept
      exact ⟨terms, hTerms, hPure.of_pure ▸ hOnly hUnder⟩
  | delete =>
      obtain ⟨statement, hRemoval, hPure⟩ := hPrepared.of_bind
      obtain ⟨terms, hTerms, hUnder⟩ := Table.under_of_removal hRemoval.of_liftExcept
      exact ⟨terms, hTerms, hPure.of_pure ▸ hOnly hUnder⟩
  | deleteMany =>
      obtain ⟨statement, hRemoval, hRest⟩ := hPrepared.of_bind
      obtain ⟨-, -, hPure⟩ := hRest.of_bind
      obtain ⟨terms, hTerms, hUnder⟩ := Table.under_of_removal hRemoval.of_liftExcept
      exact ⟨terms, hTerms, hPure.of_pure ▸ hOnly hUnder⟩
  | upsert update create =>
      obtain ⟨upsert, -, rfl, hConditions, -⟩ := exists_of_prepareUpsert hPrepared.of_liftExcept
      refine ⟨upsert.terms, Option.some.inj hConditions ▸ upsert.terms_eq, ?_⟩
      rw [Upsert.work, Work.statements]
      refine List.forall_mem_cons.mpr ⟨.inl (.first _ _), List.forall_mem_append.mpr ⟨?_, ?_⟩⟩
      · intro statement hMem
        split at hMem
        · cases hMem
        · obtain rfl := List.mem_singleton.mp hMem
          exact .inl (.update _ _ _)
      · exact List.forall_mem_singleton.mpr (.inr ⟨rfl, _, _, _, rfl⟩)

/-! ## Searches -/

/-- The plan of a search is for the rows that satisfy the clauses of all of its tests. -/
theorem SearchStep.predicate_of_build {schema : Schema ι} {key : ι} {steps : List SearchStep}
    {plan : Plan} (hPlan : Yields (Plan.build schema key (search steps).toOptions) plan) :
    plan.core.predicate = Test.clauses (some (schema.table key).name) (tests steps) := by
  have hPredicate := (planned_of_buildPlan _ hPlan).own_planned.predicate_eq
  rw [Query.resolve_eq, Query.own, compileFilter_search] at hPredicate
  exact Test.clauses_of_compileAll hPredicate

/-! ## Sessions -/

namespace Session

section Sent

variable {schema : Schema ι} {key : ι} {filter : Filter} {operation : Operation}

/-- A mutation that is given a filter sends nothing unless the filter compiles, and then only
statements under its clauses and the insertion of an upsert. -/
theorem sent_under (hBounds : filter.Bounds operation) (world : World) (session : Session) :
    ∀ statement ∈ session.sentSince (session.perform schema world key operation).2,
      filter.conditions.compile (schema.table key) none = .ok (Test.clauses none filter.tests) ∧
        (statement.Under (Test.clauses none filter.tests) ∨
          (operation.method = .upsert ∧ statement.Inserts)) := by
  intro statement hSent
  rcases hPrepared : (operation.prepare schema key session.policy
    fun k => world.freshId (session.issued + k)).run.run [] with ⟨e | work, events⟩
  · rw [(sentSince_of_prepare_error hPrepared).2] at hSent
    cases hSent
  · rw [sentSince_of_prepared hPrepared] at hSent
    obtain ⟨terms, hTerms, hUnder⟩ := hBounds.under_of_prepare ⟨[], events, hPrepared⟩
    have hAll := filter.compile_conditions (schema.table key) none
    rw [hTerms] at hAll
    obtain rfl := Test.clauses_of_compileAll hAll.symm
    exact ⟨hTerms, hUnder statement
      (work.sent_subset world.now session.store session.barred statement hSent)⟩

end Sent

/-- **Filters**: on any table, the conditions of a filter come to one clause for each test, in the
order of the tests, unless the table does not have a column, which is no matter of validation, or
an operand is a list or an object, which is.  There is always a test.  So a mutation that is given a
filter sends nothing unless the filter compiles, and then no statement without a clause for every
test, the insertion of an upsert excepted.  The filters that a search demands, one after another,
come to the clauses of all their tests, and to a plan with these; they hold just if those of each
filter do. -/
theorem filters_bound (schema : Schema ι) (key : ι) :
    (∀ (qualifier : Option String) (filter : Filter), filter.tests ≠ [] ∧
      filter.conditions.compile (schema.table key) qualifier =
        Test.compileAll (schema.table key) qualifier filter.tests ∧
      ((∀ entry ∈ filter.tests, ((schema.table key).column? entry.1).isSome = true) → ∀ e,
        filter.conditions.compile (schema.table key) qualifier = .error e →
          e.kind = .validation)) ∧
    (∀ (filter : Filter) (operation : Operation), filter.Bounds operation →
      ∀ (world : World) (session : Session),
        ∀ statement ∈ session.sentSince (session.perform schema world key operation).2,
          filter.conditions.compile (schema.table key) none =
              .ok (Test.clauses none filter.tests) ∧
            (statement.Under (Test.clauses none filter.tests) ∧
                (∃ front back, statement.sql = front ++ " WHERE " ++
                  String.intercalate " AND " ((Test.clauses none filter.tests).map Expr.sql) ++
                  back) ∨
              (operation.method = .upsert ∧ statement.Inserts))) ∧
    (∀ steps : List SearchStep,
      (∀ qualifier : Option String,
        compileFilter (schema.table key) qualifier (SearchStep.search steps).toOptions.own.filter =
          Test.compileAll (schema.table key) qualifier (SearchStep.tests steps) ∧
        ∀ columns : ColumnRef → Cell × Affinity,
          Sql.allHold columns (Test.clauses qualifier (SearchStep.tests steps)) = true ↔
            ∀ filter ∈ steps.filterMap SearchStep.filter?,
              Sql.allHold columns (Test.clauses qualifier filter.tests) = true) ∧
      ∀ plan, Yields (Plan.build schema key (SearchStep.search steps).toOptions) plan →
        plan.core.predicate =
          Test.clauses (some (schema.table key).name) (SearchStep.tests steps)) := by
  refine ⟨fun qualifier filter => ⟨filter.tests_ne_nil, ?_, fun hKnown e hError => ?_⟩, ?_, ?_⟩
  · exact filter.compile_conditions (schema.table key) qualifier
  · rw [filter.compile_conditions] at hError
    exact Test.kind_of_compileAll hKnown hError
  · intro filter operation hBounds world session statement hSent
    obtain ⟨hTerms, hUnder⟩ := sent_under hBounds world session statement hSent
    have hSome : Test.clauses none filter.tests ≠ [] := Test.clauses_ne_nil filter.tests_ne_nil
    exact ⟨hTerms, hUnder.imp_left fun hUnder => ⟨hUnder, hUnder.sql_eq hSome⟩⟩
  · intro steps
    refine ⟨fun qualifier => ⟨?_, fun columns => ?_⟩, fun plan => SearchStep.predicate_of_build⟩
    · exact SearchStep.compileFilter_search (schema.table key) qualifier steps
    · exact SearchStep.allHold_tests qualifier steps

/-- A filter need not be of columns of the table: then it comes neither to a clause nor to a matter
of validation. -/
theorem stray_filter :
    ¬∀ filter : Filter,
      (∃ e, filter.conditions.compile BuiltIn.usersTable none = .error e ∧
        e.kind = .validation) ∨
      ∃ terms, filter.conditions.compile BuiltIn.usersTable none = .ok terms ∧
        terms.length = filter.tests.length := by
  intro hAll
  have hStray : (Filter.test "shoeSize" (.eq (.list []))).conditions.compile BuiltIn.usersTable
      none = .error (.unknownColumn "users" "shoeSize") := rfl
  rcases hAll (.test "shoeSize" (.eq (.list []))) with ⟨e, hError, hKind⟩ | ⟨terms, hTerms, -⟩
  · rw [hStray] at hError
    cases hError
    cases hKind
  · rw [hStray] at hTerms
    cases hTerms

end Session

end ModelStore
