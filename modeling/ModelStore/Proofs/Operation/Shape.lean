import ModelStore.Proofs.Operation.Names
import ModelStore.Proofs.Operation.Outline
import ModelStore.Proofs.Query.Shape

/-!
# Calls of the same shape

Two calls of a method have the same shape if their arguments differ in nothing but the values in
them.  Such calls are compiled to statements with the same texts and with as many parameters, or
fail for reasons of the same kind, whatever the values are, in whichever session they are made and
whichever identifiers it issues.  So the values of a caller have no influence on any text that is
sent.  His names have some, but only as names of the schema.

## Main definitions

* `SameShape`: arguments of a method that differ in their values only.
* `Work.texts`: the texts of the statements of work, each with the number of its parameters.

## Main results

* `Operation.prepare_outline`: an operation is prepared as its outline is.
* `Session.compile_eq_of_sameShape`: what calls of the same shape have in common.
-/

namespace ModelStore

open Sql (textOf)

/-! ## Work up to values -/

namespace Work

/-- Work with the values of its statements changed. -/
def mapValues (f : Cell → Cell) : Work → Work
  | rows statement => rows (statement.mapValues f)
  | first statement => first (statement.mapValues f)
  | only statement => only (statement.mapValues f)
  | number statement => number (statement.mapValues f)
  | upsert lookup change insertion =>
    upsert (lookup.mapValues f) (change.map (Statement.mapValues f)) (insertion.mapValues f)

/-- The texts of the statements of work, each with the number of its parameters. -/
def texts (work : Work) : List (String × Nat) :=
  work.statements.map fun statement => (statement.sql, statement.params.length)

theorem statements_mapValues (f : Cell → Cell) (work : Work) :
    (work.mapValues f).statements = work.statements.map (Statement.mapValues f) := by
  cases work with
  | upsert lookup change insertion => cases change <;> rfl
  | _ => rfl

/-- The texts do not depend on the values. -/
theorem texts_mapValues (f : Cell → Cell) (work : Work) : (work.mapValues f).texts = work.texts := by
  rw [texts, texts, statements_mapValues, List.map_map]
  refine List.map_congr_left fun statement _ => ?_
  rw [Function.comp_apply, statement.sql_mapValues, statement.params_mapValues, List.length_map]

end Work

theorem Plan.withWindow_mapValues (f : Cell → Cell) (window : Window) (plan : Plan) :
    (plan.withWindow window).mapValues f = (plan.mapValues f).withWindow window := by
  obtain ⟨core, joins⟩ := plan
  rw [withWindow, mapValues, mapValues]
  rfl

/-! ## Preparation -/

section Prepare

variable {ι : Type}

/-- Work with one statement, of which two are the same up to values. -/
theorem prepare_congr {make : Statement → Work} {x y : Except Error Statement}
    (hMake : ∀ statement : Statement,
      (make statement).mapValues Cell.blank = make (statement.mapValues Cell.blank))
    (hSame : Statement.mapValues Cell.blank <$> x = Statement.mapValues Cell.blank <$> y) :
    Work.mapValues Cell.blank <$> (do return make (← liftExcept x) : Reporting Work) =
      Work.mapValues Cell.blank <$> (do return make (← liftExcept y) : Reporting Work) := by
  have hLifted : Statement.mapValues Cell.blank <$> liftExcept x =
      Statement.mapValues Cell.blank <$> liftExcept y := by
    rw [map_liftExcept, map_liftExcept, hSame]
  refine Reporting.map_bind_congr hLifted fun statement other hStatement => ?_
  rw [map_pure, map_pure, hMake, hMake, hStatement]

/-- The policy looks at whether there is a condition, not at its values. -/
theorem checkBulk_outline (policy : BulkPolicy) (table : String) (filter : Option Conditions)
    (operation : BulkOperation) :
    checkBulk policy table (filter.map Conditions.outline) operation =
      checkBulk policy table filter operation := by
  cases filter <;> rfl

/-- A bulk mutation, of whose statement the policy makes the same. -/
theorem prepare_bulk_congr (policy : BulkPolicy) (table : String) (filter : Option Conditions)
    (operation : BulkOperation) {x y : Except Error Statement}
    (hSame : Statement.mapValues Cell.blank <$> x = Statement.mapValues Cell.blank <$> y) :
    Work.mapValues Cell.blank <$> (do
        let statement ← liftExcept x
        checkBulk policy table (filter.map Conditions.outline) operation
        return .number statement : Reporting Work) =
      Work.mapValues Cell.blank <$> (do
        let statement ← liftExcept y
        checkBulk policy table filter operation
        return .number statement : Reporting Work) := by
  have hLifted : Statement.mapValues Cell.blank <$> liftExcept x =
      Statement.mapValues Cell.blank <$> liftExcept y := by
    rw [map_liftExcept, map_liftExcept, hSame]
  refine Reporting.map_bind_congr hLifted fun statement other hStatement => ?_
  rw [checkBulk_outline]
  refine Reporting.map_bind_congr (h := id) rfl fun _ _ _ => ?_
  simp only [map_pure, Work.mapValues, hStatement]

/-- Conditions constrain something just if others do that are the same up to values. -/
theorem isEmpty_of_blankTerms {terms others : List Sql.Expr}
    (hTerms : Sql.blankTerms terms = Sql.blankTerms others) : terms.isEmpty = others.isEmpty := by
  simpa [Sql.blankTerms] using congrArg List.isEmpty hTerms

/-- The condition of an upsert is accepted just if its outline is. -/
theorem requireConditions_outline (table : Table ι) (filter : Option Conditions) :
    requireConditions table (filter.map Conditions.outline) =
      Conditions.outline <$> requireConditions table filter := by
  cases filter with
  | none => rfl
  | some conditions =>
      rw [Option.map_some, requireConditions, requireConditions, map_bind, ← id_map (_ >>= _),
        ← id_map (_ >>= fun _ => _ <$> _)]
      refine Except.map_bind_congr (conditions.compile_outline table none)
        fun terms others hTerms => ?_
      rw [isEmpty_of_blankTerms hTerms]
      split <;> rfl

namespace Operation

/-- The statements of an upsert are the same up to values, and so are the reasons not to have
them. -/
theorem prepareUpsert_outline (table : Table ι) (ids ids' : Nat → String)
    (options : UpsertOptions) :
    Work.mapValues Cell.blank <$> prepareUpsert table ids'
        ⟨options.filter.map Conditions.outline, options.update.outline, options.create.outline⟩ =
      Work.mapValues Cell.blank <$> prepareUpsert table ids options := by
  rw [prepareUpsert, prepareUpsert, requireConditions_outline, bind_map_left]
  refine Except.map_bind_congr (h := id) rfl fun conditions other hConditions => ?_
  obtain rfl : conditions = other := hConditions
  have hInsertion := table.insertion_outline ids ids' options.create
  refine Except.map_bind_congr (table.lookup_outline (some conditions))
    fun lookup lookup' hLookup => ?_
  dsimp only
  rw [options.update.isEmpty_outline]
  split
  · rw [pure_bind, pure_bind]
    refine Except.map_bind_congr hInsertion fun insertion insertion' hInsertion => ?_
    simp only [map_pure, Work.mapValues, hLookup, hInsertion]
  · have hSome (x : Except Error Statement) :
        Option.map (Statement.mapValues Cell.blank) <$> (some <$> x) =
          some <$> (Statement.mapValues Cell.blank <$> x) := by
      cases x <;> rfl
    have hChange := table.change_outline (some conditions) options.update true
    rw [Option.map_some] at hChange
    refine Except.map_bind_congr (by rw [hSome, hSome, hChange]) fun change change' hSame => ?_
    refine Except.map_bind_congr hInsertion fun insertion insertion' hInsertion => ?_
    simp only [map_pure, Work.mapValues, hLookup, hInsertion, hSame]

/-- A plan is made into the same work up to values if it is the same up to values. -/
theorem prepare_plan_congr {make : Plan → Work} {x y : Reporting Plan}
    (hMake : ∀ plan other : Plan, plan.mapValues Cell.blank = other.mapValues Cell.blank →
      (make plan).mapValues Cell.blank = (make other).mapValues Cell.blank)
    (hSame : Plan.mapValues Cell.blank <$> x = Plan.mapValues Cell.blank <$> y) :
    Work.mapValues Cell.blank <$> (do return make (← x) : Reporting Work) =
      Work.mapValues Cell.blank <$> (do return make (← y) : Reporting Work) := by
  refine Reporting.map_bind_congr hSame fun plan other hPlan => ?_
  rw [map_pure, map_pure, hMake plan other hPlan]

/-- **An operation is prepared as its outline is**, up to the values, and whichever identifiers it
is given. -/
theorem prepare_outline (schema : Schema ι) (key : ι) (policy : BulkPolicy)
    (ids ids' : Nat → String) (operation : Operation) :
    Work.mapValues Cell.blank <$> operation.outline.prepare schema key policy ids' =
      Work.mapValues Cell.blank <$> operation.prepare schema key policy ids := by
  cases operation with
  | findFirst options =>
      refine prepare_plan_congr (fun plan other hPlan => ?_)
        (buildPlan_outline options.own options.includes _ key)
      simp only [Work.mapValues, Statement.mapValues, Plan.withWindow_mapValues, hPlan]
  | findMany options =>
      refine prepare_plan_congr (fun plan other hPlan => ?_)
        (buildPlan_outline options.own options.includes _ key)
      simp only [Work.mapValues, Statement.mapValues, hPlan]
  | create options =>
      exact prepare_congr (fun _ => rfl) ((schema.table key).insertion_outline ids ids' options.data)
  | update options =>
      exact prepare_congr (fun _ => rfl)
        ((schema.table key).change_outline (some options.filter) options.data true)
  | updateMany options =>
      exact prepare_bulk_congr policy _ options.filter .updateMany
        ((schema.table key).change_outline options.filter options.data false)
  | updateAll options =>
      exact prepare_congr (fun _ => rfl)
        ((schema.table key).change_outline none options.data false)
  | upsert options =>
      rw [outline, prepare, prepare, map_liftExcept, map_liftExcept, prepareUpsert_outline]
  | delete options =>
      exact prepare_congr (fun _ => rfl)
        ((schema.table key).removal_outline (some options.filter) true)
  | deleteMany options =>
      exact prepare_bulk_congr policy _ options.filter .deleteMany
        ((schema.table key).removal_outline options.filter false)
  | deleteAll => rfl
  | count options =>
      exact prepare_congr (fun _ => rfl) ((schema.table key).counting_outline options.filter)

/-- Operations of the same outline are prepared to the same texts. -/
theorem texts_congr (schema : Schema ι) (key : ι) (policy : BulkPolicy) (ids ids' : Nat → String)
    {operation other : Operation} (hOutline : operation.outline = other.outline) :
    ((operation.prepare schema key policy ids).run.run []).1.map Work.texts =
      ((other.prepare schema key policy ids').run.run []).1.map Work.texts := by
  have hSame : Work.mapValues Cell.blank <$> operation.prepare schema key policy ids =
      Work.mapValues Cell.blank <$> other.prepare schema key policy ids' := by
    rw [← operation.prepare_outline schema key policy ids ids, hOutline, prepare_outline]
  have hTexts (step : Reporting Work) :
      ((Work.mapValues Cell.blank <$> step).run.run []).1.map Work.texts =
        (step.run.run []).1.map Work.texts := by
    rw [Reporting.run_map]
    cases (step.run.run []).1 with
    | error e => rfl
    | ok work => exact congrArg Except.ok (work.texts_mapValues Cell.blank)
  rw [← hTexts, hSame, hTexts]

end Operation

end Prepare

/-! ## Calls -/

/-- Arguments of a method that have the same keys, in the same order at every level, and lists of
the same lengths, and differ in nothing but values: scalars that are operands of conditions, or
values of payloads, and no null operand stands for another one. -/
def SameShape (method : Method) (a b : Json) : Prop :=
  outlineArguments method a = outlineArguments method b

/-- Arguments of the same shape are read as operations of the same outline, or not at all. -/
theorem SameShape.cases_on {method : Method} {a b : Json} (hShape : SameShape method a b) :
    (∃ failure failure', Operation.ofJson method a = .error failure ∧
      Operation.ofJson method b = .error failure') ∨
    ∃ operation other, Operation.ofJson method a = .ok operation ∧
      Operation.ofJson method b = .ok other ∧ operation.outline = other.outline := by
  have hSame : (Operation.ofJson method a).toOption.map Operation.outline =
      (Operation.ofJson method b).toOption.map Operation.outline := by
    rw [Operation.ofJson, Operation.ofJson, ← commutes_ofOptions, ← commutes_ofOptions]
    exact congrArg (fun options => (Operation.ofOptions method options).toOption) hShape
  cases hA : Operation.ofJson method a with
  | error failure =>
      cases hB : Operation.ofJson method b with
      | error failure' => exact .inl ⟨failure, failure', rfl, rfl⟩
      | ok other => rw [hA, hB] at hSame; cases hSame
  | ok operation =>
      cases hB : Operation.ofJson method b with
      | error failure' => rw [hA, hB] at hSame; cases hSame
      | ok other =>
          rw [hA, hB] at hSame
          exact .inr ⟨operation, other, rfl, rfl, Option.some.inj hSame⟩

namespace Session

variable {ι : Type} {schema : Schema ι} {world world' : World} {key : ι} {method : Method}
  {args args' : Json} {session session' : Session}

/-- Calls of the same shape are compiled to the same texts, or fail for reasons of the same
kind. -/
theorem compile_congr (hPolicy : session.policy = session'.policy)
    (hShape : SameShape method args args') :
    ((session.compile schema world key method args).map Work.texts).mapError Error.kind =
      ((session'.compile schema world' key method args').map Work.texts).mapError Error.kind := by
  rcases hShape.cases_on with
    ⟨failure, failure', hArgs, hArgs'⟩ | ⟨operation, other, hArgs, hArgs', hOutline⟩
  · rw [compile, compile, hArgs, hArgs']
    rfl
  · rw [compile, compile, hArgs, hArgs', hPolicy]
    exact congrArg _ (Operation.texts_congr schema key session'.policy _ _ hOutline)

/-- **Shapes**: calls of the same shape are compiled to the same texts with as many parameters
each, or fail for reasons of the same kind.  The texts are made of words, placeholders and quoted
names of the schema.  What a call sends is among what it is compiled to. -/
theorem compile_eq_of_sameShape (schema : Schema ι) (world world' : World) (key : ι)
    (hPolicy : session.policy = session'.policy) (hShape : SameShape method args args') :
    ((session.compile schema world key method args).map Work.texts).mapError Error.kind =
      ((session'.compile schema world' key method args').map Work.texts).mapError Error.kind ∧
    (∀ work, session.compile schema world key method args = .ok work →
      ∀ statement ∈ work.statements, statement.sql.toList = textOf statement.pieces ∧
        ∀ piece ∈ statement.pieces, piece.Uses schema.Names) ∧
    ∀ statement ∈ session.sentSince (session.dispatch schema world key method args).2,
      ∃ work, session.compile schema world key method args = .ok work ∧
        statement ∈ work.statements := by
  refine ⟨compile_congr hPolicy hShape, fun work hCompile statement hStatement => ?_,
    fun statement hSent => ?_⟩
  · have hNames := namesHave_of_compile schema.namesHave_names hCompile statement hStatement
    exact ⟨statement.textOf_pieces, hNames.uses_pieces⟩
  · cases hCompile : session.compile schema world key method args with
    | error e =>
        rw [(dispatch_of_compile_error hCompile).2.1] at hSent
        cases hSent
    | ok work =>
        rw [(dispatch_of_compile hCompile).2] at hSent
        exact ⟨work, rfl, work.sent_subset _ _ _ statement hSent⟩

/-- An upsert of the first user. -/
def friendlyUpsert : Json :=
  .object
    [ ("where", .object [("email", .text "ada@desk"), ("name", .object [("ne", .null)])])
    , ("update", .object [("name", .text "Ada")])
    , ("create", .object [("name", .text "Ada"), ("email", .text "ada@desk")]) ]

/-- An upsert of the same shape, whose values look like parts of statements. -/
def hostileUpsert : Json :=
  .object
    [ ("where", .object [("email", .text "x\" OR 0 = 0"), ("name", .object [("ne", .null)])])
    , ("update", .object [("name", .int 7)])
    , ("create", .object [("name", .null), ("email", .text "?); DROP TABLE users")]) ]

/-- Both upserts are compiled, in different sessions, to the same three texts. -/
theorem compile_eq_of_sameShape_upsert :
    (deskSession.compile builtIn deskWorld .users .upsert friendlyUpsert).isOk = true ∧
      ((deskSession.compile builtIn deskWorld .users .upsert friendlyUpsert).map
          Work.texts).mapError Error.kind =
        ((rivalSession.compile builtIn ⟨1, fun _ => "other"⟩ .users .upsert hostileUpsert).map
          Work.texts).mapError Error.kind := by
  have hShape : SameShape .upsert friendlyUpsert hostileUpsert := by
    rfl
  exact ⟨by decide +kernel,
    (compile_eq_of_sameShape builtIn deskWorld ⟨1, fun _ => "other"⟩ .users rfl hShape).1⟩

end Session

end ModelStore
