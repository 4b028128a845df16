import ModelStore.Proofs.Operation.Searching
import ModelStore.Proofs.Query.Keys
import ModelStore.Proofs.Query.Sources

/-!
# What the searches answer

A search for all rows and a search for the first one run the statement of the same plan, the latter
in a window of one row.  What they answer is what the statement answers, and they are refused just
if it is.  A store that refuses changes makes no difference to them.

A row is returned as an object, in which the later of two values under one name would take the place
of the earlier.  The names that a plan shows are distinct, so every value is returned, under the
name of its output and in the order of the select list.

## Main definitions

* `StoreError.refusesColumn`: refusals of a reference.
* `readInPlace`: a row whose outputs are read by their places.

## Main results

* `Session.perform_findMany`, `Session.perform_findFirst`: what the searches answer.
* `Session.names_distinct`: the names of a plan are distinct, and a row has each of them once.
* `Session.references_resolve`: the references of a plan are to one column each, and its rows are
  read at the right places.
-/

namespace ModelStore

variable {ι : Type}

/-! ## Refusals of a search -/

/-- Whether a refusal is that of a reference, which fits no column or several. -/
def StoreError.refusesColumn : StoreError → Bool
  | .noSuchColumn .. | .ambiguousColumn .. => true
  | _ => false

theorem Scope.refusal_forms {scope : Scope} {ref : Sql.ColumnRef} {site : Option Site}
    {e : StoreError} (hRefusal : scope.refusal ref site = some e) :
    e = .noSuchColumn (ColumnRef.cited ref) site ∨
      e = .ambiguousColumn (ColumnRef.cited ref) site := by
  unfold Scope.refusal at hRefusal
  split at hRefusal
  · split at hRefusal
    · cases hRefusal
    · exact .inl (Option.some.inj hRefusal).symm
  · cases hRefusal
  · exact .inr (Option.some.inj hRefusal).symm

section Refusals

variable {plan : Plan} {now : Int} {store : Store} {e : StoreError}

/-- What the check of a plan comes to if it fails. -/
theorem Plan.check_refused (hCheck : plan.check store = .error e) :
    e = .noSuchTable plan.core.table ∨ e = .tooManyResults ∨ e = .tooManyTables tableLimit ∨
      plan.refusalAt store plan.sql 0 = some e := by
  unfold Plan.check at hCheck
  split at hCheck
  · exact .inl (Except.error.inj hCheck).symm
  · split at hCheck
    · exact .inr (.inl (Except.error.inj hCheck).symm)
    · split at hCheck
      · rename_i hRefusal
        exact .inr (.inr (.inr (Except.error.inj hCheck ▸ hRefusal)))
      · split at hCheck
        · exact .inr (.inr (.inl (Except.error.inj hCheck).symm))
        · cases hCheck

/-- Why the statement of a plan is refused: for its text, for its height or by the check. -/
theorem Statement.find_refused (hRun : (Statement.find plan).run now store = .error e) :
    Sql.IsReadingFault e ∨ e = .tooHigh Sql.heightLimit ∨ plan.check store = .error e := by
  rw [Statement.run_find] at hRun
  split at hRun
  · rename_i hFault
    exact .inl (Except.error.inj hRun ▸ Sql.isReadingFault_of_readingFault hFault)
  · split at hRun
    · exact .inr (.inl (Except.error.inj hRun).symm)
    · cases hCheck : plan.check store with
      | ok _ => rw [hCheck] at hRun; cases hRun
      | error other =>
          rw [hCheck] at hRun
          rw [Except.error.inj hRun]
          exact .inr (.inr rfl)

/-- The statement of a plan is not refused for the rows of a table. -/
theorem Statement.concernsRows_of_find (hRun : (Statement.find plan).run now store = .error e) :
    e.concernsRows = false := by
  rcases Statement.find_refused hRun with hFault | rfl | hCheck
  · cases hFault <;> rfl
  · rfl
  · rcases Plan.check_refused hCheck with rfl | rfl | rfl | hRefusal
    · rfl
    · rfl
    · rfl
    · obtain ⟨level, -, ref, -, site, hRef⟩ := Plan.exists_of_refusalAt hRefusal
      rcases Scope.refusal_forms hRef with rfl | rfl <;> rfl

/-- The statement of a plan leaves the store as it was. -/
theorem Statement.find_ok {result : Answer × Store}
    (hRun : (Statement.find plan).run now store = .ok result) :
    result = (⟨(plan.eval store).rows, 0⟩, store) := by
  rw [Statement.run_find] at hRun
  split at hRun
  · cases hRun
  · split at hRun
    · cases hRun
    · cases hCheck : plan.check store with
      | ok _ =>
          rw [hCheck] at hRun
          exact (Except.ok.inj hRun).symm
      | error other => rw [hCheck] at hRun; cases hRun

/-- That a store refuses every change makes no difference to the statement of a plan. -/
theorem Statement.attempt_find (barred : Option StoreError) :
    (Statement.find plan).attempt now store barred = (Statement.find plan).run now store := by
  cases hRun : (Statement.find plan).run now store with
  | ok result => exact Statement.attempt_of_not_changes rfl hRun
  | error e =>
      have hRows := Statement.concernsRows_of_find hRun
      unfold Statement.attempt
      rw [hRun]
      cases barred with
      | none => rfl
      | some refusal => simp [hRows]

/-- A plan of well-named tables is not refused for a reference. -/
theorem Query.PlannedAs.refusesColumn_eq_false {schema : Schema ι} (hNamed : schema.WellNamed)
    (hStore : store.Holds schema) {query : Query ι} {key : ι}
    (hPlanned : query.PlannedAs schema key plan) (hOnce : query.AsksOnce)
    (hRun : (Statement.find plan).run now store = .error e) : e.refusesColumn = false := by
  rcases Statement.find_refused hRun with hFault | rfl | hCheck
  · cases hFault <;> rfl
  · rfl
  · rcases Plan.check_refused hCheck with rfl | rfl | rfl | hRefusal
    · rfl
    · rfl
    · rfl
    · rw [hPlanned.refusalAt_eq_none hNamed hStore hOnce] at hRefusal
      cases hRefusal

end Refusals

/-! ## Operations -/

theorem Plan.outputs_withWindow (plan : Plan) (window : Window) :
    (plan.withWindow window).outputs = plan.outputs := by
  cases plan
  rfl

namespace Session

section Searches

variable {schema : Schema ι} (world : World) (session : Session) {key : ι} {options : FindOptions}
  {plan : Plan} {events : List Event}
  (hBuilt : (Plan.build schema key options).run.run [] = (.ok plan, events))

include hBuilt

/-- The work of a search for the first row is to return the first row of its plan in a window of
one. -/
theorem prepare_findFirst {policy : BulkPolicy} {ids : Nat → String} :
    ((Operation.findFirst options).prepare schema key policy ids).run.run [] =
      (.ok (.first (.find (plan.withWindow ⟨some 1, options.own.skip⟩))), events) := by
  rw [Operation.prepare, ExceptT.run_bind, StateT.run_bind, hBuilt]
  rfl

/-- **Searching for all rows**: the answer is that of the statement of the plan. -/
theorem perform_findMany :
    (session.perform schema world key (.findMany options)).1 =
      match (Statement.find plan).run world.now session.store with
      | .ok (answer, _) => .ok (.rows (answer.records plan.outputs))
      | .error e => .error (.storage e) := by
  rw [perform_of_prepared world session (prepare_findMany hBuilt), Work.run_rows,
    Statement.attempt_find]
  cases (Statement.find plan).run world.now session.store <;> rfl

/-- **Searching for the first row**: the answer is the first row of the plan in a window of one. -/
theorem perform_findFirst :
    (session.perform schema world key (.findFirst options)).1 =
      match (Statement.find (plan.withWindow ⟨some 1, options.own.skip⟩)).run world.now
        session.store with
      | .ok (answer, _) => .ok (.row (answer.records plan.outputs).head?)
      | .error e => .error (.storage e) := by
  rw [perform_of_prepared world session (prepare_findFirst hBuilt), Work.run_first,
    Statement.attempt_find, ← plan.outputs_withWindow ⟨some 1, options.own.skip⟩]
  cases (Statement.find (plan.withWindow ⟨some 1, options.own.skip⟩)).run world.now
    session.store <;> rfl

/-- What a search for all rows answers if it is not refused. -/
theorem outcome_findMany {outcome : Outcome}
    (hOutcome : (session.perform schema world key (.findMany options)).1 = .ok outcome) :
    outcome = .rows ((plan.eval session.store).rows.map (recordOf plan.outputs)) := by
  rw [perform_findMany world session hBuilt] at hOutcome
  split at hOutcome
  · rename_i hRun
    rw [← Except.ok.inj hOutcome, (Prod.mk.inj (Statement.find_ok hRun)).1]
    rfl
  · cases hOutcome

/-- What a search for the first row answers if it is not refused. -/
theorem outcome_findFirst {outcome : Outcome}
    (hOutcome : (session.perform schema world key (.findFirst options)).1 = .ok outcome) :
    outcome = .row ((((plan.withWindow ⟨some 1, options.own.skip⟩).eval session.store).rows.map
      (recordOf plan.outputs)).head?) := by
  rw [perform_findFirst world session hBuilt] at hOutcome
  split at hOutcome
  · rename_i hRun
    rw [← Except.ok.inj hOutcome, (Prod.mk.inj (Statement.find_ok hRun)).1]
    rfl
  · cases hOutcome

end Searches

end Session

/-! ## Rows in place -/

/-- A row whose outputs are read by their places: each under its name, with the cell that stands in
its place. -/
def readInPlace (columns : List OutputColumn) (cells : List Cell) : Record :=
  (columns.zip cells).map fun (column, cell) => (column.name, cell.toJson column.type)

/-- Every output has its name once, in order. -/
theorem names_readInPlace {columns : List OutputColumn} {cells : List Cell}
    (hLength : columns.length ≤ cells.length) :
    (readInPlace columns cells).map (·.1) = columns.map (·.name) := by
  have hFirst : (columns.zip cells).map Prod.fst = columns := List.map_fst_zip hLength
  conv => rhs; rw [← hFirst]
  simp [readInPlace]

/-- Where the names are distinct, no value takes the place of another. -/
theorem recordOf_eq_readInPlace {columns : List OutputColumn} {cells : List Cell}
    (hNodup : (columns.map (·.name)).Nodup) (hLength : columns.length ≤ cells.length) :
    recordOf columns cells = readInPlace columns cells := by
  have hEntries : ((readInPlace columns cells).map (·.1)).Nodup := by
    rw [names_readInPlace hLength]
    exact hNodup
  exact @Fields.setAll_of_nodup _ _ [] hEntries

/-- The rows of a plan whose outputs have distinct names are read by their places. -/
theorem map_recordOf_eq {store : Store} {plan read : Plan}
    (hNodup : (read.outputs.map (·.name)).Nodup) (hOutputs : plan.outputs = read.outputs) :
    (plan.eval store).rows.map (recordOf read.outputs) =
      (plan.eval store).rows.map (readInPlace read.outputs) := by
  refine List.map_congr_left fun cells hCells => ?_
  exact recordOf_eq_readInPlace hNodup (hOutputs ▸ length_outputs_le cells hCells)

/-! ## A nested search -/

theorem builtIn_namesApart : ∀ key, (builtIn.table key).NamesApart := fun key => by
  cases key <;> decide +kernel

/-- The names of the printers, each with the address of its owner and the owner's templates.  The
owner is found by an identifier that is not shown. -/
def ownedPrinters : Json :=
  .object
    [("select", .object [("name", .bool true)]),
      ("include", .object
        [("owner", .object
          [("select", .object [("email", .bool true)]),
            ("include", .object [("templates", .bool true)])])])]

theorem keysDistinct_ownedPrinters : ownedPrinters.KeysDistinct := by
  simp [ownedPrinters, Json.KeysDistinct, Json.FieldsKeysDistinct]

/-- The search for the printers is read, and a plan of three levels is built for it. -/
theorem exists_plan_ownedPrinters : ∃ options plan events,
    decode findShape ownedPrinters = .ok options ∧
      (Plan.build builtIn .printers options).run.run [] = (.ok plan, events) ∧
      plan.nodes.length = 3 := by
  have hTest : ((decode findShape ownedPrinters).toOption.any fun options =>
      ((Plan.build builtIn .printers options).run.run []).1.toOption.any fun plan =>
        decide (plan.nodes.length = 3)) = true := by
    decide +kernel
  obtain ⟨options, hOptions, hPlan⟩ := Option.any_eq_true _ _ |>.mp hTest
  obtain ⟨plan, events, hBuilt, hLevels⟩ := exists_plan_of_test hPlan
  exact ⟨options, plan, events, ok_of_toOption hOptions, hBuilt, of_decide_eq_true hLevels⟩

/-! ## Searches that are read -/

namespace Session

variable {schema : Schema ι} {key : ι} {value : Json} {options : FindOptions} {plan : Plan}
  {events : List Event}

/-- A plan of a search that is read from JSON asks for no relation twice. -/
theorem exists_planned_of_decode (hKeys : value.KeysDistinct)
    (hRead : decode findShape value = .ok options)
    (hBuilt : (Plan.build schema key options).run.run [] = (.ok plan, events)) :
    ∃ query : Query ι, query.PlannedAs schema key plan ∧ query.AsksOnce :=
  ⟨Query.resolve schema key options.own options.includes, planned_of_build hBuilt,
    (namesOnce_of_decode hKeys hRead).asksOnce key⟩

/-- Where the names of the outputs are distinct, the rows that the searches return are read by their
places. -/
theorem outcomes_in_place (hBuilt : (Plan.build schema key options).run.run [] = (.ok plan, events))
    (hNodup : (plan.outputs.map (·.name)).Nodup) (world : World) (session : Session) :
    (∀ outcome, (session.perform schema world key (.findMany options)).1 = .ok outcome →
      outcome = .rows ((plan.eval session.store).rows.map (readInPlace plan.outputs))) ∧
    ∀ outcome, (session.perform schema world key (.findFirst options)).1 = .ok outcome →
      outcome = .row (((plan.withWindow ⟨some 1, options.own.skip⟩).eval
        session.store).rows.map (readInPlace plan.outputs)).head? := by
  constructor
  · intro outcome hOutcome
    rw [outcome_findMany world session hBuilt hOutcome, map_recordOf_eq hNodup rfl]
  · intro outcome hOutcome
    rw [outcome_findFirst world session hBuilt hOutcome,
      map_recordOf_eq hNodup (plan.outputs_withWindow _)]

/-- **Distinct names**: where the names of every table keep apart, the names of a plan of a search
that is read from JSON are distinct, shown or hidden, at every level.  So no value that is fetched
takes the place of another: every row that is returned shows the cells of a row of the plan in their
places, and has the name of each output once, in the order of the select list. -/
theorem names_distinct (hApart : ∀ key, (schema.table key).NamesApart)
    (hKeys : value.KeysDistinct) (hRead : decode findShape value = .ok options)
    (hBuilt : (Plan.build schema key options).run.run [] = (.ok plan, events)) :
    (∀ level ∈ plan.nodes, ((Plan.node level.1 level.2).outputs.map (·.name) ++
      level.1.hidden.map (·.name)).Nodup) ∧
    ∀ (world : World) (session : Session),
      (∀ cells ∈ (plan.eval session.store).rows,
        (readInPlace plan.outputs cells).map (·.1) = plan.outputs.map (·.name)) ∧
      (∀ outcome, (session.perform schema world key (.findMany options)).1 = .ok outcome →
        outcome = .rows ((plan.eval session.store).rows.map (readInPlace plan.outputs))) ∧
      ∀ outcome, (session.perform schema world key (.findFirst options)).1 = .ok outcome →
        outcome = .row (((plan.withWindow ⟨some 1, options.own.skip⟩).eval
          session.store).rows.map (readInPlace plan.outputs)).head? := by
  obtain ⟨query, hPlanned, hOnce⟩ := exists_planned_of_decode hKeys hRead hBuilt
  have hNodup : (plan.outputs.map (·.name)).Nodup :=
    (hPlanned.nodup_outputs hApart hOnce).sublist (List.sublist_append_left _ _)
  constructor
  · intro level hLevel
    obtain ⟨target, other, hLevelPlanned, hOtherOnce⟩ := hPlanned.of_mem_nodes level hLevel
    exact hLevelPlanned.nodup_outputs hApart (hOtherOnce hOnce)
  · intro world session
    refine ⟨fun cells hCells => ?_, outcomes_in_place hBuilt hNodup world session⟩
    exact names_readInPlace (length_outputs_le cells hCells)

/-- The names in the plan of the search for the printers are distinct at each of its three levels,
and its rows have each of them once. -/
theorem names_distinct_ownedPrinters : ∃ (options : FindOptions) (plan : Plan),
    decode findShape ownedPrinters = .ok options ∧ plan.nodes.length = 3 ∧
      (∀ level ∈ plan.nodes, ((Plan.node level.1 level.2).outputs.map (·.name) ++
        level.1.hidden.map (·.name)).Nodup) ∧
      ∀ outcome,
        (deskSession.perform builtIn deskWorld .printers (.findMany options)).1 = .ok outcome →
        outcome = .rows ((plan.eval deskStore).rows.map (readInPlace plan.outputs)) := by
  obtain ⟨options, plan, events, hRead, hBuilt, hLevels⟩ := exists_plan_ownedPrinters
  obtain ⟨hNames, hRows⟩ :=
    names_distinct builtIn_namesApart keysDistinct_ownedPrinters hRead hBuilt
  exact ⟨options, plan, hRead, hLevels, hNames, (hRows deskWorld deskSession).2.1⟩

/-- **References**: in a store whose tables were created from well-named descriptions, every level
of a plan of a search that is read from JSON is in step.  So the store never refuses the search for
a reference, every cell of a row is what the item in its place means, and the rows that are returned
are read by their places. -/
theorem references_resolve (hNamed : schema.WellNamed) (hKeys : value.KeysDistinct)
    (hRead : decode findShape value = .ok options)
    (hBuilt : (Plan.build schema key options).run.run [] = (.ok plan, events)) (session : Session)
    (hStore : session.store.Holds schema) :
    (∀ level ∈ plan.nodes, ∃ target, InStep schema session.store target level.1 level.2) ∧
    (∀ cells ∈ (plan.eval session.store).rows, ∃ bindings, cells =
      (selectItems plan.core plan.joins).map fun item => (Bindings.lookup bindings item.ref).1) ∧
    ∀ world : World,
      (∀ e, (session.perform schema world key (.findMany options)).1 = .error (.storage e) →
        e.refusesColumn = false) ∧
      (∀ e, (session.perform schema world key (.findFirst options)).1 = .error (.storage e) →
        e.refusesColumn = false) ∧
      (∀ outcome, (session.perform schema world key (.findMany options)).1 = .ok outcome →
        outcome = .rows ((plan.eval session.store).rows.map (readInPlace plan.outputs))) ∧
      ∀ outcome, (session.perform schema world key (.findFirst options)).1 = .ok outcome →
        outcome = .row (((plan.withWindow ⟨some 1, options.own.skip⟩).eval
          session.store).rows.map (readInPlace plan.outputs)).head? := by
  obtain ⟨query, hPlanned, hOnce⟩ := exists_planned_of_decode hKeys hRead hBuilt
  have hNodup : (plan.outputs.map (·.name)).Nodup := by
    have hNames := (hPlanned.distinctNames hNamed hOnce).nodup
    rw [names_selectItems, Plan.node_core_joins] at hNames
    exact hNames.sublist (List.sublist_append_left _ _)
  refine ⟨hPlanned.inStep hNamed hStore hOnce, exists_bindings_of_mem_rows,
    fun world => ⟨fun e hError => ?_, fun e hError => ?_,
      outcomes_in_place hBuilt hNodup world session⟩⟩
  · rw [perform_findMany world session hBuilt] at hError
    split at hError
    · cases hError
    · rename_i hRun
      cases hError
      exact hPlanned.refusesColumn_eq_false hNamed hStore hOnce hRun
  · rw [perform_findFirst world session hBuilt] at hError
    split at hError
    · cases hError
    · rename_i hRun
      cases hError
      have hWindow := hPlanned.withWindow ⟨some 1, options.own.skip⟩
      exact hWindow.refusesColumn_eq_false hNamed hStore (Query.asksOnce_withWindow.mpr hOnce) hRun

/-- The three levels of the plan of the search for the printers are in step, and it is not refused
for a reference. -/
theorem references_resolve_ownedPrinters : ∃ (options : FindOptions) (plan : Plan),
    decode findShape ownedPrinters = .ok options ∧ plan.nodes.length = 3 ∧
      (∀ level ∈ plan.nodes, ∃ target, InStep builtIn deskStore target level.1 level.2) ∧
      ∀ e, (deskSession.perform builtIn deskWorld .printers (.findMany options)).1 =
        .error (.storage e) → e.refusesColumn = false := by
  obtain ⟨options, plan, events, hRead, hBuilt, hLevels⟩ := exists_plan_ownedPrinters
  obtain ⟨hSteps, -, hAnswers⟩ := references_resolve builtIn_wellNamed keysDistinct_ownedPrinters
    hRead hBuilt deskSession deskStore_holds
  exact ⟨options, plan, hRead, hLevels, hSteps, (hAnswers deskWorld).1⟩

end Session

end ModelStore
