import ModelStore.Proofs.Operation.Detection
import ModelStore.Proofs.Operation.Finding
import ModelStore.Proofs.Operation.Written
import ModelStore.Proofs.Query.Repeating
import ModelStore.Proofs.Query.Sizes

/-!
# What searches that are built answer

A search that is built by steps is refused before the store is touched if it comes back to a table
or compares with what is no cell.  Otherwise it has a plan, which the store runs unless a relation
is asked for twice on one level: such a plan is refused by the store, for a reference that fits
several columns.

Of the limits of the store only those on parameters and on the height of a conjunction matter to a
search of the built-in tables that asks for no relation twice: its plan is never too wide.

## Main results

* `Query.PlannedAs.find_repeating`: the statement of a plan that asks for a relation twice fails.
* `Session.answers_of_steps`: what the searches answer that are built by steps.
-/

namespace ModelStore

open SearchStep (AllKnown levels relations search)

variable {ι : Type}

/-! ## Statements -/

/-- **Refusal**: the statement of a plan that asks for a relation twice fails, within the limits of
the store for a reference that fits several columns. -/
theorem Query.PlannedAs.find_repeating {schema : Schema ι} (hNamed : schema.WellNamed)
    (hLegible : schema.LegibleRelations) {store : Store} (hStore : store.Holds schema)
    {query : Query ι} {key : ι} {plan : Plan} (hPlanned : query.PlannedAs schema key plan)
    (hRepeats : ¬query.AsksOnce) (now : Int) :
    ∃ e, (Statement.find plan).run now store = .error e ∧
      (plan.WithinLimits → ∃ cited site, e = .ambiguousColumn cited site) := by
  have hTable : plan.core.table = (schema.table key).name := hPlanned.own_planned.table_eq
  obtain ⟨stored, hStored, -⟩ := hStore key
  obtain ⟨refusal, hRefusal⟩ : ∃ e, plan.refusalAt store plan.sql 0 = some e :=
    hPlanned.exists_refusal hNamed hRepeats
  rw [Statement.run_find]
  cases hFault : Sql.readingFault plan.sql with
  | some fault =>
      refine ⟨fault, rfl, fun hLimits => ?_⟩
      rw [(hPlanned.readingFault_eq_none_iff hNamed hLegible hStore).mpr hLimits.params] at hFault
      cases hFault
  | none =>
      cases hHigh : plan.isTooHigh with
      | true => exact ⟨_, rfl, fun hLimits => absurd hHigh (by rw [hLimits.height]; decide)⟩
      | false =>
          rw [Plan.check, hTable, hStored]
          cases hColumns : plan.showsTooMany with
          | true => exact ⟨_, rfl, fun hLimits => absurd hColumns (by rw [hLimits.columns]; decide)⟩
          | false =>
              dsimp only
              rw [hRefusal]
              exact ⟨refusal, rfl, fun _ =>
                hPlanned.ambiguous_of_refusalAt hNamed hStore hRefusal⟩

/-- A plan in another window is as large. -/
theorem Plan.withinLimits_withWindow {plan : Plan} {window : Window} :
    (plan.withWindow window).WithinLimits ↔ plan.WithinLimits := by
  obtain ⟨core, joins⟩ := plan
  exact ⟨fun h => ⟨h.params, h.height, h.columns, h.joins⟩,
    fun h => ⟨h.params, h.height, h.columns, h.joins⟩⟩

/-- A plan is planned from a search in another window if it is one in another window. -/
theorem Query.PlannedAs.of_windows {schema : Schema ι} {query : Query ι} {key : ι} {plan : Plan}
    (hPlanned : query.PlannedAs schema key plan) {window : Window} {read : Plan}
    (hRead : read ∈ [plan, plan.withWindow window]) :
    ∃ other : Query ι, other.PlannedAs schema key read ∧ (other.AsksOnce ↔ query.AsksOnce) ∧
      (read.WithinLimits ↔ plan.WithinLimits) := by
  rcases List.mem_pair.mp hRead with rfl | rfl
  · exact ⟨query, hPlanned, Iff.rfl, Iff.rfl⟩
  · exact ⟨query.withWindow window, hPlanned.withWindow window, Query.asksOnce_withWindow,
      Plan.withinLimits_withWindow⟩

/-! ## Operations -/

namespace Session

section Searches

variable {schema : Schema ι} {world : World} {session : Session} {key : ι}
  {options : FindOptions} {events : List Event}

/-- A search without a plan is refused before the store is touched. -/
theorem refused_of_build {e : Error}
    (hBuilt : (Plan.build schema key options).run.run [] = (.error e, events)) :
    ∀ operation ∈ options.operations,
      (session.perform schema world key operation).1 = .error e ∧
        session.Untouched (session.perform schema world key operation).2 := by
  intro operation hOperation
  have hPrepared : (operation.prepare schema key session.policy
      fun k => world.freshId (session.issued + k)).run.run [] = (.error e, events) := by
    rcases List.mem_cons.mp hOperation with rfl | hFirst
    · rw [Operation.prepare, ExceptT.run_bind, StateT.run_bind, hBuilt]
      rfl
    · rw [List.mem_singleton.mp hFirst, Operation.prepare, ExceptT.run_bind, StateT.run_bind,
        hBuilt]
      rfl
  obtain ⟨hFails, hSent⟩ := sentSince_of_prepare_error hPrepared
  exact ⟨hFails, hSent, perform_store_of_error (Prod.ext hFails rfl)⟩

/-- A search with a plan answers as the statement of the plan does, maybe in another window. -/
theorem exists_statement {plan : Plan}
    (hBuilt : (Plan.build schema key options).run.run [] = (.ok plan, events)) :
    ∀ operation ∈ options.operations,
      ∃ read ∈ [plan, plan.withWindow ⟨some 1, options.own.skip⟩],
        (∀ result, (Statement.find read).run world.now session.store = .ok result →
          ∃ outcome, (session.perform schema world key operation).1 = .ok outcome) ∧
        ∀ e, (Statement.find read).run world.now session.store = .error e →
          (session.perform schema world key operation).1 = .error (.storage e) := by
  intro operation hOperation
  rcases List.mem_cons.mp hOperation with rfl | hFirst
  · refine ⟨plan, List.mem_cons_self, fun result hRun => ?_, fun e hRun => ?_⟩ <;>
      rw [perform_findMany world session hBuilt, hRun]
    exact ⟨_, rfl⟩
  · rw [List.mem_singleton.mp hFirst]
    refine ⟨_, List.mem_cons_of_mem _ (List.mem_singleton_self _), fun result hRun => ?_,
      fun e hRun => ?_⟩ <;> rw [perform_findFirst world session hBuilt, hRun]
    exact ⟨_, rfl⟩

end Searches

end Session

/-! ## The built-in tables -/

theorem builtIn_refersToColumns : builtIn.RefersToColumns := fun key => by
  cases key <;> decide +kernel

theorem builtIn_bounded : builtIn.Bounded 6 2 where
  columns_le := fun key => by cases key <;> decide +kernel
  relations_le := fun key => by cases key <;> decide +kernel

/-- A plan of the built-in tables that joins no relation twice is never too wide. -/
theorem withinLimits_of_once {key : BuiltIn} {options : FindOptions} {plan : Plan}
    {events : List Event}
    (hBuilt : (Plan.build builtIn key options).run.run [] = (.ok plan, events))
    {query : Query BuiltIn} (hPlanned : query.PlannedAs builtIn key plan) (hOnce : query.AsksOnce)
    (hParams : plan.params.length ≤ Sql.placeholderLimit) (hHeight : plan.isTooHigh = false) :
    plan.WithinLimits := by
  have hNames : ∀ key, (builtIn.table key).name ∈
      ({"users", "printers", "invoice_templates"} : Finset String) := fun key => by
    cases key <;> decide
  have hWithin : plan.Within 2 := within_of_build hNames hBuilt
  obtain ⟨hColumns, hJoins⟩ :=
    hPlanned.fits builtIn_wellNamed builtIn_bounded hOnce hWithin (by decide) (by decide)
  exact ⟨hParams, hHeight, hColumns, hJoins⟩

namespace Session

variable {session : Session} (hStore : session.store.Holds builtIn) {key : BuiltIn}
  {steps : List SearchStep} (hKnown : AllKnown builtIn key steps)

include hStore hKnown

/-- **Searches that are built by steps**: a search of the built-in tables that names what is there
has a plan, or it comes back to a table or compares with what is no cell, and is refused before the
store is touched.  With a plan it is answered, up to the limits on parameters and on the height of a
conjunction, unless a relation is asked for twice on one level.  Then the store refuses it, within
its limits for a reference that fits several columns. -/
theorem answers_of_steps (world : World) :
    ∀ operation ∈ (search steps).toOptions.operations,
      (∀ e events,
        (Plan.build builtIn key (search steps).toOptions).run.run [] = (.error e, events) →
          KnownFault e ∧ (session.perform builtIn world key operation).1 = .error e ∧
            session.Untouched (session.perform builtIn world key operation).2) ∧
      ∀ plan events,
        (Plan.build builtIn key (search steps).toOptions).run.run [] = (.ok plan, events) →
          ((∀ level ∈ levels steps, (relations level).Nodup) →
            plan.params.length ≤ Sql.placeholderLimit → plan.isTooHigh = false →
              ∃ outcome, (session.perform builtIn world key operation).1 = .ok outcome) ∧
          (¬(∀ level ∈ levels steps, (relations level).Nodup) →
            ∃ e, (session.perform builtIn world key operation).1 = .error (.storage e) ∧
              (plan.WithinLimits → ∃ cited site, e = .ambiguousColumn cited site)) := by
  intro operation hOperation
  constructor
  · intro e events hBuilt
    have hFirst : FailsFirst ((search steps).toOptions.faults builtIn key)
        ((Plan.build builtIn key (search steps).toOptions).run.run []).1 :=
      first_build key (search steps).toOptions []
    rw [hBuilt] at hFirst
    exact ⟨SearchStep.knownFault_of_mem_faults builtIn_refersToColumns hKnown e
      (List.mem_of_head? hFirst.1), refused_of_build hBuilt operation hOperation⟩
  · intro plan events hBuilt
    have hPlanned : (Query.resolve builtIn key (search steps).toOptions.own
        (search steps).toOptions.includes).PlannedAs builtIn key plan :=
      planned_of_build hBuilt
    have hSteps := SearchStep.asksOnce_iff hKnown
    obtain ⟨read, hRead, hAnswered, hRefused⟩ :
        ∃ read ∈ [plan, plan.withWindow ⟨some 1, (search steps).toOptions.own.skip⟩], _ ∧ _ :=
      exists_statement hBuilt operation hOperation
    obtain ⟨query, hReadPlanned, hOnce, hLimits⟩ := hPlanned.of_windows hRead
    constructor
    · intro hLevels hParams hHeight
      have hWithin : plan.WithinLimits :=
        withinLimits_of_once hBuilt hPlanned (hSteps.mpr hLevels) hParams hHeight
      have hRun := (hReadPlanned.run_find builtIn_wellNamed builtIn_legibleRelations hStore
        (hOnce.mpr (hSteps.mpr hLevels)) world.now).1 (hLimits.mpr hWithin)
      exact hAnswered _ hRun
    · intro hTwice
      obtain ⟨e, hRun, hAmbiguous⟩ := hReadPlanned.find_repeating builtIn_wellNamed
        builtIn_legibleRelations hStore (fun hAll => hTwice (hSteps.mp (hOnce.mp hAll))) world.now
      exact ⟨e, hRefused e hRun, fun hWithin => hAmbiguous (hLimits.mpr hWithin)⟩

omit hStore hKnown

/-- The users with their printers, and these once more. -/
def printersTwice : List SearchStep := [.joinAll "printers", .joinAll "printers"]

/-- The users with their printers and their templates, sorted by two keys. -/
def printersOnce : List SearchStep :=
  [.joinAll "printers", .orderBy "name" .ascending, .join "templates" [.take 1],
    .orderBy "id" .descending]

/-- Users are not found with their printers if these are asked for twice, and are found if they are
asked for once. -/
theorem answers_of_printers :
    (∃ cited site,
      (deskSession.perform builtIn deskWorld .users
        (.findMany (search printersTwice).toOptions)).1 =
          .error (.storage (.ambiguousColumn cited site))) ∧
    ∃ outcome, (deskSession.perform builtIn deskWorld .users
      (.findFirst (search printersOnce).toOptions)).1 = .ok outcome := by
  have hStore : deskSession.store.Holds builtIn := deskStore_holds
  have hWithin : ∀ steps ∈ [printersTwice, printersOnce],
      (((Plan.build builtIn .users (search steps).toOptions).run.run []).1.toOption.any
        fun plan => decide plan.WithinLimits) = true := by
    decide +kernel
  have hColumns : ((builtIn.table .users).column? "name").isSome = true ∧
      ((builtIn.table .users).column? "id").isSome = true := by
    decide +kernel
  constructor
  · have hKnown : AllKnown builtIn .users printersTwice := ⟨⟨_, rfl⟩, ⟨_, rfl⟩, trivial⟩
    obtain ⟨plan, events, hBuilt, hTest⟩ :=
      exists_plan_of_test (hWithin printersTwice List.mem_cons_self)
    obtain ⟨-, hPlan⟩ := answers_of_steps hStore hKnown deskWorld
      (.findMany (search printersTwice).toOptions) List.mem_cons_self
    obtain ⟨e, hFails, hAmbiguous⟩ := (hPlan plan events hBuilt).2 (by decide +kernel)
    obtain ⟨cited, site, rfl⟩ := hAmbiguous (of_decide_eq_true hTest)
    exact ⟨cited, site, hFails⟩
  · have hKnown : AllKnown builtIn .users printersOnce :=
      ⟨⟨_, rfl⟩, hColumns.1, ⟨_, rfl, trivial, trivial⟩, hColumns.2, trivial⟩
    obtain ⟨plan, events, hBuilt, hTest⟩ := exists_plan_of_test
      (hWithin printersOnce (List.mem_cons_of_mem _ (List.mem_singleton_self _)))
    obtain ⟨-, hPlan⟩ := answers_of_steps hStore hKnown deskWorld
      (.findFirst (search printersOnce).toOptions)
      (List.mem_cons_of_mem _ (List.mem_singleton_self _))
    have hLimits : plan.WithinLimits := of_decide_eq_true hTest
    exact (hPlan plan events hBuilt).1 (by decide +kernel) hLimits.params hLimits.height

end Session

end ModelStore
