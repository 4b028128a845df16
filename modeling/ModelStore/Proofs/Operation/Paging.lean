import ModelStore.Proofs.Operation.Finding
import ModelStore.Proofs.Operation.Framing
import ModelStore.Proofs.Query.Resolving
import ModelStore.Proofs.Query.Windows

/-!
# Searches page by page

How many rows a search leaves out and how many it keeps at most cuts what it returns, and nothing
else: whatever the tables, the conditions and the relations that are asked for, all of its pages are
cut from the same rows.  A search for the first row returns the one behind those that are left out,
however many are to be kept.  Pages of one size that follow each other have every row once.

Where the store refuses the search, it refuses all of its pages.

## Main results

* `Statement.find_withWindow`: a plan is run in every window or in none.
* `Session.pages_of_search`: what the pages of a search return.
-/

namespace ModelStore

variable {ι : Type}

/-! ## The statement of a plan -/

section Statements

variable (plan : Plan) (now : Int) (store : Store)

/-- A plan is run just if its text is read, no conjunction is too high and the check succeeds. -/
theorem Statement.run_find_eq_ok_iff {plan : Plan} {now : Int} {store : Store}
    {result : Answer × Store} :
    (Statement.find plan).run now store = .ok result ↔
      (Sql.readingFault plan.sql = none ∧ plan.isTooHigh = false ∧ plan.check store = .ok ()) ∧
        (⟨(plan.eval store).rows, 0⟩, store) = result := by
  rw [Statement.run_find]
  cases Sql.readingFault plan.sql with
  | some fault => simp
  | none =>
      cases plan.isTooHigh with
      | true => simp
      | false => cases plan.check store <;> simp [Except.map]

/-- **Windows**: a plan is run in every window, and its rows are cut to the window, or it is refused
in every window. -/
theorem Statement.find_withWindow :
    (∃ rows : List (List Cell), ∀ window,
      (Statement.find (plan.withWindow window)).run now store =
        .ok (⟨window.apply rows, 0⟩, store)) ∨
    ∀ window, ∃ e, (Statement.find (plan.withWindow window)).run now store = .error e := by
  have hHigh : ∀ window, (plan.withWindow window).isTooHigh = plan.isTooHigh := by
    intro window
    cases plan
    rfl
  by_cases hRuns : Sql.readingFault plan.sql = none ∧ plan.isTooHigh = false ∧
    plan.check store = .ok ()
  · refine .inl ⟨((plan.withWindow ⟨none, none⟩).eval store).rows, fun window => ?_⟩
    rw [Statement.run_find_eq_ok_iff, plan.readingFault_withWindow, hHigh, plan.check_withWindow,
      plan.rows_withWindow]
    exact ⟨hRuns, rfl⟩
  · refine .inr fun window => ?_
    cases hRun : (Statement.find (plan.withWindow window)).run now store with
    | error e => exact ⟨e, rfl⟩
    | ok result =>
        rw [Statement.run_find_eq_ok_iff, plan.readingFault_withWindow, hHigh,
          plan.check_withWindow] at hRun
        exact absurd hRun.1 hRuns

end Statements

/-! ## Searches -/

namespace Session

section Searches

variable {schema : Schema ι} (world : World) (session : Session) {key : ι} {options : FindOptions}

/-- **Pages**: let a search have a plan.  Then there are rows, those that it returns if nothing is
left out, such that it returns a part of them in every window: without the first so many, and of the
others so many at most.  A search for the first row returns the first that is not left out, however
many are to be kept, or none.  The pages of one size, one after another, are these rows, and the
first that is empty comes when all rows have been returned.  Otherwise the store refuses the search
in every window. -/
theorem pages_of_search
    (hBuilds : ∃ plan events, (Plan.build schema key options).run.run [] = (.ok plan, events)) :
    (∃ rows : List Record,
      (session.perform schema world key (.findMany (options.paged none none))).1 =
        .ok (.rows rows) ∧
      (∀ take skip,
        (session.perform schema world key (.findMany (options.paged take skip))).1 =
          .ok (.rows ((rows.drop (skip.getD 0)).take (take.getD rows.length)))) ∧
      (∀ take skip,
        (session.perform schema world key (.findFirst (options.paged take skip))).1 =
          .ok (.row rows[skip.getD 0]?)) ∧
      ∀ size > 0, ∃ pages : Nat → List Record,
        (∀ k, (session.perform schema world key
          (.findMany (options.paged (some size) (some (k * size))))).1 = .ok (.rows (pages k))) ∧
        (∀ k, pages k = [] ↔ rows.length ≤ k * size) ∧
        ∀ count, rows.length ≤ count * size → (List.range count).flatMap pages = rows) ∨
    ∀ take skip,
      (∃ e, (session.perform schema world key (.findMany (options.paged take skip))).1 =
        .error (.storage e)) ∧
      ∃ e, (session.perform schema world key (.findFirst (options.paged take skip))).1 =
        .error (.storage e) := by
  obtain ⟨plan, events, hBuilt⟩ := hBuilds
  have hPaged : ∀ take skip, (Plan.build schema key (options.paged take skip)).run.run [] =
      (.ok (plan.withWindow ⟨take, skip⟩), events) := by
    intro take skip
    rw [Plan.build_paged, ExceptT.run_map, StateT.run_map, hBuilt]
    rfl
  rcases Statement.find_withWindow plan world.now session.store with ⟨cells, hRun⟩ | hRefused
  · have hRecords : ∀ window, (⟨Window.apply window cells, 0⟩ : Answer).records plan.outputs =
        window.apply (cells.map (recordOf plan.outputs)) :=
      fun window => window.map_apply (recordOf plan.outputs) cells
    have hMany : ∀ take skip,
        (session.perform schema world key (.findMany (options.paged take skip))).1 =
          .ok (.rows (Window.apply ⟨take, skip⟩ (cells.map (recordOf plan.outputs)))) := by
      intro take skip
      rw [perform_findMany world session (hPaged take skip), hRun]
      dsimp only
      rw [Plan.outputs_withWindow, hRecords]
    -- A search for the first row puts the same plan in a window of one row.
    have hFirst : ∀ take skip,
        (session.perform schema world key (.findFirst (options.paged take skip))).1 =
          .ok (.row (Window.apply ⟨some 1, skip⟩ (cells.map (recordOf plan.outputs))).head?) := by
      intro take skip
      rw [perform_findFirst world session (hPaged take skip), Plan.withWindow_withWindow, hRun]
      dsimp only [FindOptions.paged]
      rw [Plan.outputs_withWindow, hRecords]
    refine .inl ⟨cells.map (recordOf plan.outputs), hMany none none, ?_, ?_, ?_⟩
    · intro take skip
      rw [hMany, Window.apply_eq]
    · intro take skip
      rw [hFirst, Window.apply_eq, Option.getD_some, List.head?_take, if_neg Nat.one_ne_zero,
        List.head?_drop]
    · intro size hSize
      refine ⟨_, fun k => hMany (some size) (some (k * size)), fun k => ?_,
        fun count hCount => ?_⟩
      · rw [Window.apply_eq, Option.getD_some, Option.getD_some, List.take_eq_nil_iff,
          List.drop_eq_nil_iff]
        omega
      · exact (flatMap_pages size _ count).trans (List.take_of_length_le hCount)
  · refine .inr fun take skip => ⟨?_, ?_⟩
    · obtain ⟨e, hRun⟩ := hRefused ⟨take, skip⟩
      exact ⟨e, by rw [perform_findMany world session (hPaged take skip), hRun]⟩
    · obtain ⟨e, hRun⟩ := hRefused ⟨some 1, skip⟩
      refine ⟨e, ?_⟩
      rw [perform_findFirst world session (hPaged take skip), Plan.withWindow_withWindow]
      dsimp only [FindOptions.paged]
      rw [hRun]

end Searches

/-- The users of the store are searched for with their printers and their templates.  A user with
two printers is returned twice; the second of all rows is the second page of one row, and the first
row behind one that is left out. -/
theorem pages_of_search_printersAndTemplates : ∃ rows : List Record, 1 < rows.length ∧
    (rivalSession.perform builtIn deskWorld .users
      (.findMany (printersAndTemplates.paged none none))).1 = .ok (.rows rows) ∧
    (rivalSession.perform builtIn deskWorld .users
      (.findMany (printersAndTemplates.paged (some 1) (some 1)))).1 =
        .ok (.rows ((rows.drop 1).take 1)) ∧
    (rivalSession.perform builtIn deskWorld .users
      (.findFirst (printersAndTemplates.paged (some 0) (some 1)))).1 = .ok (.row rows[1]?) := by
  obtain ⟨plan, events, hBuilt, hTest⟩ := exists_plan_of_test
    (show ((Plan.build builtIn .users printersAndTemplates).run.run []).1.toOption.any
      (fun plan => decide (plan.WithinLimits ∧ 1 < (plan.eval rivalStore).rows.length)) = true
      by decide +kernel)
  obtain ⟨hLimits, hSeveral⟩ := of_decide_eq_true hTest
  have hOnce : (Query.resolve builtIn .users printersAndTemplates.own
      printersAndTemplates.includes).AsksOnce := by
    simp [printersAndTemplates, Query.resolve, resolveAll, resolveOne, followRelation,
      Query.AsksOnce, Query.AllAskOnce, builtIn, BuiltIn.usersTable, Table.relation?]
  have hAnswer := findMany_foundIn deskWorld rivalSession rivalStore_holds builtIn_wellNamed
    builtIn_legibleRelations hBuilt hOnce hLimits
  have hRows := outcome_findMany deskWorld rivalSession hBuilt hAnswer
  rcases pages_of_search deskWorld rivalSession ⟨plan, events, hBuilt⟩ with
    ⟨rows, hWhole, hMany, hFirst, -⟩ | hRefused
  · cases hAnswer.symm.trans hWhole
    refine ⟨_, ?_, hWhole, hMany (some 1) (some 1), hFirst (some 0) (some 1)⟩
    rw [Outcome.rows.inj hRows, List.length_map]
    exact hSeveral
  · obtain ⟨e, hError⟩ := (hRefused none none).1
    cases hAnswer.symm.trans hError

end Session

end ModelStore
