import ModelStore.Proofs.Operation.Searching

/-!
# Operations that fail

An operation that fails leaves every row of every table as it was, whatever the failure.  Most of
what can be wrong shows before the store is touched, and a statement that is refused changes
nothing.  What is left is work that goes on after a statement has changed the store: a row that
should be there and is not, or an upsert whose second statement is refused.

Neither happens to work that was prepared.  An insertion returns its row.  The change of an upsert
is made under the condition of its lookup, so it hits a row where the lookup found one; and the
lookup itself changes nothing.  So a transaction that is given up has nothing to take back.

## Main definitions

* `Work.WellMade`: work whose statements belong together.
* `Session.Prepares`: the work that an operation comes to in a session.

## Main results

* `wellMade_of_prepare`: work that was prepared is well made.
* `Work.WellMade.store_of_error`: well-made work that fails has left the store as it was.
* `Session.dispatch_store_of_error`: so does a call that fails, and there was nothing to take back.
-/

namespace ModelStore

variable {ι : Type}

/-! ## Statements that are answered -/

/-- A lookup leaves the store as it is, and what it finds satisfies its condition. -/
theorem Statement.answer_first {now : Int} {store left : Store} {table : String}
    {columns : List Column} {predicate : List Sql.Expr} {answer : Answer}
    (hAnswer : (Statement.first table columns predicate).answer now store = .ok (answer, left)) :
    left = store ∧ ∃ stored, tableOf store table = .ok stored ∧
      (answer.rows ≠ [] → stored.choose predicate ≠ []) := by
  obtain ⟨stored, hStored, hPure⟩ := bind_eq_ok.mp hAnswer
  obtain ⟨rfl, rfl⟩ := Prod.mk.inj (pure_eq_ok.mp hPure)
  refine ⟨rfl, stored, hStored, fun hRows => ?_⟩
  obtain ⟨cells, hCells⟩ := List.exists_mem_of_ne_nil _ hRows
  obtain ⟨row, hRow, -⟩ := List.mem_map.mp hCells
  obtain ⟨hRead, hSatisfies⟩ := List.mem_filter.mp (List.mem_of_mem_take hRow)
  have hMem : row ∈ stored.rows := (stored.read_perm _).mem_iff.mp hRead
  exact List.ne_nil_of_mem (List.mem_filter.mpr ⟨hMem, hSatisfies⟩)

/-- A change of some rows returns as many. -/
theorem StoredTable.length_updateRows {values : SlotValues} {rows : List StoredRow} :
    ∀ {table after : StoredTable} {changed : List StoredRow},
      updateRows values rows table = .ok (changed, after) → changed.length = rows.length := by
  induction rows with
  | nil =>
      intro table after changed hUpdate
      cases hUpdate
      rfl
  | cons row rows ih =>
      intro table after changed hUpdate
      rw [updateRows] at hUpdate
      obtain ⟨⟨first, between⟩, -, hRest⟩ := bind_eq_ok.mp hUpdate
      obtain ⟨⟨others, last⟩, hOthers, hPure⟩ := bind_eq_ok.mp hRest
      obtain ⟨rfl, rfl⟩ := Prod.mk.inj (pure_eq_ok.mp hPure)
      rw [List.length_cons, List.length_cons, ih hOthers]

/-- A change that returns rows returns one for each row under its condition. -/
theorem Statement.length_rows_update {now : Int} {store left : Store} {table : String}
    {values : Assignments} {predicate : List Sql.Expr} {columns : List Column} {answer : Answer}
    {stored : StoredTable} (hStored : tableOf store table = .ok stored)
    (hAnswer : (Statement.update table values predicate (some columns)).answer now store =
      .ok (answer, left)) :
    answer.rows.length = (stored.choose predicate).length := by
  obtain ⟨found, hFound, hRest⟩ := bind_eq_ok.mp hAnswer
  obtain rfl : stored = found := Except.ok.inj (hStored.symm.trans hFound)
  obtain ⟨given, -, hRest⟩ := bind_eq_ok.mp hRest
  obtain ⟨⟨rows, after⟩, hRows, hPure⟩ := bind_eq_ok.mp hRest
  obtain ⟨rfl, -⟩ := Prod.mk.inj (pure_eq_ok.mp hPure)
  rw [← StoredTable.length_updateRows hRows]
  exact List.length_map _

/-- An insertion returns its row. -/
theorem Statement.length_rows_insert {now : Int} {store left : Store} {table : String}
    {values : Assignments} {columns : List Column} {answer : Answer}
    (hAnswer : (Statement.insert table values columns).answer now store = .ok (answer, left)) :
    answer.rows.length = 1 := by
  obtain ⟨stored, -, hRest⟩ := bind_eq_ok.mp hAnswer
  obtain ⟨given, -, hRest⟩ := bind_eq_ok.mp hRest
  obtain ⟨⟨row, after⟩, -, hPure⟩ := bind_eq_ok.mp hRest
  obtain ⟨rfl, -⟩ := Prod.mk.inj (pure_eq_ok.mp hPure)
  rfl

/-! ## Work whose statements belong together -/

/-- The statement is an insertion. -/
def Statement.Inserts (statement : Statement) : Prop :=
  ∃ table values columns, statement = .insert table values columns

/-- Work whose statements belong together: a row that has to be there is the row of an insertion,
and the change of an upsert returns rows of the table that was looked up, under the same
condition. -/
def Work.WellMade : Work → Prop
  | .rows _ | .first _ | .number _ => True
  | .only statement => statement.Inserts
  | .upsert lookup change insertion =>
    insertion.Inserts ∧ ∃ table columns predicate, lookup = .first table columns predicate ∧
      ∀ statement ∈ change, ∃ values, statement = .update table values predicate (some columns)

/-- A change that is prepared is under the condition that it is prepared for, and returns what it is
asked to. -/
theorem Table.update_of_change {table : Table ι} {filter : Option Conditions} {data : Payload}
    {asked : Bool} {predicate : List Sql.Expr} {statement : Statement}
    (hPredicate : compileFilter table none filter = .ok predicate)
    (hChange : table.change filter data asked = .ok statement) :
    ∃ values, statement = .update table.name values predicate (table.returned asked) := by
  rw [Table.change] at hChange
  split at hChange
  · cases hChange
  · obtain ⟨values, -, hRest⟩ := bind_eq_ok.mp hChange
    obtain ⟨compiled, hCompiled, hPure⟩ := bind_eq_ok.mp hRest
    obtain rfl : predicate = compiled := Except.ok.inj (hPredicate.symm.trans hCompiled)
    exact ⟨values, (pure_eq_ok.mp hPure).symm⟩

/-- An insertion that is prepared is one. -/
theorem Table.inserts_of_insertion {table : Table ι} {ids : Nat → String} {data : Payload}
    {statement : Statement} (hInsertion : table.insertion ids data = .ok statement) :
    statement.Inserts := by
  obtain ⟨values, -, hPure⟩ := bind_eq_ok.mp hInsertion
  exact ⟨_, _, _, (pure_eq_ok.mp hPure).symm⟩

/-- An upsert that is prepared has a lookup, an insertion, and a change if there is anything to
change, all of them under the condition that was accepted. -/
theorem Operation.prepareUpsert_eq_ok {table : Table ι} {ids : Nat → String}
    {options : UpsertOptions} {work : Work}
    (hPrepared : Operation.prepareUpsert table ids options = .ok work) :
    ∃ conditions lookup change insertion, work = .upsert lookup change insertion ∧
      table.lookup (some conditions) = .ok lookup ∧
      (∀ statement ∈ change, table.change (some conditions) options.update true = .ok statement) ∧
      table.insertion ids options.create = .ok insertion := by
  obtain ⟨conditions, -, hRest⟩ := bind_eq_ok.mp hPrepared
  obtain ⟨lookup, hLookup, hRest⟩ := bind_eq_ok.mp hRest
  dsimp only at hRest
  split at hRest
  · obtain ⟨change, hNone, hRest⟩ := bind_eq_ok.mp hRest
    obtain ⟨insertion, hInsertion, hPure⟩ := bind_eq_ok.mp hRest
    rw [← pure_eq_ok.mp hPure, ← pure_eq_ok.mp hNone]
    exact ⟨conditions, lookup, none, insertion, rfl, hLookup, by simp, hInsertion⟩
  · obtain ⟨change, hChange, hRest⟩ := bind_eq_ok.mp hRest
    obtain ⟨insertion, hInsertion, hPure⟩ := bind_eq_ok.mp hRest
    obtain ⟨statement, hStatement, rfl⟩ := map_eq_ok.mp hChange
    rw [← pure_eq_ok.mp hPure]
    exact ⟨conditions, lookup, some statement, insertion, rfl, hLookup, by simpa using hStatement,
      hInsertion⟩

/-- The lookup of an upsert, its change and its insertion belong together. -/
theorem wellMade_of_prepareUpsert {table : Table ι} {ids : Nat → String} {options : UpsertOptions}
    {work : Work} (hPrepared : Operation.prepareUpsert table ids options = .ok work) :
    work.WellMade := by
  obtain ⟨conditions, lookup, change, insertion, rfl, hLookup, hChange, hInsertion⟩ :=
    Operation.prepareUpsert_eq_ok hPrepared
  obtain ⟨predicate, hPredicate, hFirst⟩ := bind_eq_ok.mp hLookup
  refine ⟨Table.inserts_of_insertion hInsertion, _, _, predicate, (pure_eq_ok.mp hFirst).symm, ?_⟩
  exact fun statement hMem => Table.update_of_change hPredicate (hChange statement hMem)

/-- **Preparation**: work that was prepared is well made. -/
theorem wellMade_of_prepare {schema : Schema ι} {key : ι} {policy : BulkPolicy}
    {ids : Nat → String} {operation : Operation} {work : Work}
    (hPrepared : Yields (operation.prepare schema key policy ids) work) : work.WellMade := by
  cases operation with
  | create options =>
      obtain ⟨statement, hStatement, hPure⟩ := hPrepared.of_bind
      rw [← hPure.of_pure]
      exact Table.inserts_of_insertion hStatement.of_liftExcept
  | upsert options => exact wellMade_of_prepareUpsert hPrepared.of_liftExcept
  | updateMany options | deleteMany options =>
      obtain ⟨statement, -, hRest⟩ := hPrepared.of_bind
      obtain ⟨-, -, hPure⟩ := hRest.of_bind
      rw [← hPure.of_pure]
      trivial
  | findFirst options | findMany options | update options | updateAll options | delete options
  | deleteAll | count options =>
      -- A single statement, of which nothing is expected.
      obtain ⟨_, -, hPure⟩ := hPrepared.of_bind
      rw [← hPure.of_pure]
      trivial

/-! ## Work that fails -/

section Fails

variable {now : Int} {connection after : Connection} {e : StoreError}

/-- A statement that is refused leaves the store as it is. -/
theorem store_of_send_error {statement : Statement}
    (hRun : (send now statement).run.run connection = (.error e, after)) :
    after.store = connection.store := by
  rw [run_send] at hRun
  split at hRun
  · cases hRun
    rfl
  · cases hRun

/-- Fetching the rows of a statement fails only where the statement is refused. -/
theorem store_of_fetch_error {statement : Statement}
    (hRun : (fetch now statement).run.run connection = (.error e, after)) :
    after.store = connection.store := by
  rcases Transaction.error_of_bind hRun with hSend | ⟨answer, between, -, hPure⟩
  · exact store_of_send_error hSend
  · cases hPure

/-- Fetching the only row of a statement leaves the store as it is where it fails, if the statement
always returns a row. -/
theorem store_of_fetchOnly_error {statement : Statement}
    (hReturns : ∀ answer left,
      statement.answer now connection.store = .ok (answer, left) → answer.rows ≠ [])
    (hRun : (fetchOnly now statement).run.run connection = (.error e, after)) :
    after.store = connection.store := by
  rw [run_fetchOnly] at hRun
  split at hRun
  · cases hRun
    rfl
  · rename_i answer left hAttempt
    have hRows := hReturns answer left (Statement.answer_of_attempt hAttempt)
    split at hRun
    · cases hRun
    · rename_i hNone
      exact absurd (List.map_eq_nil_iff.mp hNone) hRows

theorem store_of_fetchOnly_insert_error {statement : Statement} (hInserts : statement.Inserts)
    (hRun : (fetchOnly now statement).run.run connection = (.error e, after)) :
    after.store = connection.store := by
  obtain ⟨table, values, columns, rfl⟩ := hInserts
  refine store_of_fetchOnly_error (fun answer left hAnswer hNone => ?_) hRun
  have hLength := Statement.length_rows_insert hAnswer
  rw [hNone] at hLength
  cases hLength

theorem store_of_fetchOnly_update_error {table : String} {values : Assignments}
    {predicate : List Sql.Expr} {columns : List Column} {stored : StoredTable}
    (hStored : Statement.tableOf connection.store table = .ok stored)
    (hChosen : stored.choose predicate ≠ [])
    (hRun : (fetchOnly now (.update table values predicate (some columns))).run.run connection =
      (.error e, after)) :
    after.store = connection.store := by
  refine store_of_fetchOnly_error (fun answer left hAnswer hNone => ?_) hRun
  have hLength := Statement.length_rows_update hStored hAnswer
  rw [hNone] at hLength
  exact hChosen (List.length_eq_zero_iff.mp hLength.symm)

/-- A lookup that is answered leaves the store as it is; where it finds a row, there is one under
its condition. -/
theorem store_of_fetch_first {table : String} {columns : List Column} {predicate : List Sql.Expr}
    {records : List Record}
    (hRun : (fetch now (.first table columns predicate)).run.run connection =
      (.ok records, after)) :
    after.store = connection.store ∧
      ∃ stored, Statement.tableOf connection.store table = .ok stored ∧
        (records ≠ [] → stored.choose predicate ≠ []) := by
  rw [run_fetch] at hRun
  split at hRun
  · cases hRun
  · rename_i answer left hAttempt
    cases hRun
    obtain ⟨rfl, stored, hStored, hChosen⟩ :=
      Statement.answer_first (Statement.answer_of_attempt hAttempt)
    refine ⟨rfl, stored, hStored, fun hRecords => hChosen fun hRows => hRecords ?_⟩
    rw [Answer.records, hRows, List.map_nil]

/-- **Work that fails**: well-made work leaves the store as it was, before anything is taken
back. -/
theorem Work.WellMade.store_of_error {work : Work} (hMade : work.WellMade)
    (hRun : (work.perform now).run.run connection = (.error e, after)) :
    after.store = connection.store := by
  cases work with
  | rows statement =>
      rcases Transaction.error_of_bind hRun with hFetch | ⟨records, between, -, hPure⟩
      · exact store_of_fetch_error hFetch
      · cases hPure
  | first statement =>
      rcases Transaction.error_of_bind hRun with hFetch | ⟨records, between, -, hRest⟩
      · exact store_of_fetch_error hFetch
      · rcases Transaction.error_of_bind hRest with hNote | ⟨_, last, -, hPure⟩
        · unfold noteSeveral at hNote
          split at hNote
          · split at hNote <;> cases hNote
          · cases hNote
        · cases hPure
  | only statement =>
      rcases Transaction.error_of_bind hRun with hFetch | ⟨record, between, -, hPure⟩
      · exact store_of_fetchOnly_insert_error hMade hFetch
      · cases hPure
  | number statement =>
      rcases Transaction.error_of_bind hRun with hSend | ⟨answer, between, -, hPure⟩
      · exact store_of_send_error hSend
      · cases hPure
  | upsert lookup change insertion =>
      obtain ⟨hInserts, table, columns, predicate, rfl, hChange⟩ := hMade
      rcases Transaction.error_of_bind hRun with hFetch | ⟨records, between, hFetch, hRest⟩
      · exact store_of_fetch_error hFetch
      · obtain ⟨hStore, stored, hStored, hChosen⟩ := store_of_fetch_first hFetch
        rw [← hStore] at hStored ⊢
        split at hRest
        · cases hRest
        · rename_i record statement hHead
          obtain ⟨values, rfl⟩ := hChange statement rfl
          have hSome : stored.choose predicate ≠ [] := by
            refine hChosen fun hRecords => ?_
            rw [hRecords] at hHead
            cases hHead
          rcases Transaction.error_of_bind hRest with hUpdate | ⟨last, _, -, hPure⟩
          · exact store_of_fetchOnly_update_error hStored hSome hUpdate
          · cases hPure
        · rcases Transaction.error_of_bind hRest with hInsert | ⟨last, _, -, hPure⟩
          · exact store_of_fetchOnly_insert_error hInserts hInsert
          · cases hPure

end Fails

/-! ## Calls that fail -/

namespace Session

variable {schema : Schema ι} {world : World} {key : ι} {session after : Session}

/-- The work that an operation on the table of a key comes to in a session. -/
def Prepares (schema : Schema ι) (world : World) (key : ι) (operation : Operation)
    (session : Session) (work : Work) : Prop :=
  ∃ events, (operation.prepare schema key session.policy
    fun k => world.freshId (session.issued + k)).run.run [] = (.ok work, events)

/-- The connection that work leaves in a session, before anything is taken back. -/
def connectionAfter (world : World) (session : Session) (work : Work) : Connection :=
  ((work.perform world.now).run.run ⟨session.store, session.barred, []⟩).2

/-- An operation that fails leaves the store as it was. -/
theorem perform_store_of_error {operation : Operation} {e : Error}
    (hFails : session.perform schema world key operation = (.error e, after)) :
    after.store = session.store := by
  rcases hPrepared : (operation.prepare schema key session.policy
    fun k => world.freshId (session.issued + k)).run.run [] with ⟨_ | work, events⟩
  · rw [perform, hPrepared] at hFails
    cases hFails
    rfl
  · rw [perform, hPrepared] at hFails
    dsimp only [remember] at hFails
    rcases hWork : work.run world.now session.store session.barred with ⟨notes, _ | result⟩
    · rw [hWork] at hFails
      cases hFails
      rfl
    · rw [hWork] at hFails
      cases hFails

/-- An operation that fails although its work was prepared has left the store as it was before
anything was taken back. -/
theorem connectionAfter_store_of_error {operation : Operation} {work : Work} {e : Error}
    (hPrepares : session.Prepares schema world key operation work)
    (hFails : (session.perform schema world key operation).1 = .error e) :
    (connectionAfter world session work).store = session.store := by
  obtain ⟨events, hPrepared⟩ := hPrepares
  rw [perform_of_prepared world session hPrepared, Work.run] at hFails
  unfold connectionAfter
  rcases hRun : (work.perform world.now).run.run ⟨session.store, session.barred, []⟩ with
    ⟨refusal | outcome, connection⟩
  · exact (wellMade_of_prepare ⟨[], events, hPrepared⟩).store_of_error hRun
  · rw [hRun] at hFails
    cases hFails

/-- **Calls that fail**: whatever the failure, every row of every table is as it was; and it was so
before anything was taken back, even where an upsert failed after its lookup. -/
theorem dispatch_store_of_error {method : Method} {args : Json} {e : Error}
    (hFails : session.dispatch schema world key method args = (.error e, after)) :
    after.store = session.store ∧
      ∀ operation work, Operation.ofJson method args = .ok operation →
        session.Prepares schema world key operation work →
        (connectionAfter world session work).store = session.store := by
  cases hOperation : Operation.ofJson method args with
  | error failure =>
      rw [dispatch, hOperation] at hFails
      cases hFails
      refine ⟨rfl, fun operation work hRead => ?_⟩
      cases hRead
  | ok operation =>
      have hPerform : session.perform schema world key operation = (.error e, after) := by
        rw [dispatch_of_ofJson _ _ hOperation] at hFails
        rcases hResult : session.perform schema world key operation with ⟨_ | _, last⟩
        · rw [hResult] at hFails
          cases hFails
          rfl
        · rw [hResult] at hFails
          cases hFails
      refine ⟨perform_store_of_error hPerform, ?_⟩
      rintro _ work ⟨⟩ hPrepares
      exact connectionAfter_store_of_error hPrepares (congrArg Prod.fst hPerform)

end Session

/-! ## An upsert that clashes -/

/-- The small store with a second printer. -/
def rivalStore : Store :=
  [ storedUsers
  , { storedPrinters with
      rows := [frontDesk, ⟨2, [.text "p2", .text "Back office", .int 0, .text "u1"]⟩] }
  , storedTemplates ]

/-- A session on the store with two printers. -/
def rivalSession : Session := .start rivalStore none .deny

/-- An upsert that finds the first printer and gives it the identifier of the second one. -/
def clashingUpsert : Json :=
  .object
    [ ("where", .object [("id", .text "p1")])
    , ("update", .object [("id", .text "p2")])
    , ("create", .object [("name", .text "Spare"), ("userId", .text "u1")]) ]

namespace Session

/-- The upsert fails with its second statement, and both printers are as they were. -/
theorem dispatch_store_of_error_clash :
    ∃ e after,
      rivalSession.dispatch builtIn deskWorld .printers .upsert clashingUpsert = (.error e, after) ∧
      after.sent.length = 2 ∧ after.store = rivalStore ∧
      ∀ operation work, Operation.ofJson .upsert clashingUpsert = .ok operation →
        rivalSession.Prepares builtIn deskWorld .printers operation work →
        (connectionAfter deskWorld rivalSession work).store = rivalStore := by
  rcases hCall : rivalSession.dispatch builtIn deskWorld .printers .upsert clashingUpsert with
    ⟨e | value, after⟩
  · have hSent : (rivalSession.dispatch builtIn deskWorld .printers .upsert
        clashingUpsert).2.sent.length = 2 := by decide +kernel
    rw [hCall] at hSent
    have hStore := dispatch_store_of_error hCall
    exact ⟨e, after, rfl, hSent, hStore⟩
  · have hFails : (rivalSession.dispatch builtIn deskWorld .printers .upsert
        clashingUpsert).1.isOk = false := by decide +kernel
    rw [hCall] at hFails
    cases hFails

end Session

end ModelStore
