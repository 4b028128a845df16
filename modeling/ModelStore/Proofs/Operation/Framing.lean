import ModelStore.Proofs.Operation.Effects
import ModelStore.Proofs.Operation.UpsertCorrect

/-!
# What an operation touches

An operation names one table.  If it only reads, the store is as it was.  If it writes, the rows of
every other table are as they were, and of its own table it touches no other rows than those it is
about: a creation adds one, a change rewrites those under its condition in the columns of its
payload, a removal takes those under its condition away.  What it returns are rows that it has
touched, as they now are if they were changed, and as they were if they are gone.

## Main definitions

* `Operation.Reads`: operations that only read.
* `Operation.Done`: what an operation that succeeds has done, and what it returns.

## Main results

* `Session.table?_perform`: other tables are as they were.
* `Session.done_of_perform`: an operation that succeeds has done what it is for.
* `Session.perform_framed`: all of this, for every operation.
-/

namespace ModelStore

open Sql (Expr)

variable {ι : Type}

/-! ## Work that succeeds -/

section Work

variable {now : Int} {store left : Store} {barred : Option StoreError} {statement : Statement}
  {outcome : Outcome}

/-- What comes of work with one statement comes of what the statement answers. -/
theorem Statement.exists_of_map_attempt {make : Answer × Store → Outcome × Store}
    (hRun : (statement.attempt now store barred).map make = .ok (outcome, left)) :
    ∃ result, statement.answer now store = .ok result ∧ make result = (outcome, left) := by
  obtain ⟨result, hAttempt, hMake⟩ := map_eq_ok.mp hRun
  exact ⟨result, Statement.answer_of_attempt hAttempt, hMake⟩

/-- Work that returns the first row returns the first of those that are answered. -/
theorem Work.exists_of_run_first
    (hRun : ((first statement).run now store barred).2 = .ok (outcome, left)) :
    ∃ answer, statement.answer now store = .ok (answer, left) ∧
      outcome = .row (answer.records statement.outputs).head? := by
  rw [run_first] at hRun
  obtain ⟨⟨answer, after⟩, hAnswer, hMake⟩ := Statement.exists_of_map_attempt hRun
  obtain ⟨rfl, rfl⟩ := Prod.mk.inj hMake
  exact ⟨answer, hAnswer, rfl⟩

/-- Work that returns a number returns how many rows were touched or counted. -/
theorem Work.exists_of_run_number
    (hRun : ((number statement).run now store barred).2 = .ok (outcome, left)) :
    ∃ answer, statement.answer now store = .ok (answer, left) ∧
      outcome = .number answer.affected := by
  rw [run_number] at hRun
  obtain ⟨⟨answer, after⟩, hAnswer, hMake⟩ := Statement.exists_of_map_attempt hRun
  obtain ⟨rfl, rfl⟩ := Prod.mk.inj hMake
  exact ⟨answer, hAnswer, rfl⟩

end Work

/-! ## Other tables -/

/-- The table that a statement reads or writes, a search of a plan apart. -/
def Statement.table? : Statement → Option String
  | .find _ => none
  | .first table .. | .insert table .. | .update table .. | .delete table .. | .count table _ =>
    some table

/-- The statements of an operation are about its own table. -/
theorem Operation.Sends.table?_eq {table : Table ι} {ids : Nat → String} {operation : Operation}
    {statement : Statement} (hSends : operation.Sends table ids statement) :
    statement.table? = none ∨ statement.table? = some table.name := by
  cases hSends with
  | search plan => exact .inl rfl
  | lookup hLookup =>
      obtain ⟨_, -, hPure⟩ := bind_eq_ok.mp hLookup
      exact .inr (pure_eq_ok.mp hPure ▸ rfl)
  | insertion hData hInsertion =>
      obtain ⟨_, -, hPure⟩ := bind_eq_ok.mp hInsertion
      exact .inr (pure_eq_ok.mp hPure ▸ rfl)
  | change hData hChange =>
      obtain ⟨_, _, -, -, rfl⟩ := Table.exists_of_change hChange
      exact .inr rfl
  | removal hRemoval =>
      obtain ⟨_, -, hPure⟩ := bind_eq_ok.mp hRemoval
      exact .inr (pure_eq_ok.mp hPure ▸ rfl)
  | counting hCounting =>
      obtain ⟨_, -, hPure⟩ := bind_eq_ok.mp hCounting
      exact .inr (pure_eq_ok.mp hPure ▸ rfl)

/-- A table that is put back is not found under another name. -/
theorem Store.table?_put_of_ne {store : Store} {after : StoredTable} {name : String}
    (hNe : sameName name after.name = false) :
    (store.put after).table? name = store.table? name := by
  rw [Store.table?_put]
  cases hOld : store.table? name with
  | none => rfl
  | some old =>
      have hFolded := Store.foldedName_of_table? hOld
      have hOther : sameName old.name after.name = false := by
        rw [Bool.eq_false_iff, Ne, sameName_iff] at hNe ⊢
        rwa [hFolded]
      simp [hOther]

/-- A statement leaves every table but its own as it was. -/
theorem Statement.table?_of_answer {now : Int} {store left : Store} {statement : Statement}
    {answer : Answer} {name : String}
    (hNe : ∀ table ∈ statement.table?, sameName name table = false)
    (hAnswer : statement.answer now store = .ok (answer, left)) :
    left.table? name = store.table? name := by
  have hPut : ∀ {table : String} {stored after : StoredTable}, table ∈ statement.table? →
      store.table? table = some stored → after.name = stored.name →
      (store.put after).table? name = store.table? name := by
    intro table stored after hMem hFound hName
    have hFolded := Store.foldedName_of_table? hFound
    refine Store.table?_put_of_ne ?_
    have hTable := hNe table hMem
    rw [Bool.eq_false_iff, Ne, sameName_iff] at hTable ⊢
    rwa [hName, hFolded]
  cases Statement.effect_of_answer hAnswer with
  | found | looked | counted => rfl
  | inserted hFound hInsert => exact hPut rfl hFound (StoredTable.name_of_insert hInsert)
  | changed hFound hUpdate => exact hPut rfl hFound (StoredTable.name_of_updateRows hUpdate)
  | removed hFound => exact hPut rfl hFound rfl

/-- A statement that is not meant to change anything leaves the store as it was. -/
theorem Statement.keeps_store {statement : Statement} {before : Store}
    (hChanges : statement.changes = false) : statement.Keeps (· = before) := by
  intro now store left answer hBefore hAnswer
  cases Statement.effect_of_answer hAnswer with
  | found | looked | counted => exact hBefore
  | inserted | changed | removed => cases hChanges

/-! ## What an operation is for -/

/-- Operations that only read. -/
def Operation.Reads : Operation → Prop
  | .findFirst _ | .findMany _ | .count _ => True
  | .create _ | .update _ | .updateMany _ | .updateAll _ | .upsert _ | .delete _ | .deleteMany _
  | .deleteAll => False

/-- What an operation that succeeds has done to its table in a store, and what it returns.  Only of
searches it is not said here what they return. -/
def Operation.Done (table : Table ι) (stored : StoredTable) (store left : Store)
    (outcome : Outcome) : Operation → Prop
  | .findFirst _ | .findMany _ => left = store
  | .count options =>
      left = store ∧ outcome = .number (table.chosen options.filter stored.rows).length
  | .create _ =>
      ∃ row, stored.Gains store left row ∧ outcome = .row (some (table.record row))
  | .update options =>
      ∃ made, table.Changes (some options.filter) options.data stored store left made ∧
        outcome = .row (made.head?.map table.record)
  | .updateMany options =>
      ∃ made, table.Changes options.filter options.data stored store left made ∧
        outcome = .number made.length
  | .updateAll options =>
      ∃ made, table.Changes none options.data stored store left made ∧
        outcome = .number made.length
  | .upsert options =>
      ∃ conditions row, options.filter = some conditions ∧
        table.Upserted conditions options.update stored store left row ∧
        outcome = .row (some (table.record row))
  | .delete options =>
      table.Loses (some options.filter) stored store left ∧
        outcome = .row ((table.chosen (some options.filter) stored.rows).head?.map table.record)
  | .deleteMany options =>
      table.Loses options.filter stored store left ∧
        outcome = .number (table.chosen options.filter stored.rows).length
  | .deleteAll =>
      table.Loses none stored store left ∧ outcome = .number stored.rows.length

/-! ## The work of an operation -/

section Work

variable {store left : Store} {stored : StoredTable} {table : Table ι}
  (hFound : store.table? table.name = some stored) (hHolds : stored.Holds table)
  {now : Int} {barred : Option StoreError} {outcome : Outcome} {statement : Statement}

include hFound hHolds

/-- An insertion that is answered has added the row that it returns. -/
theorem gains_of_onlyRow {ids : Nat → String} {data : Payload}
    (hInsertion : table.insertion ids data = .ok statement)
    (hRun : statement.onlyRow now store barred = .ok (outcome, left)) :
    ∃ row, stored.Gains store left row ∧ outcome = .row (some (table.record row)) := by
  obtain ⟨values, hValues, hPure⟩ := bind_eq_ok.mp hInsertion
  rw [← pure_eq_ok.mp hPure] at hRun
  obtain ⟨row, after, hOutcome, hInsert, rfl⟩ :=
    exists_of_onlyRow_insert hFound hHolds (Table.within_created hValues) hRun
  exact ⟨row, StoredTable.gains_of_insert hInsert, hOutcome⟩

variable (hSound : stored.Sound) {filter : Option Conditions}

include hSound

section Change

variable {data : Payload} {asked : Bool} (hChange : table.change filter data asked = .ok statement)

include hChange

/-- A change that is answered has changed the rows under its condition, and tells how many. -/
theorem changes_of_change {answer : Answer}
    (hAnswer : statement.answer now store = .ok (answer, left)) :
    ∃ made, table.Changes filter data stored store left made ∧ answer.affected = made.length ∧
      (asked = true → answer.records statement.outputs = made.map table.record) := by
  obtain ⟨values, terms, hValues, hTerms, rfl⟩ := Table.exists_of_change hChange
  obtain ⟨made, hMade, hAffected, hRecords⟩ :=
    changes_of_answer hFound hHolds hTerms hValues hSound hAnswer
  refine ⟨made, hMade, hAffected, ?_⟩
  rintro rfl
  exact hRecords rfl

/-- Work that returns the first row of a change. -/
theorem changes_of_run_first (hAsked : asked = true)
    (hRun : ((Work.first statement).run now store barred).2 = .ok (outcome, left)) :
    ∃ made, table.Changes filter data stored store left made ∧
      outcome = .row (made.head?.map table.record) := by
  obtain ⟨answer, hAnswer, rfl⟩ := Work.exists_of_run_first hRun
  obtain ⟨made, hMade, -, hRecords⟩ := changes_of_change hFound hHolds hSound hChange hAnswer
  exact ⟨made, hMade, by rw [hRecords hAsked, List.head?_map]⟩

/-- Work that returns how many rows a change has changed. -/
theorem changes_of_run_number
    (hRun : ((Work.number statement).run now store barred).2 = .ok (outcome, left)) :
    ∃ made, table.Changes filter data stored store left made ∧ outcome = .number made.length := by
  obtain ⟨answer, hAnswer, rfl⟩ := Work.exists_of_run_number hRun
  obtain ⟨made, hMade, hAffected, -⟩ := changes_of_change hFound hHolds hSound hChange hAnswer
  exact ⟨made, hMade, by rw [hAffected]⟩

end Change

section Removal

variable {asked : Bool} (hRemoval : table.removal filter asked = .ok statement)

include hRemoval

/-- Work that returns the first row of a removal. -/
theorem loses_of_run_first (hAsked : asked = true)
    (hRun : ((Work.first statement).run now store barred).2 = .ok (outcome, left)) :
    table.Loses filter stored store left ∧
      outcome = .row ((table.chosen filter stored.rows).head?.map table.record) := by
  subst hAsked
  obtain ⟨answer, hAnswer, rfl⟩ := Work.exists_of_run_first hRun
  obtain ⟨terms, hTerms, rfl⟩ := map_eq_ok.mp hRemoval
  rw [answer_delete hFound hHolds hTerms hSound] at hAnswer
  obtain ⟨rfl, rfl⟩ := Prod.mk.inj (Except.ok.inj hAnswer)
  refine ⟨rfl, congrArg Outcome.row ?_⟩
  have hRecords : (stored.answer (table.returned true) (table.chosen filter stored.rows)).records
      (Statement.delete table.name terms (table.returned true)).outputs =
        (table.chosen filter stored.rows).map table.record :=
    hHolds.records_answer fun row hRow => (Table.mem_chosen.mp hRow).1
  rw [hRecords, List.head?_map]

/-- Work that returns how many rows a removal has removed. -/
theorem loses_of_run_number
    (hRun : ((Work.number statement).run now store barred).2 = .ok (outcome, left)) :
    table.Loses filter stored store left ∧
      outcome = .number (table.chosen filter stored.rows).length := by
  obtain ⟨answer, hAnswer, rfl⟩ := Work.exists_of_run_number hRun
  obtain ⟨terms, hTerms, rfl⟩ := map_eq_ok.mp hRemoval
  rw [answer_delete hFound hHolds hTerms hSound] at hAnswer
  obtain ⟨rfl, rfl⟩ := Prod.mk.inj (Except.ok.inj hAnswer)
  exact ⟨rfl, rfl⟩

end Removal

/-- **Work**: what the work of an operation has done that succeeds. -/
theorem Operation.done_of_run {schema : Schema ι} {key : ι} (hTable : schema.table key = table)
    {policy : BulkPolicy} {ids : Nat → String} {operation : Operation} {work : Work}
    (hPrepared : Yields (operation.prepare schema key policy ids) work)
    (hRun : (work.run now store barred).2 = .ok (outcome, left)) :
    operation.Done table stored store left outcome := by
  subst hTable
  cases operation with
  | findFirst options | findMany options =>
      obtain ⟨plan, -, hPure⟩ := hPrepared.of_bind
      rw [← hPure.of_pure] at hRun
      refine Work.keeps_run (P := (· = store)) ?_ rfl hRun
      rw [Work.statements, List.forall_mem_singleton]
      exact Statement.keeps_store rfl
  | count options =>
      obtain ⟨statement, hStatement, hPure⟩ := hPrepared.of_bind
      rw [← hPure.of_pure] at hRun
      obtain ⟨terms, hTerms, rfl⟩ := map_eq_ok.mp hStatement.of_liftExcept
      obtain ⟨answer, hAnswer, rfl⟩ := Work.exists_of_run_number hRun
      rw [answer_count hFound hHolds hTerms] at hAnswer
      obtain ⟨rfl, rfl⟩ := Prod.mk.inj (Except.ok.inj hAnswer)
      exact ⟨rfl, rfl⟩
  | create options =>
      obtain ⟨statement, hStatement, hPure⟩ := hPrepared.of_bind
      rw [← hPure.of_pure, Work.run_only] at hRun
      exact gains_of_onlyRow hFound hHolds hStatement.of_liftExcept hRun
  | update options =>
      obtain ⟨statement, hStatement, hPure⟩ := hPrepared.of_bind
      rw [← hPure.of_pure] at hRun
      exact changes_of_run_first hFound hHolds hSound hStatement.of_liftExcept rfl hRun
  | updateMany options =>
      obtain ⟨statement, hStatement, hRest⟩ := hPrepared.of_bind
      obtain ⟨-, -, hPure⟩ := hRest.of_bind
      rw [← hPure.of_pure] at hRun
      exact changes_of_run_number hFound hHolds hSound hStatement.of_liftExcept hRun
  | updateAll options =>
      obtain ⟨statement, hStatement, hPure⟩ := hPrepared.of_bind
      rw [← hPure.of_pure] at hRun
      exact changes_of_run_number hFound hHolds hSound hStatement.of_liftExcept hRun
  | delete options =>
      obtain ⟨statement, hStatement, hPure⟩ := hPrepared.of_bind
      rw [← hPure.of_pure] at hRun
      exact loses_of_run_first hFound hHolds hSound hStatement.of_liftExcept rfl hRun
  | deleteMany options =>
      obtain ⟨statement, hStatement, hRest⟩ := hPrepared.of_bind
      obtain ⟨-, -, hPure⟩ := hRest.of_bind
      rw [← hPure.of_pure] at hRun
      exact loses_of_run_number hFound hHolds hSound hStatement.of_liftExcept hRun
  | deleteAll =>
      obtain ⟨statement, hStatement, hPure⟩ := hPrepared.of_bind
      rw [← hPure.of_pure] at hRun
      obtain ⟨hLoses, hNumber⟩ :=
        loses_of_run_number hFound hHolds hSound hStatement.of_liftExcept hRun
      rw [Table.chosen_none] at hNumber
      exact ⟨hLoses, hNumber⟩
  | upsert options =>
      obtain ⟨upsert, values, rfl, hFilter, hUpdate, -, -⟩ :=
        exists_of_prepareUpsert hPrepared.of_liftExcept
      obtain ⟨row, hOutcome, hUpserted⟩ := upsert.upserted_of_run hHolds hFound hSound hRun
      exact ⟨upsert.conditions, row, hFilter, hUpdate ▸ hUpserted, hOutcome⟩

end Work

/-! ## Operations -/

namespace Session

section Operations

variable {schema : Schema ι} {session : Session} (world : World) (key : ι) (operation : Operation)

/-- **Other tables** are as they were, whether an operation succeeds or fails. -/
theorem table?_perform {name : String}
    (hNe : sameName name (schema.table key).name = false) :
    (session.perform schema world key operation).2.store.table? name =
      session.store.table? name := by
  refine perform_keeps_of (P := fun store => store.table? name = session.store.table? name)
    world key operation (fun work events hPrepared statement hMem => ?_) rfl
  have hSends := sends_of_prepare ⟨[], events, hPrepared⟩ statement hMem
  have hApart : ∀ table ∈ statement.table?, sameName name table = false := by
    intro table hTable
    rcases hSends.table?_eq with hNone | hSome
    · rw [hNone] at hTable
      cases hTable
    · rw [hSome] at hTable
      exact Option.some.inj hTable ▸ hNe
  intro now store left answer hBefore hAnswer
  exact (Statement.table?_of_answer hApart hAnswer).trans hBefore

/-- Operations that only read leave the store as it was, whether they succeed or fail. -/
theorem perform_of_reads (hReads : operation.Reads) :
    (session.perform schema world key operation).2.store = session.store := by
  refine perform_keeps_of (P := (· = session.store)) world key operation
    (fun work events hPrepared => ?_) rfl
  have hYields : Yields (operation.prepare schema key session.policy
    fun k => world.freshId (session.issued + k)) work := ⟨[], events, hPrepared⟩
  have hSingle : ∀ {statement : Statement}, statement.changes = false →
      ∀ other ∈ [statement], other.Keeps (· = session.store) := by
    intro statement hChanges
    rw [List.forall_mem_singleton]
    exact Statement.keeps_store hChanges
  cases operation with
  | findFirst options | findMany options =>
      obtain ⟨plan, -, hPure⟩ := hYields.of_bind
      rw [← hPure.of_pure]
      exact hSingle rfl
  | count options =>
      obtain ⟨statement, hStatement, hPure⟩ := hYields.of_bind
      obtain ⟨terms, -, rfl⟩ := map_eq_ok.mp hStatement.of_liftExcept
      rw [← hPure.of_pure]
      exact hSingle rfl
  | create | update | updateMany | updateAll | upsert | delete | deleteMany | deleteAll =>
      exact hReads.elim

variable {world key operation}

/-- An operation that succeeds was prepared, and its work succeeded. -/
theorem exists_of_perform {outcome : Outcome} {after : Session}
    (hPerform : session.perform schema world key operation = (.ok outcome, after)) :
    ∃ work, Yields (operation.prepare schema key session.policy
        fun k => world.freshId (session.issued + k)) work ∧
      (work.run world.now session.store session.barred).2 = .ok (outcome, after.store) := by
  rcases hPrepared : (operation.prepare schema key session.policy
    fun k => world.freshId (session.issued + k)).run.run [] with ⟨_ | work, events⟩
  · have hFails := (sentSince_of_prepare_error hPrepared).1
    rw [hPerform] at hFails
    cases hFails
  · have hConcluded := perform_concluded hPrepared
    rw [hPerform] at hConcluded
    refine ⟨work, ⟨[], events, hPrepared⟩, ?_⟩
    cases hRun : (work.run world.now session.store session.barred).2 with
    | error refusal =>
        rw [hRun] at hConcluded
        cases hConcluded
    | ok result =>
        rw [hRun] at hConcluded
        obtain ⟨hOutcome, hLeft⟩ := Prod.mk.inj hConcluded
        rw [Except.ok.inj hOutcome, show after.store = result.2 from hLeft]

/-- **Operations that succeed** have done what they are for. -/
theorem done_of_perform {stored : StoredTable}
    (hFound : session.store.table? (schema.table key).name = some stored)
    (hHolds : stored.Holds (schema.table key)) (hSound : stored.Sound) {outcome : Outcome}
    {after : Session}
    (hPerform : session.perform schema world key operation = (.ok outcome, after)) :
    operation.Done (schema.table key) stored session.store after.store outcome := by
  obtain ⟨work, hPrepared, hRun⟩ := exists_of_perform hPerform
  exact Operation.done_of_run hFound hHolds hSound rfl hPrepared hRun

/-- **Frames**: whatever comes of an operation, the other tables of the store are as they were, and
the whole store is if the operation only reads or if it fails.  An operation that succeeds has added
a row, changed the rows under its condition in the columns of its payload, or removed them, and left
all other rows as they were. -/
theorem perform_framed (world : World) (hStore : session.store.Holds schema)
    (hSound : session.store.Sound) (key : ι) (operation : Operation) :
    (∀ name, sameName name (schema.table key).name = false →
      (session.perform schema world key operation).2.store.table? name =
        session.store.table? name) ∧
    (operation.Reads →
      (session.perform schema world key operation).2.store = session.store) ∧
    (∀ e after, session.perform schema world key operation = (.error e, after) →
      after.store = session.store) ∧
    ∃ stored, session.store.table? (schema.table key).name = some stored ∧
      ∀ outcome after, session.perform schema world key operation = (.ok outcome, after) →
        operation.Done (schema.table key) stored session.store after.store outcome := by
  obtain ⟨stored, hFound, hHolds⟩ := hStore key
  refine ⟨fun name hNe => table?_perform world key operation hNe,
    perform_of_reads world key operation,
    fun e after hPerform => ?_, stored, hFound,
    fun outcome after hPerform => done_of_perform hFound hHolds (hSound.of_table? hFound) hPerform⟩
  exact perform_store_of_error hPerform

end Operations

/-! ## A change of two rows -/

theorem rivalStore_holds : rivalSession.store.Holds builtIn
  | .users => ⟨storedUsers, by decide +kernel, by decide +kernel⟩
  | .printers => ⟨_, rfl, by decide +kernel⟩
  | .invoiceTemplates => ⟨storedTemplates, by decide +kernel, by decide +kernel⟩

theorem rivalStore_sound : rivalSession.store.Sound := by decide +kernel

/-- A change that makes all printers of a user a default. -/
def sharedUpdate : Operation :=
  .update ⟨[("userId", .equals (.text "u1"))], [("isDefault", .bool true)]⟩

/-- The change concerns both printers, returns one of them, and leaves the users alone. -/
theorem perform_framed_sharedUpdate :
    ∃ stored outcome after, rivalStore.table? "printers" = some stored ∧
      rivalSession.perform builtIn deskWorld .printers sharedUpdate = (.ok outcome, after) ∧
      after.store.table? "users" = rivalStore.table? "users" ∧
      sharedUpdate.Done BuiltIn.printersTable stored rivalStore after.store outcome := by
  obtain ⟨hOthers, -, -, stored, hFound, hDone⟩ :=
    perform_framed deskWorld rivalStore_holds rivalStore_sound .printers sharedUpdate
  obtain ⟨outcome, after, hPerform⟩ := exists_of_isOk
    (show (rivalSession.perform builtIn deskWorld .printers sharedUpdate).1.isOk = true
      by decide +kernel)
  have hUsers := hOthers "users" (by decide +kernel)
  rw [hPerform] at hUsers
  exact ⟨stored, outcome, after, hFound, hPerform, hUsers, hDone outcome after hPerform⟩

end Session

end ModelStore
