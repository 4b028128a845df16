import ModelStore.Proofs.Operation.Counting
import ModelStore.Proofs.Store.Settling

/-!
# Upserts that are sent again

An upsert that found rows under its condition finds rows again when it is sent once more, if it has
no value for a column of its condition: the rows that it changed still satisfy the condition, and
no other row does that did not before.  So it looks up, changes and returns the same rows, and they
have the values already that it gives them.

What else differs between the two runs does not matter.  Time has passed and other identifiers would
be made, but neither a lookup nor a change looks at them.  The limits of the store are on the text
of a statement, which is the same.

## Main definitions

* `Payload.Spares`: payloads without a value for a column of some conditions.

## Main results

* `Table.Patched.holds_iff`: a changed row satisfies a condition on other columns if it did before.
* `Upsert.update_again`: the rows under the condition are changed again, to what they are.
* `Session.upsert_again`: what comes of an upsert that is sent again.
-/

namespace ModelStore

open Sql (Expr)

variable {ι : Type}

/-! ## Conditions on other columns -/

/-- A payload has no value for a column of the conditions. -/
def Payload.Spares (data : Payload) (conditions : Conditions) : Prop :=
  ∀ entry ∈ conditions, ∀ given ∈ data, given.1 ≠ entry.1

section Conditions

variable {table : Table ι} {before after : StoredTable}

/-- **Conditions**: where a payload has no value for their columns, a changed row satisfies them if
and only if it did before. -/
theorem Table.Patched.holds_iff {data : Payload} {row made : StoredRow}
    (hPatched : table.Patched data row made) (hBefore : before.Holds table)
    (hAfter : after.Holds table) (hRow : row ∈ before.rows) (hMade : made ∈ after.rows)
    {conditions : Conditions}
    (hKnown : ∀ entry ∈ conditions, (table.column? entry.1).isSome = true)
    (hSpares : data.Spares conditions) :
    conditions.Holds table made ↔ conditions.Holds table row := by
  have hValue : ∀ entry ∈ conditions, table.value made entry.1 = table.value row entry.1 := by
    intro entry hEntry
    obtain ⟨column, hColumn⟩ := Option.isSome_iff_exists.mp (hKnown entry hEntry)
    obtain ⟨hMem, hName⟩ := Table.mem_of_column? hColumn
    have hNone : data.reverse.lookup entry.1 = none := by
      apply List.lookup_eq_none_iff.mpr
      intro given hGiven
      have hApart := hSpares entry hEntry given (List.mem_reverse.mp hGiven)
      exact bne_iff_ne.mpr hApart.symm
    have hCell := hPatched column hMem
    rw [hName, hNone, Option.map_none, Option.getD_none] at hCell
    rw [(hAfter.value_of_column? hMade hColumn).1, (hBefore.value_of_column? hRow hColumn).1, hCell]
  unfold Conditions.Holds
  constructor
  · intro hHolds entry hEntry
    rw [← hValue entry hEntry]
    exact hHolds entry hEntry
  · intro hHolds entry hEntry
    rw [hValue entry hEntry]
    exact hHolds entry hEntry

end Conditions

/-! ## Statements that were answered -/

/-- A statement that was answered is within the limits, and the store takes changes if it is one. -/
theorem Statement.within_of_attempt {statement : Statement} (hLegible : statement.NamesHave Legible)
    {now : Int} {store : Store} {barred : Option StoreError} {result : Answer × Store}
    (hAttempt : statement.attempt now store barred = .ok result) :
    statement.WithinLimits ∧ (statement.changes = false ∨ barred = none) := by
  constructor
  · by_contra hBeyond
    obtain ⟨refusal, hRefused⟩ := exists_attempt_of_beyond now store barred hLegible hBeyond
    cases hAttempt.symm.trans hRefused
  · cases hChanges : statement.changes with
    | false => exact .inl rfl
    | true =>
        cases barred with
        | none => exact .inr rfl
        | some refusal =>
            obtain ⟨e, hRefused⟩ := exists_attempt_of_barred now store refusal hChanges
            cases hAttempt.symm.trans hRefused

/-! ## The work of an upsert -/

namespace Upsert

variable {table : Table ι} (upsert : Upsert table) {store left : Store} {stored : StoredTable}
  {now : Int} {barred : Option StoreError}

section Change

variable (hHolds : stored.Holds table) (hSound : stored.Sound)
  (hSpares : upsert.update.Spares upsert.conditions) {made : List StoredRow} {after : StoredTable}
  (hUpdate : stored.update (stored.slotsOf upsert.values.reverse) (upsert.matching stored) =
    .ok (made, after))

include hHolds hSound hSpares hUpdate

/-- After a change, the rows under its condition are those that were changed. -/
theorem mem_matching_iff_of_update {row : StoredRow} :
    row ∈ upsert.matching after ↔ row ∈ made := by
  have hKnown := (Conditions.known_of_compile upsert.terms_eq).1
  have hWithin := (Payload.map_of_compile upsert.values_eq).1
  have hMatching : ∀ row ∈ upsert.matching stored, row ∈ stored.rows :=
    fun row hRow => (mem_matching.mp hRow).1
  have hIds : ((upsert.matching stored).map (·.id)).Nodup :=
    hSound.nodup_ids.sublist (List.filter_sublist.map _)
  obtain ⟨-, hMade, hPerm⟩ := StoredTable.perm_of_updateRows hMatching hIds hUpdate
  have hAfter : after.Holds table := hHolds.of_update hMatching hUpdate
  constructor
  · intro hRow
    obtain ⟨hStands, hMeets⟩ := mem_matching.mp hRow
    rcases List.mem_append.mp (hPerm.mem_iff.mp hStands) with hNew | hOld
    · exact hNew
    · -- A row that was left alone did not satisfy the condition.
      obtain ⟨hMem, hElse⟩ := List.mem_filter.mp hOld
      have hChosen : row ∈ upsert.matching stored := mem_matching.mpr ⟨hMem, hMeets⟩
      exact absurd (List.mem_map_of_mem hChosen) (of_decide_eq_true hElse)
  · intro hRow
    have hStands : row ∈ after.rows := hPerm.mem_iff.mpr (List.mem_append_left _ hRow)
    obtain ⟨old, hOld, hAssign⟩ := StoredTable.exists_left_of_forall₂ hMade hRow
    obtain ⟨hMem, hMeets⟩ := mem_matching.mp hOld
    have hPatched : table.Patched upsert.update old row := by
      intro column hColumn
      rw [hHolds.cell_of_assign hWithin.reverse (hHolds.fits hMem) hAssign hColumn,
        Payload.given?_reverse upsert.values_eq, Option.map_map]
      rfl
    apply mem_matching.mpr
    exact ⟨hStands, (hPatched.holds_iff hHolds hAfter hMem hStands hKnown hSpares).mpr hMeets⟩

/-- **Changes**: the rows under the condition are changed again, to what they are. -/
theorem update_again : after.Holds table ∧
    after.update (after.slotsOf upsert.values.reverse) (upsert.matching after) =
      .ok (upsert.matching after, after) := by
  have hMatching : ∀ row ∈ upsert.matching stored, row ∈ stored.rows :=
    fun row hRow => (mem_matching.mp hRow).1
  have hIds : ((upsert.matching stored).map (·.id)).Nodup :=
    hSound.nodup_ids.sublist (List.filter_sublist.map _)
  have hAfter := (StoredTable.perm_of_updateRows hMatching hIds hUpdate).1
  have hSlots : after.slotsOf upsert.values.reverse = stored.slotsOf upsert.values.reverse := by
    rw [hAfter]
    rfl
  refine ⟨hHolds.of_update hMatching hUpdate, ?_⟩
  rw [hSlots]
  apply hSound.updateRows_again (stored.addressed_slotsOf _) hMatching hIds hUpdate
  intro row hRow
  exact (mem_matching_iff_of_update upsert hHolds hSound hSpares hUpdate).mp hRow

end Change

/-- The same upsert with other values for its insertion, such as other identifiers. -/
def creating (upsert : Upsert table) (created : Assignments) (hCreated : created.Within table) :
    Upsert table :=
  { upsert with created := created, created_within := hCreated }

theorem change_creating {created : Assignments} {hCreated : created.Within table} :
    (upsert.creating created hCreated).change = upsert.change :=
  rfl

variable {upsert} {outcome : Outcome}

/-- An upsert that succeeds has a lookup within the limits. -/
theorem within_of_run (hHolds : stored.Holds table)
    (hRun : (upsert.work.run now store barred).2 = .ok (outcome, left)) :
    upsert.lookup.WithinLimits := by
  rw [work, Work.run_upsert] at hRun
  cases hAttempt : upsert.lookup.attempt now store barred with
  | error refusal =>
      rw [hAttempt] at hRun
      cases hRun
  | ok result => exact (Statement.within_of_attempt (upsert.legible hHolds).1 hAttempt).1

/-- **Changes that are sent again**: they succeed again and leave the store as it is. -/
theorem onlyRow_again (hHolds : stored.Holds table) (hSound : stored.Sound)
    (hFound : store.table? table.name = some stored)
    (hSpares : upsert.update.Spares upsert.conditions)
    (hRun : upsert.change.onlyRow now store barred = .ok (outcome, left)) (later : Int) :
    ∃ kept, left.table? table.name = some kept ∧ kept.Holds table ∧
      ∃ row ∈ upsert.matching kept,
        upsert.change.onlyRow later left barred = .ok (.row (some (table.record row)), left) := by
  have hWithin := (Payload.map_of_compile upsert.values_eq).1
  have hColumns : upsert.change.outputs = table.columns.map OutputColumn.of := rfl
  obtain ⟨answer, record, records, hAnswer, hRecords, -⟩ := Statement.answer_of_onlyRow hRun
  have hLimits : upsert.change.WithinLimits ∧ (upsert.change.changes = false ∨ barred = none) := by
    unfold Statement.onlyRow at hRun
    split at hRun
    · cases hRun
    · rename_i hAttempt
      exact Statement.within_of_attempt (upsert.legible hHolds).2.1 hAttempt
  -- The first change leaves a table whose rows under the condition are those that it made.
  rw [change, answer_update hFound hHolds hWithin, hHolds.choose_eq upsert.terms_eq] at hAnswer
  obtain ⟨⟨made, kept⟩, hUpdate, hPair⟩ := map_eq_ok.mp hAnswer
  obtain ⟨rfl, rfl⟩ := Prod.mk.inj hPair
  obtain ⟨hKept, hAgain⟩ := upsert.update_again hHolds hSound hSpares hUpdate
  have hSame : ∀ row, row ∈ upsert.matching kept ↔ row ∈ made := fun _ =>
    upsert.mem_matching_iff_of_update hHolds hSound hSpares hUpdate
  have hName : kept.name = stored.name := by
    rw [(StoredTable.perm_of_updateRows (fun row hRow => (mem_matching.mp hRow).1)
      (hSound.nodup_ids.sublist (List.filter_sublist.map _)) hUpdate).1]
  have hLeft : (store.put kept).table? table.name = some kept :=
    Store.table?_put_self hFound hName
  -- The second change is answered with them, and puts the same table back.
  have hSecond : upsert.change.answer later (store.put kept) =
      .ok (kept.answer (some table.columns) (upsert.matching kept), store.put kept) := by
    rw [change, answer_update hLeft hKept hWithin, hKept.choose_eq upsert.terms_eq, hAgain]
    show Except.ok (_, (store.put kept).put kept) = _
    rw [Store.put_put]
  have hAttempt :=
    Statement.attempt_of_within (upsert.legible hHolds).2.1 hLimits.1 hLimits.2 hSecond
  have hRows : (kept.answer (some table.columns) (upsert.matching kept)).records
      upsert.change.outputs = (upsert.matching kept).map table.record := by
    rw [hColumns]
    exact hKept.records_answer fun row hRow => (mem_matching.mp hRow).1
  refine ⟨kept, hLeft, hKept, ?_⟩
  cases hMatching : upsert.matching kept with
  | nil =>
      -- The first change returned a row, so it made one.
      have hMade : made = [] := by
        apply List.eq_nil_iff_forall_not_mem.mpr
        intro row hRow
        have hRow := (hSame row).mpr hRow
        rw [hMatching] at hRow
        cases hRow
      subst hMade
      cases hRecords
  | cons row rows =>
      rw [hMatching] at hAttempt hRows
      refine ⟨row, List.mem_cons_self, ?_⟩
      rw [Statement.onlyRow, hAttempt]
      dsimp only
      rw [hRows]
      rfl

/-- **Upserts that are sent again**: where rows satisfied the condition, some still do, one of them
is returned, and the store is left as it is. -/
theorem run_again (hHolds : stored.Holds table) (hSound : stored.Sound)
    (hFound : store.table? table.name = some stored)
    (hSpares : upsert.update.Spares upsert.conditions)
    (hMatch : ∃ row ∈ stored.rows, upsert.conditions.Holds table row)
    (hRun : (upsert.work.run now store barred).2 = .ok (outcome, left)) (later : Int)
    (created : Assignments) (hCreated : created.Within table) :
    ∃ kept row, left.table? table.name = some kept ∧ row ∈ upsert.matching kept ∧
      ((upsert.creating created hCreated).work.run later left barred).2 =
        .ok (.row (some (table.record row)), left) := by
  have hWithin := within_of_run hHolds hRun
  have hSome : upsert.matching stored ≠ [] := by
    obtain ⟨row, hRow, hMeets⟩ := hMatch
    intro hNone
    exact matching_eq_nil_iff.mp hNone row hRow hMeets
  have hCourse := upsert.course hHolds hFound now barred
  rcases hResult : upsert.work.run now store barred with ⟨notes, result⟩
  rw [hResult] at hRun hCourse
  dsimp only at hRun
  cases hCourse with
  | lost => cases hRun
  | inserting hNone => exact absurd hNone hSome
  | finding hRow hUpdate =>
      obtain ⟨-, rfl⟩ := Prod.mk.inj (Except.ok.inj hRun)
      have hAgain := (upsert.creating created hCreated).course hHolds hFound later barred
      rcases hSecond : (upsert.creating created hCreated).work.run later store barred with
        ⟨others, second⟩
      rw [hSecond] at hAgain
      cases hAgain with
      | lost hLost => exact absurd hWithin hLost
      | inserting hNone => exact absurd hNone hSome
      | @finding row hRow => exact ⟨stored, row, hFound, hRow, rfl⟩
      | changing _ hChange => exact absurd hUpdate hChange
  | changing hRow hUpdate =>
      obtain ⟨kept, hLeft, hKept, row, hStays, hChange⟩ :=
        onlyRow_again hHolds hSound hFound hSpares hRun later
      have hAgain := (upsert.creating created hCreated).course hKept hLeft later barred
      rcases hSecond : (upsert.creating created hCreated).work.run later left barred with
        ⟨others, second⟩
      rw [hSecond] at hAgain
      refine ⟨kept, row, hLeft, hStays, ?_⟩
      cases hAgain with
      | lost hLost => exact absurd hWithin hLost
      | inserting hNone =>
          have hNone : upsert.matching kept = [] := hNone
          rw [hNone] at hStays
          cases hStays
      | finding _ hNothing => exact absurd hNothing hUpdate
      | changing =>
          rw [change_creating]
          dsimp only
          exact hChange

end Upsert

/-! ## Operations -/

namespace Session

variable {schema : Schema ι} {session after : Session} {key : ι} {options : UpsertOptions}
  {outcome : Outcome}

/-- Whether a store takes changes is nothing that an operation changes. -/
theorem barred_perform (session : Session) (world : World) (key : ι) (operation : Operation) :
    (session.perform schema world key operation).2.barred = session.barred := by
  unfold perform
  dsimp only [remember]
  rcases (operation.prepare schema key session.policy
    fun k => world.freshId (session.issued + k)).run.run [] with ⟨_ | work, events⟩
  · rfl
  · dsimp only
    rcases work.run world.now session.store session.barred with ⟨notes, _ | ⟨outcome, left⟩⟩ <;> rfl

/-- An upsert that succeeds has parts that compile, and its condition constrains something. -/
theorem exists_of_perform_upsert {world : World}
    (hPerform : session.perform schema world key (.upsert options) = (.ok outcome, after)) :
    ∃ (upsert : Upsert (schema.table key)) (values : Assignments),
      options.filter = some upsert.conditions ∧ upsert.terms ≠ [] ∧
      options.update = upsert.update ∧
      Payload.compile (schema.table key) options.create = .ok values ∧
      (upsert.work.run world.now session.store session.barred).2 = .ok (outcome, after.store) := by
  obtain ⟨work, hPrepared, hRun⟩ := exists_of_perform hPerform
  obtain ⟨upsert, values, rfl, hFilter, hUpdate, hValues, -⟩ :=
    exists_of_prepareUpsert hPrepared.of_liftExcept
  refine ⟨upsert, values, hFilter, ?_, hUpdate.symm, hValues, hRun⟩
  intro hNothing
  have hIdle : ∀ conditions ∈ options.filter,
      conditions.compile (schema.table key) none = .ok [] := by
    intro conditions hGiven
    obtain rfl := Option.some.inj (hFilter.symm.trans hGiven)
    rw [upsert.terms_eq, hNothing]
  have hRefused : (session.perform schema world key (.upsert options)).1 =
      .error (.refused .unconditionalUpsert) := (perform_unconditional hIdle).1
  rw [hPerform] at hRefused
  cases hRefused

/-- **Idempotence**: where an upsert gives no value to a column of its condition, rows satisfy the
condition, and it succeeds, it succeeds again whenever it is sent once more.  It then leaves the
store as it is, and returns a row that satisfies the condition. -/
theorem upsert_again (world : World) (hStore : session.store.Holds schema)
    (hSound : session.store.Sound) (key : ι) (options : UpsertOptions) {conditions : Conditions}
    (hFilter : options.filter = some conditions) (hSpares : options.update.Spares conditions)
    (hMatch : ∃ row ∈ session.store.rowsOf (schema.table key).name,
      conditions.Holds (schema.table key) row)
    (hPerform : session.perform schema world key (.upsert options) = (.ok outcome, after))
    (later : World) :
    ∃ row again, after.perform schema later key (.upsert options) =
        (.ok (.row (some ((schema.table key).record row))), again) ∧
      again.store = after.store ∧ row ∈ after.store.rowsOf (schema.table key).name ∧
      conditions.Holds (schema.table key) row := by
  obtain ⟨stored, hFound, hHolds⟩ := hStore key
  obtain ⟨upsert, values, hGiven, hTerms, hUpdate, hValues, hRun⟩ :=
    exists_of_perform_upsert hPerform
  obtain rfl := Option.some.inj (hGiven.symm.trans hFilter)
  have hBarred : after.barred = session.barred := by
    have hKept : (session.perform schema world key (.upsert options)).2.barred = session.barred :=
      barred_perform session world key (.upsert options)
    rw [hPerform] at hKept
    exact hKept
  rw [Store.rowsOf, hFound] at hMatch
  -- The identifiers of the second upsert are others.
  let created := (schema.table key).created (fun k => later.freshId (after.issued + k))
    options.create values
  have hCreated : created.Within (schema.table key) := Table.within_created hValues
  obtain ⟨kept, row, hLeft, hRow, hAgain⟩ := upsert.run_again hHolds
    (hSound.of_table? hFound) hFound (hUpdate ▸ hSpares) hMatch hRun later.now created hCreated
  obtain ⟨hMem, hMeets⟩ := Upsert.mem_matching.mp hRow
  have hPrepared : ((Operation.upsert options).prepare schema key after.policy
      fun k => later.freshId (after.issued + k)).run.run [] =
        (.ok (upsert.creating created hCreated).work, []) :=
    prepare_upsert _ hGiven hTerms hUpdate hValues rfl
  have hConcluded := perform_concluded hPrepared
  rw [hBarred, hAgain] at hConcluded
  obtain ⟨hOutcome, hStays⟩ := Prod.mk.inj hConcluded
  refine ⟨row, (after.perform schema later key (.upsert options)).2, Prod.ext hOutcome rfl, hStays,
    ?_, hMeets⟩
  rw [Store.rowsOf, hLeft]
  exact hMem

/-- An upsert that makes both printers of a user a default is sent twice. -/
theorem upsert_again_sharedUpsert :
    ∃ outcome after row again,
      rivalSession.perform builtIn deskWorld .printers (.upsert sharedUpsert) =
        (.ok outcome, after) ∧
      after.perform builtIn deskWorld .printers (.upsert sharedUpsert) =
        (.ok (.row (some (BuiltIn.printersTable.record row))), again) ∧
      again.store = after.store ∧ row ∈ after.store.rowsOf "printers" ∧
      Conditions.Holds BuiltIn.printersTable row [("userId", .equals (.text "u1"))] := by
  obtain ⟨outcome, after, hPerform⟩ := exists_of_isOk
    (show (rivalSession.perform builtIn deskWorld .printers (.upsert sharedUpsert)).1.isOk = true
      by decide +kernel)
  obtain ⟨row, again, hAgain, hStore, hRow, hMeets⟩ := upsert_again deskWorld rivalStore_holds
    rivalStore_sound .printers sharedUpsert rfl (by unfold Payload.Spares; decide +kernel)
    (by decide +kernel) hPerform deskWorld
  exact ⟨outcome, after, row, again, hPerform, hAgain, hStore, hRow, hMeets⟩

end Session

end ModelStore
