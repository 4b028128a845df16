import ModelStore.Proofs.Operation.Effects

/-!
# Upserts

An upsert looks for a row under its condition, and then changes or inserts.  Its three statements
are compiled one by one and know nothing of each other; what makes one operation of them is that
they are sent in one transaction, and that lookup and change are under the same conjunction.

What it comes to is said here without statements.  If no row satisfies the condition, the row is
inserted that a creation would insert.  If some do and there is nothing to change, one of them is
returned.  Otherwise all of them are changed, and one is returned as it then is.

## Main definitions

* `Table.Upserted`: what an upsert that succeeds has done.
* `Table.UpsertRefused`: why one is refused.
* `Upsert`: an upsert whose condition and payloads have been compiled.
* `Upsert.Course`: how its work goes, by what the lookup finds.

## Main results

* `Upsert.course`: what the lookup finds decides what is sent next.
* `Upsert.upserted_of_run`, `Upsert.upsertRefused_of_run`: what comes of the work.
-/

namespace ModelStore

open Sql (Expr)

variable {ι : Type}

/-! ## What comes of an upsert -/

/-- What an upsert that succeeds has done to a table of a store, and the row that it returns. -/
structure Table.Upserted (table : Table ι) (conditions : Conditions) (update : Payload)
    (stored : StoredTable) (store left : Store) (row : StoredRow) : Prop where
  /-- Where no row satisfies the condition, one row comes to the others. -/
  inserted : (∀ old ∈ stored.rows, ¬conditions.Holds table old) →
    ∃ rows, left = store.put { stored with rows := rows } ∧ rows.Perm (row :: stored.rows)
  /-- Where some do and there is nothing to change, one of them is returned as it is. -/
  found : (∃ old ∈ stored.rows, conditions.Holds table old) → update = [] →
    left = store ∧ row ∈ stored.rows ∧ conditions.Holds table row
  /-- Otherwise all of them are changed, and one is returned as it then is. -/
  changed : (∃ old ∈ stored.rows, conditions.Holds table old) → update ≠ [] →
    ∃ rows made, left = store.put { stored with rows := rows } ∧
      List.Forall₂ (table.Patched update)
        (stored.rows.filter fun old => decide (conditions.Holds table old)) made ∧
      rows.Perm (made ++ stored.rows.filter fun old => decide (¬conditions.Holds table old)) ∧
      rows.length = stored.rows.length ∧ row ∈ made

section Work

variable {now : Int} {store : Store} {barred : Option StoreError}

/-- What comes of a statement of which the first row is wanted. -/
def Statement.onlyRow (now : Int) (store : Store) (barred : Option StoreError)
    (statement : Statement) : Except StoreError (Outcome × Store) :=
  match statement.attempt now store barred with
  | .error e => .error e
  | .ok (answer, left) =>
    match answer.records statement.outputs with
    | record :: _ => .ok (.row (some record), left)
    | [] => .error .noRow

theorem Statement.answer_of_onlyRow {statement : Statement} {outcome : Outcome} {left : Store}
    (hRun : statement.onlyRow now store barred = .ok (outcome, left)) :
    ∃ answer record records, statement.answer now store = .ok (answer, left) ∧
      answer.records statement.outputs = record :: records ∧ outcome = .row (some record) := by
  unfold onlyRow at hRun
  split at hRun
  · cases hRun
  · rename_i answer between hAttempt
    split at hRun
    · rename_i record records hRecords
      obtain ⟨rfl, rfl⟩ := Prod.mk.inj (Except.ok.inj hRun)
      exact ⟨answer, record, records, answer_of_attempt hAttempt, hRecords, rfl⟩
    · cases hRun

/-- What a step has noted, and what comes of it with the store that it leaves. -/
def Transaction.concluded (step : Transaction Outcome) (connection : Connection) :
    List Note × Except StoreError (Outcome × Store) :=
  ((step.run.run connection).2.notes,
    (step.run.run connection).1.map fun outcome => (outcome, (step.run.run connection).2.store))

/-- Wanting the first row of a statement, whatever was noted before. -/
theorem concluded_onlyRow (statement : Statement) (notes : List Note) :
    (do return .row (some (← fetchOnly now statement)) : Transaction Outcome).concluded
        ⟨store, barred, notes⟩ =
      (notes ++ [.sent statement], statement.onlyRow now store barred) := by
  rw [Transaction.concluded, Transaction.run_bind, run_fetchOnly, Statement.onlyRow]
  dsimp only
  cases statement.attempt now store barred with
  | error e => rfl
  | ok result =>
      cases hRecords : result.1.records statement.outputs with
      | nil => simp only [hRecords]; rfl
      | cons record records => simp only [hRecords]; rfl

theorem Work.run_only (statement : Statement) :
    (only statement).run now store barred =
      ([.sent statement], statement.onlyRow now store barred) :=
  concluded_onlyRow statement []

/-- **The work of an upsert**: what the lookup finds decides what is sent next. -/
theorem Work.run_upsert (lookup insertion : Statement) (change : Option Statement) :
    (upsert lookup change insertion).run now store barred =
      match lookup.attempt now store barred with
      | .error e => ([.sent lookup], .error e)
      | .ok (answer, between) =>
        match (answer.records lookup.outputs).head?, change with
        | some record, none => ([.sent lookup], .ok (.row (some record), between))
        | some _, some statement =>
          ([.sent lookup, .sent statement], statement.onlyRow now between barred)
        | none, _ => ([.sent lookup, .sent insertion], insertion.onlyRow now between barred) := by
  change (perform now (upsert lookup change insertion)).concluded ⟨store, barred, []⟩ = _
  rw [Transaction.concluded, perform, Transaction.run_bind, run_fetch]
  dsimp only
  cases lookup.attempt now store barred with
  | error e => rfl
  | ok result =>
      dsimp only
      cases (result.1.records lookup.outputs).head? with
      | none => exact concluded_onlyRow insertion [.sent lookup]
      | some record =>
          cases change with
          | none => rfl
          | some statement => exact concluded_onlyRow statement [.sent lookup]

end Work

/-! ## What the statements do -/

section Statements

variable {store : Store} {stored : StoredTable} {table : Table ι}
  (hFound : store.table? table.name = some stored) (hHolds : stored.Holds table)
  {now : Int} {barred : Option StoreError}

include hFound hHolds

/-- **Insertions**: an insertion of which the row is wanted has inserted the row that it returns. -/
theorem exists_of_onlyRow_insert {assignments : Assignments} (hWithin : assignments.Within table)
    {outcome : Outcome} {left : Store}
    (hRun : (Statement.insert table.name assignments table.columns).onlyRow now store barred =
      .ok (outcome, left)) :
    ∃ row after, outcome = .row (some (table.record row)) ∧
      stored.insert now (stored.slotsOf assignments) = .ok (row, after) ∧
      left = store.put after := by
  obtain ⟨answer, record, records, hAnswer, hRecords, rfl⟩ := Statement.answer_of_onlyRow hRun
  obtain ⟨row, after, hInsert, hLeft, hAnswered⟩ :=
    exists_of_answer_insert hFound hHolds hWithin hAnswer
  obtain ⟨rfl, -⟩ := List.cons.inj (hRecords.symm.trans hAnswered)
  exact ⟨row, after, rfl, hInsert, hLeft⟩

section Change

variable {conditions : Conditions} {terms : List Expr}
  (hTerms : conditions.compile table none = .ok terms) {data : Payload} {values : Assignments}
  (hValues : Payload.compile table data = .ok values)

include hTerms hValues

/-- **Changes**: the rows that satisfy the condition get the values of the payload, the others stay
as they are, and the changed ones are returned. -/
theorem exists_of_answer_update (hSound : stored.Sound) {answer : Answer} {left : Store}
    (hAnswer : (Statement.update table.name values terms (some table.columns)).answer now store =
      .ok (answer, left)) :
    ∃ rows changed, left = store.put { stored with rows := rows } ∧
      List.Forall₂ (table.Patched data)
        (stored.rows.filter fun row => decide (conditions.Holds table row)) changed ∧
      rows.Perm (changed ++ stored.rows.filter fun row => decide (¬conditions.Holds table row)) ∧
      answer.records (table.columns.map OutputColumn.of) = changed.map table.record := by
  have hFilter : compileFilter table none (some conditions) = .ok terms := hTerms
  have hReturned : (Statement.update table.name values terms (table.returned true)).answer now
      store = .ok (answer, left) := hAnswer
  obtain ⟨made, ⟨rows, hLeft, hMade, hPerm⟩, -, hRecords⟩ :=
    changes_of_answer hFound hHolds hFilter hValues hSound hReturned
  rw [Table.chosen_some] at hMade
  rw [Table.spared_some] at hPerm
  exact ⟨rows, made, hLeft, hMade, hPerm, hRecords rfl⟩

end Change

end Statements

/-! ## Upserts that are compiled -/

/-- An upsert on a table, whose condition and payloads have been compiled. -/
structure Upsert (table : Table ι) where
  conditions : Conditions
  terms : List Expr
  update : Payload
  values : Assignments
  created : Assignments
  terms_eq : conditions.compile table none = .ok terms
  values_eq : Payload.compile table update = .ok values
  created_within : created.Within table

namespace Upsert

variable {table : Table ι} (upsert : Upsert table)

/-- The lookup under the condition. -/
def lookup : Statement := .first table.name table.columns upsert.terms

/-- The change under the same condition. -/
def change : Statement := .update table.name upsert.values upsert.terms (some table.columns)

/-- The insertion. -/
def insertion : Statement := .insert table.name upsert.created table.columns

/-- The three statements; there is no change where there is nothing to change. -/
def work : Work :=
  .upsert upsert.lookup (if upsert.update.isEmpty then none else some upsert.change)
    upsert.insertion

/-- The rows of a table that satisfy the condition. -/
abbrev matching (stored : StoredTable) : List StoredRow :=
  stored.rows.filter fun row => decide (upsert.conditions.Holds table row)

variable {upsert} {store : Store} {stored : StoredTable} (hHolds : stored.Holds table)

theorem mem_matching {row : StoredRow} :
    row ∈ upsert.matching stored ↔ row ∈ stored.rows ∧ upsert.conditions.Holds table row := by
  rw [List.mem_filter, decide_eq_true_iff]

include hHolds in
/-- The names of the statements are those of the table. -/
theorem legible (upsert : Upsert table) : upsert.lookup.NamesHave Legible ∧
    upsert.change.NamesHave Legible ∧ upsert.insertion.NamesHave Legible := by
  obtain ⟨hName, hColumns⟩ := hHolds.names_readable
  have hTerms : ∀ e ∈ upsert.terms, ∀ piece ∈ e.ref.pieces, piece.Uses Legible := by
    intro e he
    obtain ⟨hQualifier, hKnown⟩ := Conditions.ref_of_compile upsert.terms_eq e he
    obtain ⟨column, hColumn⟩ := Option.isSome_iff_exists.mp hKnown
    obtain ⟨hMem, hSame⟩ := Table.mem_of_column? hColumn
    exact uses_columnRef (by simp [hQualifier]) (hSame ▸ hColumns column hMem)
  have hValues := (Payload.map_of_compile upsert.values_eq).1
  exact ⟨⟨hName, hColumns, hTerms⟩,
    ⟨hName, fun entry hEntry => hColumns entry.1 (hValues entry hEntry), hTerms, hColumns⟩,
    hName, fun entry hEntry => hColumns entry.1 (upsert.created_within entry hEntry), hColumns⟩

/-! ## The course of an upsert -/

/-- How the work of an upsert goes, by what its lookup finds: the notes, and what comes of it. -/
inductive Course (upsert : Upsert table) (stored : StoredTable) (now : Int) (store : Store)
    (barred : Option StoreError) : List Note × Except StoreError (Outcome × Store) → Prop where
  | lost {refusal : StoreError} (hLimits : ¬upsert.lookup.WithinLimits)
      (hNoRow : refusal = .noRow → barred = some .noRow) :
      Course upsert stored now store barred ([.sent upsert.lookup], .error refusal)
  | inserting (hNone : upsert.matching stored = []) :
      Course upsert stored now store barred ([.sent upsert.lookup, .sent upsert.insertion],
        upsert.insertion.onlyRow now store barred)
  | finding {row : StoredRow} (hRow : row ∈ upsert.matching stored) (hUpdate : upsert.update = []) :
      Course upsert stored now store barred
        ([.sent upsert.lookup], .ok (.row (some (table.record row)), store))
  | changing {row : StoredRow} (hRow : row ∈ upsert.matching stored)
      (hUpdate : upsert.update ≠ []) :
      Course upsert stored now store barred ([.sent upsert.lookup, .sent upsert.change],
        upsert.change.onlyRow now store barred)

variable (hFound : store.table? table.name = some stored) {now : Int} {barred : Option StoreError}

include hHolds hFound

variable (now barred) in
/-- The lookup returns a row that satisfies the condition, if there is one, unless it is beyond a
limit. -/
theorem lookup_cases (upsert : Upsert table) :
    (∃ refusal, upsert.lookup.attempt now store barred = .error refusal ∧
        ¬upsert.lookup.WithinLimits ∧ (refusal = .noRow → barred = some .noRow)) ∨
      ∃ (answer : Answer) (found : List StoredRow),
        upsert.lookup.attempt now store barred = .ok (answer, store) ∧
        (answer.records upsert.lookup.outputs).head? = found.head?.map table.record ∧
        found.Perm (upsert.matching stored) := by
  obtain ⟨answer, found, hAnswer, hHead, hPerm⟩ :=
    exists_answer_first hFound hHolds upsert.terms_eq now
  cases hAttempt : upsert.lookup.attempt now store barred with
  | error refusal =>
      refine .inl ⟨refusal, rfl, fun hWithin => ?_, ?_⟩
      · have hRun : upsert.lookup.run now store = .ok (answer, store) :=
          (Statement.run_of_within (upsert.legible hHolds).1 hWithin).trans hAnswer
        rw [Statement.attempt_of_not_changes rfl hRun] at hAttempt
        cases hAttempt
      · rintro rfl
        refine Statement.attempt_noRow (fun e hError => ?_) hAttempt
        cases hAnswer.symm.trans hError
  | ok result =>
      refine .inr ⟨answer, found, ?_, hHead, hPerm⟩
      rw [← Except.ok.inj (hAnswer.symm.trans (Statement.answer_of_attempt hAttempt))]

variable (now barred) in
/-- **The course of an upsert**: what its lookup finds decides what is sent next. -/
theorem course (upsert : Upsert table) :
    upsert.Course stored now store barred (upsert.work.run now store barred) := by
  rw [work, Work.run_upsert]
  rcases upsert.lookup_cases hHolds hFound now barred with
    ⟨refusal, hAttempt, hLimits, hNoRow⟩ | ⟨answer, found, hAttempt, hHead, hPerm⟩
  · rw [hAttempt]
    exact .lost hLimits hNoRow
  · rw [hAttempt]
    dsimp only
    rw [hHead]
    cases found with
    | nil => exact .inserting hPerm.nil_eq.symm
    | cons row rows =>
        have hRow : row ∈ upsert.matching stored := hPerm.mem_iff.mp List.mem_cons_self
        cases hUpdate : upsert.update.isEmpty with
        | true => exact .finding hRow (List.isEmpty_iff.mp hUpdate)
        | false => exact .changing hRow (by simpa using hUpdate)

omit hHolds hFound in
theorem matching_eq_nil_iff :
    upsert.matching stored = [] ↔ ∀ old ∈ stored.rows, ¬upsert.conditions.Holds table old := by
  simp [List.filter_eq_nil_iff]

/-- Where nothing satisfies the condition, an upsert comes to its insertion, unless the lookup is
beyond a limit. -/
theorem run_of_none (hNone : ∀ old ∈ stored.rows, ¬upsert.conditions.Holds table old) :
    (upsert.work.run now store barred).2 = upsert.insertion.onlyRow now store barred ∨
      ¬upsert.lookup.WithinLimits ∧
        ∃ refusal, (upsert.work.run now store barred).2 = .error refusal := by
  have hCourse := upsert.course hHolds hFound now barred
  rcases hRun : upsert.work.run now store barred with ⟨notes, result⟩
  rw [hRun] at hCourse
  dsimp only
  cases hCourse with
  | lost hLimits => exact .inr ⟨hLimits, _, rfl⟩
  | inserting => exact .inl rfl
  | finding hRow | changing hRow =>
      obtain ⟨hMem, hHolds⟩ := mem_matching.mp hRow
      exact absurd hHolds (hNone _ hMem)

/-- An insertion that is answered has inserted the row that it returns. -/
theorem exists_insert_of_onlyRow {outcome : Outcome} {left : Store}
    (hRun : upsert.insertion.onlyRow now store barred = .ok (outcome, left)) :
    ∃ row after, outcome = .row (some (table.record row)) ∧
      stored.insert now (stored.slotsOf upsert.created) = .ok (row, after) ∧
      left = store.put after :=
  exists_of_onlyRow_insert hFound hHolds upsert.created_within hRun

/-- An upsert that inserts: one row comes to the others. -/
theorem upserted_of_insertion (hNone : ∀ old ∈ stored.rows, ¬upsert.conditions.Holds table old)
    {outcome : Outcome} {left : Store}
    (hRun : upsert.insertion.onlyRow now store barred = .ok (outcome, left)) :
    ∃ row, outcome = .row (some (table.record row)) ∧
      table.Upserted upsert.conditions upsert.update stored store left row := by
  obtain ⟨row, after, hOutcome, hInsert, rfl⟩ := exists_insert_of_onlyRow hHolds hFound hRun
  obtain ⟨_, -, -, -, rfl⟩ := StoredTable.insert_eq_ok.mp hInsert
  have hSome : ¬∃ old ∈ stored.rows, upsert.conditions.Holds table old :=
    fun ⟨old, hOld, hMatches⟩ => hNone old hOld hMatches
  exact ⟨row, hOutcome, fun _ => ⟨_, rfl, StoredTable.place_perm row stored.rows⟩,
    fun hMatch => absurd hMatch hSome, fun hMatch => absurd hMatch hSome⟩

/-- An upsert that changes: all rows that satisfy the condition are changed. -/
theorem upserted_of_change (hSound : stored.Sound) (hUpdate : upsert.update ≠ [])
    {old : StoredRow} (hOld : old ∈ upsert.matching stored) {outcome : Outcome} {left : Store}
    (hRun : upsert.change.onlyRow now store barred = .ok (outcome, left)) :
    ∃ row, outcome = .row (some (table.record row)) ∧
      table.Upserted upsert.conditions upsert.update stored store left row := by
  rw [change] at hRun
  obtain ⟨hMem, hMatches⟩ := mem_matching.mp hOld
  obtain ⟨answer, record, records, hAnswer, hRecords, rfl⟩ := Statement.answer_of_onlyRow hRun
  obtain ⟨rows, made, hLeft, hMade, hPerm, hAnswered⟩ := exists_of_answer_update hFound hHolds
    upsert.terms_eq upsert.values_eq hSound hAnswer
  obtain ⟨row, others, rfl, rfl, -⟩ := List.map_eq_cons_iff.mp (hAnswered.symm.trans hRecords)
  have hLength : rows.length = stored.rows.length := by
    have hSplit := List.length_eq_countP_add_countP
      (fun old => decide (upsert.conditions.Holds table old)) (l := stored.rows)
    rw [hPerm.length_eq, List.length_append, ← hMade.length_eq]
    simpa [List.countP_eq_length_filter] using hSplit.symm
  exact ⟨row, rfl, fun hNone => absurd hMatches (hNone old hMem),
    fun _ hNothing => absurd hNothing hUpdate,
    fun _ _ => ⟨rows, _, hLeft, hMade, hPerm, hLength, List.mem_cons_self⟩⟩

/-- **Upserts that succeed.** -/
theorem upserted_of_run (hSound : stored.Sound) {outcome : Outcome} {left : Store}
    (hRun : (upsert.work.run now store barred).2 = .ok (outcome, left)) :
    ∃ row, outcome = .row (some (table.record row)) ∧
      table.Upserted upsert.conditions upsert.update stored store left row := by
  have hCourse := upsert.course hHolds hFound now barred
  rcases hResult : upsert.work.run now store barred with ⟨notes, result⟩
  rw [hResult] at hRun hCourse
  dsimp only at hRun
  cases hCourse with
  | lost => cases hRun
  | inserting hNone =>
      exact upserted_of_insertion hHolds hFound (matching_eq_nil_iff.mp hNone) hRun
  | @finding row hRow hUpdate =>
      obtain ⟨rfl, rfl⟩ := Prod.mk.inj (Except.ok.inj hRun)
      obtain ⟨hMem, hMatches⟩ := mem_matching.mp hRow
      exact ⟨row, rfl, fun hNone => absurd hMatches (hNone row hMem),
        fun _ _ => ⟨rfl, hMem, hMatches⟩, fun _ hOther => absurd hUpdate hOther⟩
  | changing hRow hUpdate => exact upserted_of_change hHolds hFound hSound hUpdate hRow hRun

end Upsert

end ModelStore
