import ModelStore.Proofs.Operation.Answering

/-!
# What mutations do to a table

A mutation puts its table back with one row more, with some rows changed, or without some rows.  It
says which rows by a condition, which may be absent, and what to write by a payload.  Here the
answer of each statement is put in these terms: which rows it concerns, what becomes of them, and
that the others stay as they are.

## Main definitions

* `Table.Meets`: rows under a condition that may be absent.
* `Table.chosen`, `Table.spared`: the rows under such a condition, and the others.
* `Table.Patched`: a row with the values of a payload in place of its own.
* `StoredTable.Gains`, `Table.Changes`, `Table.Loses`: what mutations do to a table.

## Main results

* `StoredTable.Holds.choose_eq_chosen`: the rows under a conjunction are those under the condition.
* `exists_of_answer_insert`, `changes_of_answer`, `answer_delete`: what the statements of mutations
  do.
* `answer_count`: what a count answers.
-/

namespace ModelStore

open Sql (Expr)

variable {ι : Type}

/-! ## Rows under a condition -/

/-- Whether a row satisfies a condition that may be absent. -/
def Table.Meets (table : Table ι) (filter : Option Conditions) (row : StoredRow) : Prop :=
  ∀ conditions ∈ filter, conditions.Holds table row

instance (table : Table ι) (filter : Option Conditions) (row : StoredRow) :
    Decidable (table.Meets filter row) :=
  inferInstanceAs (Decidable (∀ conditions ∈ filter, conditions.Holds table row))

/-- The rows that satisfy a condition. -/
def Table.chosen (table : Table ι) (filter : Option Conditions) (rows : List StoredRow) :
    List StoredRow :=
  rows.filter fun row => decide (table.Meets filter row)

/-- The rows that do not. -/
def Table.spared (table : Table ι) (filter : Option Conditions) (rows : List StoredRow) :
    List StoredRow :=
  rows.filter fun row => decide (¬table.Meets filter row)

section Chosen

variable {table : Table ι} {filter : Option Conditions} {rows : List StoredRow}

theorem Table.meets_some {conditions : Conditions} {row : StoredRow} :
    table.Meets (some conditions) row ↔ conditions.Holds table row := by
  simp [Table.Meets]

@[simp] theorem Table.mem_chosen {row : StoredRow} :
    row ∈ table.chosen filter rows ↔ row ∈ rows ∧ table.Meets filter row := by
  rw [chosen, List.mem_filter, decide_eq_true_iff]

/-- Without a condition, all rows are chosen. -/
@[simp] theorem Table.chosen_none : table.chosen none rows = rows :=
  List.filter_eq_self.mpr fun row _ => by simp [Table.Meets]

theorem Table.chosen_some (conditions : Conditions) :
    table.chosen (some conditions) rows =
      rows.filter fun row => decide (conditions.Holds table row) :=
  List.filter_congr fun _ _ => decide_eq_decide.mpr Table.meets_some

theorem Table.spared_some (conditions : Conditions) :
    table.spared (some conditions) rows =
      rows.filter fun row => decide (¬conditions.Holds table row) :=
  List.filter_congr fun _ _ => decide_eq_decide.mpr (not_congr Table.meets_some)

/-- The rows under a conjunction are those under the condition that it was compiled from. -/
theorem StoredTable.Holds.choose_eq_chosen {stored : StoredTable} (hHolds : stored.Holds table)
    {terms : List Expr} (hTerms : compileFilter table none filter = .ok terms) :
    stored.choose terms = table.chosen filter stored.rows := by
  cases filter with
  | none =>
      cases hTerms
      rw [Table.chosen_none]
      exact List.filter_eq_self.mpr fun _ _ => rfl
  | some conditions => rw [Table.chosen_some, hHolds.choose_eq hTerms]

/-- The rows whose ids are not among those of the chosen rows are the spared ones. -/
theorem StoredTable.Sound.filter_eq_spared {stored : StoredTable} (hSound : stored.Sound) :
    (stored.rows.filter fun row =>
        decide (row.id ∉ (table.chosen filter stored.rows).map (·.id))) =
      table.spared filter stored.rows := by
  refine List.filter_congr fun row hRow => decide_eq_decide.mpr (not_congr ?_)
  rw [List.mem_map]
  constructor
  · rintro ⟨other, hOther, hId⟩
    obtain ⟨hMem, hMeets⟩ := Table.mem_chosen.mp hOther
    rwa [← List.inj_on_of_nodup_map hSound.nodup_ids hMem hRow hId]
  · exact fun hMeets => ⟨row, Table.mem_chosen.mpr ⟨hRow, hMeets⟩, rfl⟩

end Chosen

/-! ## Payloads -/

/-- A row with the values of a payload in place of its own, each as its column converts it.  Of
several values for a column the last one counts. -/
def Table.Patched (table : Table ι) (data : Payload) (before after : StoredRow) : Prop :=
  ∀ column ∈ table.columns, table.cell after column.name =
    ((data.reverse.lookup column.name).map fun value =>
      column.type.affinity.store value.bound).getD (table.cell before column.name)

theorem Assignments.given?_eq_lookup (assignments : Assignments) (name : String) :
    assignments.given? name =
      (assignments.map fun entry => (entry.1.name, entry.2)).lookup name := by
  induction assignments with
  | nil => rfl
  | cons entry assignments ih =>
      rw [given?, List.find?_cons, List.map_cons, List.lookup_cons, BEq.comm]
      cases name == entry.1.name
      · exact ih
      · rfl

theorem lookup_map_snd {α β : Type} (f : α → β) (fields : List (String × α)) (name : String) :
    (fields.map fun entry => (entry.1, f entry.2)).lookup name = (fields.lookup name).map f := by
  induction fields with
  | nil => rfl
  | cons entry fields ih =>
      rw [List.map_cons, List.lookup_cons, List.lookup_cons]
      cases name == entry.1
      · exact ih
      · rfl

section Payloads

variable {table : Table ι} {data : Payload}

/-- A payload is compiled value by value. -/
theorem Payload.map_of_compile :
    ∀ {values : Assignments}, Payload.compile table data = .ok values →
      values.Within table ∧
        values.map (fun entry => (entry.1.name, entry.2)) =
          data.map fun entry => (entry.1, entry.2.bound) := by
  induction data with
  | nil =>
      intro values hValues
      cases hValues
      exact ⟨fun _ hEntry => absurd hEntry List.not_mem_nil, rfl⟩
  | cons entry data ih =>
      intro values hValues
      obtain ⟨name, value⟩ := entry
      rw [Payload.compile] at hValues
      split at hValues
      · cases hValues
      · rename_i column hColumn
        obtain ⟨cell, hCell, hSteps⟩ := bind_eq_ok.mp hValues
        obtain ⟨others, hOthers, hPure⟩ := bind_eq_ok.mp hSteps
        obtain ⟨hMem, rfl⟩ := Table.mem_of_column? hColumn
        obtain ⟨hWithin, hMap⟩ := ih hOthers
        rw [← pure_eq_ok.mp hPure, List.map_cons, List.map_cons, hMap, bound_of_ofJson hCell]
        exact ⟨List.forall_mem_cons.mpr ⟨hMem, hWithin⟩, rfl⟩

/-- What a change gives to a column is the last value that the payload has for it. -/
theorem Payload.given?_reverse {values : Assignments}
    (hValues : Payload.compile table data = .ok values) (name : String) :
    Assignments.given? values.reverse name = (data.reverse.lookup name).map Json.bound := by
  have hMap := congrArg List.reverse (Payload.map_of_compile hValues).2
  rw [← List.map_reverse, ← List.map_reverse] at hMap
  rw [Assignments.given?_eq_lookup, hMap, lookup_map_snd]

/-- A change that is compiled has something to write, under a condition that was compiled. -/
theorem Table.exists_of_change {filter : Option Conditions} {asked : Bool} {statement : Statement}
    (hChange : table.change filter data asked = .ok statement) :
    ∃ values terms, Payload.compile table data = .ok values ∧
      compileFilter table none filter = .ok terms ∧
      statement = .update table.name values terms (table.returned asked) := by
  rw [change] at hChange
  split at hChange
  · cases hChange
  · obtain ⟨values, hValues, hRest⟩ := bind_eq_ok.mp hChange
    obtain ⟨terms, hTerms, hPure⟩ := bind_eq_ok.mp hRest
    exact ⟨values, terms, hValues, hTerms, (pure_eq_ok.mp hPure).symm⟩

end Payloads

/-! ## What is done to a table -/

/-- One row comes to the rows of a table of a store, and they stay as they are. -/
def StoredTable.Gains (stored : StoredTable) (store left : Store) (row : StoredRow) : Prop :=
  ∃ rows, left = store.put { stored with rows := rows } ∧ rows.Perm (row :: stored.rows)

/-- The rows under a condition get the values of a payload, and the others stay as they are. -/
def Table.Changes (table : Table ι) (filter : Option Conditions) (data : Payload)
    (stored : StoredTable) (store left : Store) (made : List StoredRow) : Prop :=
  ∃ rows, left = store.put { stored with rows := rows } ∧
    List.Forall₂ (table.Patched data) (table.chosen filter stored.rows) made ∧
    rows.Perm (made ++ table.spared filter stored.rows)

/-- The rows under a condition are gone, and the others stay as they are. -/
def Table.Loses (table : Table ι) (filter : Option Conditions) (stored : StoredTable)
    (store left : Store) : Prop :=
  left = store.put { stored with rows := table.spared filter stored.rows }

/-- As many rows are made as were chosen, also where a row is made that is no other. -/
theorem Table.Changes.length_eq {table : Table ι} {filter : Option Conditions} {data : Payload}
    {stored : StoredTable} {store left : Store} {made : List StoredRow}
    (hChanges : table.Changes filter data stored store left made) :
    made.length = (table.chosen filter stored.rows).length := by
  obtain ⟨_, -, hMade, -⟩ := hChanges
  exact hMade.length_eq.symm

section Answers

variable {store : Store} {stored : StoredTable} {table : Table ι}
  (hFound : store.table? table.name = some stored) (hHolds : stored.Holds table) {now : Int}

include hFound hHolds

/-- **Insertions**: one row comes to the others, and is returned. -/
theorem exists_of_answer_insert {assignments : Assignments} (hWithin : assignments.Within table)
    {answer : Answer} {left : Store}
    (hAnswer : (Statement.insert table.name assignments table.columns).answer now store =
      .ok (answer, left)) :
    ∃ row after, stored.insert now (stored.slotsOf assignments) = .ok (row, after) ∧
      left = store.put after ∧
      answer.records (table.columns.map OutputColumn.of) = [table.record row] := by
  rw [answer_insert hFound hHolds hWithin] at hAnswer
  cases hInsert : stored.insert now (stored.slotsOf assignments) with
  | error e => rw [hInsert] at hAnswer; cases hAnswer
  | ok result =>
      rw [hInsert] at hAnswer
      obtain ⟨rfl, rfl⟩ := Prod.mk.inj (Except.ok.inj hAnswer)
      refine ⟨result.1, result.2, rfl, rfl, ?_⟩
      refine (hHolds.of_insert hInsert).records_answer (List.forall_mem_singleton.mpr ?_)
      obtain ⟨_, -, -, -, hAfter⟩ := StoredTable.insert_eq_ok.mp hInsert
      rw [hAfter]
      exact StoredTable.mem_place.mpr (.inl rfl)

omit hFound hHolds in
/-- A table that takes a row gains it. -/
theorem StoredTable.gains_of_insert {values : StoredTable.SlotValues} {row : StoredRow}
    {after : StoredTable} (hInsert : stored.insert now values = .ok (row, after)) :
    stored.Gains store (store.put after) row := by
  obtain ⟨_, -, -, -, rfl⟩ := StoredTable.insert_eq_ok.mp hInsert
  exact ⟨_, rfl, StoredTable.place_perm row stored.rows⟩

section Filtered

variable {filter : Option Conditions} {terms : List Expr}
  (hTerms : compileFilter table none filter = .ok terms)

include hTerms

/-- **Changes**: the rows under the condition get the values of the payload, the others stay as they
are, and the changed ones are returned. -/
theorem changes_of_answer {data : Payload} {values : Assignments}
    (hValues : Payload.compile table data = .ok values) (hSound : stored.Sound) {asked : Bool}
    {answer : Answer} {left : Store}
    (hAnswer : (Statement.update table.name values terms (table.returned asked)).answer now store =
      .ok (answer, left)) :
    ∃ made, table.Changes filter data stored store left made ∧ answer.affected = made.length ∧
      (asked = true →
        answer.records (table.columns.map OutputColumn.of) = made.map table.record) := by
  have hWithin := (Payload.map_of_compile hValues).1
  rw [answer_update hFound hHolds hWithin, hHolds.choose_eq_chosen hTerms] at hAnswer
  obtain ⟨⟨made, after⟩, hUpdate, hPair⟩ := map_eq_ok.mp hAnswer
  obtain ⟨rfl, rfl⟩ := Prod.mk.inj hPair
  have hChosen : ∀ row ∈ table.chosen filter stored.rows, row ∈ stored.rows := fun row hRow =>
    (Table.mem_chosen.mp hRow).1
  have hIds : ((table.chosen filter stored.rows).map (·.id)).Nodup :=
    hSound.nodup_ids.sublist (List.filter_sublist.map _)
  obtain ⟨hAfter, hMade, hPerm⟩ := StoredTable.perm_of_updateRows hChosen hIds hUpdate
  rw [hSound.filter_eq_spared] at hPerm
  refine ⟨made, ⟨after.rows, congrArg store.put hAfter, ?_, hPerm⟩, rfl, ?_⟩
  · refine .imp ?_ ((List.forall₂_and_left _ _).mpr ⟨hChosen, hMade⟩)
    rintro row made ⟨hRow, hAssign⟩ column hColumn
    rw [hHolds.cell_of_assign hWithin.reverse (hHolds.fits hRow) hAssign hColumn,
      Payload.given?_reverse hValues, Option.map_map]
    rfl
  · rintro rfl
    exact (hHolds.of_update hChosen hUpdate).records_answer fun row hRow =>
      hPerm.mem_iff.mpr (List.mem_append_left _ hRow)

/-- **Removals**: the rows under the condition go, and are returned as they were. -/
theorem answer_delete (hSound : stored.Sound) (returned : Option (List Column)) :
    (Statement.delete table.name terms returned).answer now store =
      .ok (stored.answer returned (table.chosen filter stored.rows),
        store.put { stored with rows := table.spared filter stored.rows }) := by
  have hLeft : stored.delete (stored.choose terms) =
      { stored with rows := table.spared filter stored.rows } := by
    rw [hHolds.choose_eq_chosen hTerms, ← hSound.filter_eq_spared, StoredTable.delete]
    congr 1
    refine List.filter_congr fun row _ => ?_
    rw [List.contains_eq_mem, decide_not]
  rw [Statement.answer, Statement.tableOf_eq_ok.mpr hFound, ← hLeft,
    ← hHolds.choose_eq_chosen hTerms]
  rfl

/-- **Counts**: the number of the rows under the condition. -/
theorem answer_count :
    (Statement.count table.name terms).answer now store =
      .ok (⟨[], (table.chosen filter stored.rows).length⟩, store) := by
  rw [Statement.answer, Statement.tableOf_eq_ok.mpr hFound, ← hHolds.choose_eq_chosen hTerms]
  rfl

end Filtered

end Answers

end ModelStore
