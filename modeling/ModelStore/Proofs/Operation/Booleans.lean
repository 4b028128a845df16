import ModelStore.Proofs.Operation.Integrity
import ModelStore.Proofs.Operation.UpsertCorrect

/-!
# Booleans

A boolean is stored as a number, zero or one.  It is written, compared and read by three different
rules: a value that is written is converted as the column of an integer converts it, a boolean in a
condition is compared as zero or one, and what is read is true for every number but zero.

The three agree on nulls, on zero and on one, and on nothing else.  Since the values of a payload
are not looked at, nothing keeps anything else out of the column.

## Main definitions

* `Cell.IsFlag`, `Json.IsFlag`: what is stored for a boolean, and values of which that is left.
* `StoredTable.Reads`: a column that is read as it is compared.

## Main results

* `Cell.agrees_iff`: where comparing and reading agree.
* `StoredTable.Holds.reads_iff`: the same of a column.
* `Schema.booleans_read_iff`: when the columns of booleans are read as they are compared.
-/

namespace ModelStore

variable {ι : Type}

/-! ## Cells -/

/-- What is stored for a boolean: nothing, zero or one. -/
def Cell.IsFlag (cell : Cell) : Prop := cell = .null ∨ cell = .int 0 ∨ cell = .int 1

instance (cell : Cell) : Decidable cell.IsFlag :=
  inferInstanceAs (Decidable (cell = .null ∨ cell = .int 0 ∨ cell = .int 1))

/-- A cell in a column of booleans that is read as it is compared: a condition takes it for a
boolean just if it is read as that, and if it is not null, it is read as one. -/
def Cell.Agrees (cell : Cell) : Prop :=
  (∀ b, IsOperand (cell, .integer) (.bool b) ↔ cell.toJson .boolean = .bool b) ∧
    (cell ≠ .null → ∃ b, cell.toJson .boolean = .bool b)

/-- A number is taken for a boolean if it is its number. -/
theorem isOperand_bool_iff {i : Int} {b : Bool} :
    IsOperand (.int i, .integer) (.bool b) ↔ i = if b then 1 else 0 := by
  have hOperand : Affinity.integer.operand (Json.bool b).bound = .int (if b then 1 else 0) := by
    cases b <;> rfl
  have hOrder : ∀ j : Int, Sql.Comparison.eq.holds (Cell.order (.int i) (.int j)) = true ↔ i = j := by
    intro j
    rw [Sql.Comparison.holds, beq_iff_eq]
    change compare i j = .eq ↔ i = j
    exact Std.LawfulEqCmp.compare_eq_iff_eq
  change Relates .eq (.int i, .integer) (Json.bool b).bound ↔ _
  rw [Relates, hOperand, hOrder]
  have hSolid : (Json.bool b).bound ≠ .null := by cases b <;> exact Cell.noConfusion
  exact ⟨fun hAll => hAll.2.2, fun hSame => ⟨Cell.noConfusion, hSolid, hSame⟩⟩

/-- **Cells**: reading agrees with comparing on nulls, on zero and on one. -/
theorem Cell.agrees_iff {cell : Cell} : cell.Agrees ↔ cell.IsFlag := by
  constructor
  · rintro ⟨hCompared, hRead⟩
    by_cases hNull : cell = .null
    · exact .inl hNull
    · obtain ⟨b, hSeen⟩ := hRead hNull
      have hOperand := (hCompared b).mpr hSeen
      cases cell with
      | null => exact absurd rfl hNull
      | int i =>
          rw [isOperand_bool_iff] at hOperand
          cases b with
          | false => exact .inr (.inl (congrArg Cell.int hOperand))
          | true => exact .inr (.inr (congrArg Cell.int hOperand))
      | real x => cases x <;> cases hSeen
      | text s | rawText bytes | blob bytes => cases hSeen
  · rintro (rfl | rfl | rfl)
    · refine ⟨fun b => ⟨fun hOperand => ?_, nofun⟩, fun hNull => absurd rfl hNull⟩
      exact absurd rfl (show Cell.null ≠ .null from hOperand.1)
    · refine ⟨fun b => ?_, fun _ => ⟨false, rfl⟩⟩
      rw [isOperand_bool_iff]
      cases b <;> simp [Cell.toJson]
    · refine ⟨fun b => ?_, fun _ => ⟨true, rfl⟩⟩
      rw [isOperand_bool_iff]
      cases b <;> simp [Cell.toJson]

/-! ## Columns -/

/-- A column that is read as it is compared: a condition that it is true, or false, selects the rows
in which it is read as that, and what is read of it is a boolean where it is not null. -/
structure StoredTable.Reads (stored : StoredTable) (table : Table ι) (column : Column) : Prop where
  selected : ∀ b, ∃ terms,
    Conditions.compile table none [(column.name, .equals (.bool b))] = .ok terms ∧
      ∀ row ∈ stored.rows,
        row ∈ stored.choose terms ↔ (table.cell row column.name).toJson column.type = .bool b
  seen : ∀ row ∈ stored.rows, table.cell row column.name ≠ .null →
    ∃ b, (table.cell row column.name).toJson column.type = .bool b

section Columns

variable {stored : StoredTable} {table : Table ι} (hHolds : stored.Holds table) {column : Column}
  (hColumn : column ∈ table.columns) (hBoolean : column.type = .boolean)

include hHolds hColumn hBoolean

/-- The condition that a column is true, or false, on a row. -/
theorem StoredTable.Holds.mem_choose_bool (b : Bool) :
    ∃ terms, Conditions.compile table none [(column.name, .equals (.bool b))] = .ok terms ∧
      ∀ row ∈ stored.rows, row ∈ stored.choose terms ↔
        IsOperand (table.cell row column.name, .integer) (.bool b) := by
  have hKnown := hHolds.column?_name hColumn
  have hCompiled : Conditions.compile table none [(column.name, .equals (.bool b))] =
      .ok [.compare (.column ⟨none, column.name⟩) .eq (.int (if b then 1 else 0))] := by
    have hUnknown : Conditions.unknownColumn? table [(column.name, .equals (.bool b))] = none := by
      rw [Conditions.unknownColumn?, List.find?_cons_of_neg (by simp [hKnown])]
      rfl
    rw [Conditions.compile, hUnknown]
    rfl
  refine ⟨_, hCompiled, fun row hRow => ?_⟩
  have hValue := (hHolds.value_of_column? hRow hKnown).1
  rw [hHolds.choose_eq hCompiled, List.mem_filter, decide_eq_true_iff, and_iff_right hRow,
    Conditions.Holds, List.forall_mem_singleton, Condition.Holds, hValue, hBoolean]
  rfl

/-- **Columns**: a column of booleans is read as it is compared just if it holds nothing but nulls,
zeros and ones. -/
theorem StoredTable.Holds.reads_iff :
    stored.Reads table column ↔ ∀ row ∈ stored.rows, (table.cell row column.name).IsFlag := by
  constructor
  · intro hReads row hRow
    refine Cell.agrees_iff.mp ⟨fun b => ?_, fun hSolid => ?_⟩
    · obtain ⟨terms, hCompiled, hSelected⟩ := hReads.selected b
      obtain ⟨others, hOthers, hOperand⟩ := hHolds.mem_choose_bool hColumn hBoolean b
      obtain rfl := Except.ok.inj (hCompiled.symm.trans hOthers)
      rw [← hOperand row hRow, hSelected row hRow, hBoolean]
    · rw [← hBoolean]
      exact hReads.seen row hRow hSolid
  · intro hFlags
    refine ⟨fun b => ?_, fun row hRow hSolid => ?_⟩
    · obtain ⟨terms, hCompiled, hOperand⟩ := hHolds.mem_choose_bool hColumn hBoolean b
      refine ⟨terms, hCompiled, fun row hRow => ?_⟩
      rw [hOperand row hRow, hBoolean]
      exact (Cell.agrees_iff.mpr (hFlags row hRow)).1 b
    · rw [hBoolean]
      exact (Cell.agrees_iff.mpr (hFlags row hRow)).2 hSolid

end Columns

/-! ## Values -/

/-- A value of which a column of booleans makes what is stored for one. -/
def Json.IsFlag (value : Json) : Prop := (Affinity.integer.store value.bound).IsFlag

instance (value : Json) : Decidable value.IsFlag :=
  inferInstanceAs (Decidable (Affinity.integer.store value.bound).IsFlag)

/-- Booleans are such values. -/
theorem isFlag_bool (b : Bool) : (Json.bool b).IsFlag := by cases b <;> decide

/-- A cell that is what is stored for a boolean, if it stands in a column of booleans. -/
def Flagged (column : Column) (cell : Cell) : Prop := column.type = .boolean → cell.IsFlag

/-- An operation whose payloads give nothing else to the columns of booleans. -/
def Operation.GivesFlags (table : Table ι) (operation : Operation) : Prop :=
  ∀ data ∈ operation.payloads, ∀ entry ∈ data, ∀ column, table.column? entry.1 = some column →
    column.type = .boolean → entry.2.IsFlag

theorem Operation.GivesFlags.offers {table : Table ι} {operation : Operation}
    (hGives : operation.GivesFlags table) : operation.Offers table Flagged := by
  intro data hData entry hEntry column hColumn hBoolean
  have hFlag := hGives data hData entry hEntry column hColumn hBoolean
  rw [hBoolean]
  exact hFlag

/-- A table whose columns of booleans are no primary keys and start as nulls or as booleans puts
nothing else there by itself. -/
theorem Table.provides_flagged {table : Table ι}
    (hColumns : ∀ column ∈ table.columns, column.type = .boolean →
      column.primaryKey = false ∧
        (column.initial = .none ∨ ∃ b, column.initial = .boolean b)) :
    table.Provides Flagged where
  initial column hColumn now hBoolean := by
    rw [hBoolean]
    obtain ⟨-, hNone | ⟨b, hInitial⟩⟩ := hColumns column hColumn hBoolean
    · rw [hNone]
      exact .inl rfl
    · rw [hInitial]
      exact isFlag_bool b
  rowId i column hKey hColumn id hBoolean := by
    obtain ⟨hFree, -⟩ := hColumns column (List.mem_of_getElem? hColumn) hBoolean
    obtain ⟨hPlace, hPrimary, -⟩ := List.findIdx?_eq_some_iff_getElem.mp hKey
    obtain rfl := Option.some.inj ((List.getElem?_eq_getElem hPlace).symm.trans hColumn)
    rw [hFree] at hPrimary
    cases hPrimary
  identifier column hColumn hMade text hBoolean := by
    obtain ⟨-, hNone | ⟨b, hInitial⟩⟩ := hColumns column hColumn hBoolean
    · cases hMade.symm.trans hNone
    · cases hMade.symm.trans hInitial

/-! ## Stores -/

section Stores

variable {schema : Schema ι}

/-- **Creations**: whatever value a creation gives to a column that is not the row id, some row then
has what the column makes of it. -/
theorem Session.exists_cell_of_create {world : World} {session after : Session} {key : ι}
    (hStore : session.store.Holds schema) {column : Column} {i : Nat}
    (hColumn : (schema.table key).columns[i]? = some column)
    (hOther : StoredTable.rowIdOf (schema.table key).columns ≠ some i) {data : Payload}
    {value : Json} (hGiven : data.get? column.name = some value) {outcome : Outcome}
    (hPerform : session.perform schema world key (.create ⟨data⟩) = (.ok outcome, after)) :
    ∃ stored, after.store.table? (schema.table key).name = some stored ∧ ∃ row ∈ stored.rows,
      (schema.table key).cell row column.name = column.type.affinity.store value.bound := by
  obtain ⟨stored, hFound, hHolds⟩ := hStore key
  obtain ⟨values, hValues, hRun⟩ := Session.exists_of_perform_create hPerform
  obtain ⟨answer, -, -, hAnswer, -⟩ := Statement.answer_of_onlyRow hRun
  have hWithin : ((schema.table key).created (fun k => world.freshId (session.issued + k)) data
      values).Within (schema.table key) := Table.within_created hValues
  obtain ⟨row, left, hInsert, hLeft, -⟩ := exists_of_answer_insert hFound hHolds hWithin hAnswer
  have hCell := hHolds.cell_of_insert hWithin hInsert hColumn
  rw [hHolds.rowId_eq, if_neg hOther, Table.given?_created hValues hGiven,
    Option.getD_some] at hCell
  refine ⟨left, ?_, row, ?_, hCell⟩
  · rw [hLeft]
    exact Store.table?_put_self hFound (StoredTable.name_of_insert hInsert)
  · obtain ⟨_, -, -, -, rfl⟩ := StoredTable.insert_eq_ok.mp hInsert
    exact StoredTable.mem_place.mpr (.inl rfl)

/-- **Booleans**: whatever operations lead to a store, a column of booleans is read as it is
compared just if it holds nothing but nulls, zeros and ones.  That is so if nothing else is ever
given to one, and it is not after a creation that does give something else. -/
theorem Schema.booleans_read_iff (hDistinct : schema.Distinct) (key : ι) :
    (∀ store, schema.Reachable store →
      ∃ stored, store.table? (schema.table key).name = some stored ∧
        ∀ column ∈ (schema.table key).columns, column.type = .boolean →
          (stored.Reads (schema.table key) column ↔
            ∀ row ∈ stored.rows, ((schema.table key).cell row column.name).IsFlag)) ∧
    ((∀ other, (schema.table other).Provides Flagged) →
      ∀ store, schema.Reaches (fun other operation => operation.GivesFlags (schema.table other))
          store →
        ∃ stored, store.table? (schema.table key).name = some stored ∧
          ∀ column ∈ (schema.table key).columns, column.type = .boolean →
            stored.Reads (schema.table key) column) ∧
    ∀ (world : World) (session after : Session), schema.Reachable session.store →
      ∀ (i : Nat) (column : Column) (data : Payload) (value : Json) (outcome : Outcome),
        (schema.table key).columns[i]? = some column → column.type = .boolean →
        StoredTable.rowIdOf (schema.table key).columns ≠ some i →
        data.get? column.name = some value → ¬value.IsFlag →
        session.perform schema world key (.create ⟨data⟩) = (.ok outcome, after) →
        ∃ stored, after.store.table? (schema.table key).name = some stored ∧
          ¬stored.Reads (schema.table key) column := by
  refine ⟨fun store hReachable => ?_, fun hProvides store hReaches => ?_, ?_⟩
  · obtain ⟨stored, hFound, hHolds⟩ := hReachable.holds hDistinct key
    exact ⟨stored, hFound, fun column hColumn hBoolean => hHolds.reads_iff hColumn hBoolean⟩
  · obtain ⟨stored, hFound, hHolds⟩ := hReaches.holds hDistinct key
    have hContains := hReaches.contains hDistinct hProvides fun other operation hGives =>
      Operation.GivesFlags.offers hGives
    refine ⟨stored, hFound, fun column hColumn hBoolean => ?_⟩
    exact (hHolds.reads_iff hColumn hBoolean).mpr fun row hRow =>
      hContains key stored hFound row hRow column hColumn hBoolean
  · intro world session after hReachable i column data value outcome hColumn hBoolean hOther hGiven
      hFlag hPerform
    obtain ⟨stored, hFound, row, hRow, hCell⟩ := Session.exists_cell_of_create
      (hReachable.holds hDistinct) hColumn hOther hGiven hPerform
    have hAfter : schema.Reachable after.store := by
      have hLeft : (session.perform schema world key (.create ⟨data⟩)).2 = after := by rw [hPerform]
      exact hLeft ▸ .performed world key trivial hReachable
    refine ⟨stored, hFound, fun hReads => hFlag ?_⟩
    have hHolds := (hAfter.holds hDistinct).of_table? hFound
    have hFlags := (hHolds.reads_iff (List.mem_of_getElem? hColumn) hBoolean).mp hReads row hRow
    rw [hCell, hBoolean] at hFlags
    exact hFlags

end Stores

/-! ## Printers that are a default -/

/-- A printer of which it is said, by a value, whether it is a default. -/
def printerWith (value : Json) : Operation :=
  .create ⟨[("name", .text "Desk"), ("isDefault", value), ("userId", .text "u1")]⟩

theorem givesFlags_printerWith {value : Json} (hFlag : value.IsFlag) :
    (printerWith value).GivesFlags (builtIn.table .printers) := by
  intro data hData entry hEntry column hColumn hBoolean
  obtain rfl := List.mem_singleton.mp hData
  rcases List.mem_cons.mp hEntry with rfl | hEntry
  · obtain rfl := Option.some.inj
      (hColumn.symm.trans (show _ = some (Column.plain "name" .text).notNull from rfl))
    cases hBoolean
  rcases List.mem_cons.mp hEntry with rfl | hEntry
  · exact hFlag
  · obtain rfl := List.mem_singleton.mp hEntry
    obtain rfl := Option.some.inj
      (hColumn.symm.trans (show _ = some (Column.plain "userId" .text).notNull from rfl))
    cases hBoolean

/-- The session of the application in which a printer has just been created. -/
def printerSession (value : Json) : Session :=
  ((Session.start emptyDesk none .deny).perform builtIn deskWorld .printers (printerWith value)).2

/-- The column that says of a printer whether it is a default. -/
def isDefaultColumn : Column := (Column.plain "isDefault" .boolean).startingAs (.boolean false)

/-- A printer that is a default because of a boolean can be found as one; of a printer that is one
because of the number two, it is read that it is a default, but it is not found as one. -/
theorem Schema.booleans_read_iff_printers :
    (∃ stored, (printerSession (.bool true)).store.table? "printers" = some stored ∧
      stored.Reads BuiltIn.printersTable isDefaultColumn) ∧
    ∃ stored, (printerSession (.int 2)).store.table? "printers" = some stored ∧
      ¬stored.Reads BuiltIn.printersTable isDefaultColumn := by
  have hColumn : BuiltIn.printersTable.columns[2]? = some isDefaultColumn := rfl
  obtain ⟨-, hFlags, hOthers⟩ := Schema.booleans_read_iff builtIn_distinct .printers
  constructor
  · have hProvides : ∀ other, (builtIn.table other).Provides Flagged := fun other =>
      Table.provides_flagged (by cases other <;> decide +kernel)
    have hReaches : builtIn.Reaches (fun other operation => operation.GivesFlags
        (builtIn.table other)) (printerSession (.bool true)).store :=
      reaches_of_perform bootstrap_builtIn (givesFlags_printerWith (isFlag_bool true))
        (by rw [printerSession])
    obtain ⟨stored, hFound, hReads⟩ := hFlags hProvides _ hReaches
    exact ⟨stored, hFound, hReads isDefaultColumn (List.mem_of_getElem? hColumn) rfl⟩
  · obtain ⟨outcome, after, hPerform⟩ := Session.exists_of_isOk
      (show ((Session.start emptyDesk none .deny).perform builtIn deskWorld .printers
        (printerWith (.int 2))).1.isOk = true by decide +kernel)
    obtain ⟨stored, hFound, hReads⟩ := hOthers deskWorld (Session.start emptyDesk none .deny)
      after (.created bootstrap_builtIn) 2 isDefaultColumn _ (.int 2) outcome hColumn rfl
      (by decide +kernel) rfl (by decide +kernel) hPerform
    rw [printerSession, hPerform]
    exact ⟨stored, hFound, hReads⟩

end ModelStore
