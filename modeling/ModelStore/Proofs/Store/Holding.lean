import ModelStore.Proofs.Schema.Creation
import ModelStore.Query.Eval

/-!
# Stored tables that hold a described table

A store looks names up regardless of the case of their letters, a description looks them up as
they are written.  The two agree on a stored table that was created from the description, since
creation refuses columns whose names are the same up to case.

What later modules need of such a table is said here once: its columns are those of the
description, every row has a cell for each of them that the column keeps as it is, and a
reference to a column of a row in scope means the cell under that column.

## Main definitions

* `DistinctNames`: names of which no two are the same up to case.
* `Table.value`: the cell of a row under the name of a described column, with its affinity.
* `StoredTable.Holds`, `Store.Holds`: stored tables that were created from descriptions.

## Main results

* `StoredTable.Holds.distinctNames`: the columns of a table that was created have distinct names.
* `StoredTable.Holds.cell?_bind`: what a name means in a row of a table that was created.
-/

namespace ModelStore

open Sql (ColumnRef)

/-! ## Steps that may fail -/

/-- A sequence of steps succeeds just if each of them does. -/
theorem bind_eq_ok {ε α β : Type} {x : Except ε α} {f : α → Except ε β} {b : β} :
    x >>= f = .ok b ↔ ∃ a, x = .ok a ∧ f a = .ok b := by
  cases x with
  | error e =>
      constructor
      · intro h
        cases h
      · rintro ⟨a, h, -⟩
        cases h
  | ok a =>
      constructor
      · exact fun h => ⟨a, rfl, h⟩
      · rintro ⟨_, h, hf⟩
        cases h
        exact hf

theorem ok_bind {ε α β : Type} (a : α) (f : α → Except ε β) : Except.ok a >>= f = f a := rfl

theorem pure_eq_ok {ε α : Type} {a b : α} : (pure a : Except ε α) = .ok b ↔ a = b :=
  Except.ok.injEq a b ▸ Iff.rfl

theorem map_eq_ok {ε α β : Type} {f : α → β} {x : Except ε α} {b : β} :
    f <$> x = .ok b ↔ ∃ a, x = .ok a ∧ f a = b := by
  cases x with
  | error e =>
      constructor
      · intro h
        cases h
      · rintro ⟨a, h, -⟩
        cases h
  | ok a =>
      constructor
      · exact fun h => ⟨a, rfl, Except.ok.inj h⟩
      · rintro ⟨_, h, rfl⟩
        cases h
        rfl

theorem ok_of_toOption {ε α : Type} {x : Except ε α} {a : α} (h : x.toOption = some a) :
    x = .ok a := by
  cases x with
  | error e => cases h
  | ok b =>
      cases h
      rfl

/-! ## Names up to case -/

/-- A name without the case of its letters. -/
def foldedName (name : String) : List Char := name.toList.map Char.toLower

theorem sameName_iff {a b : String} :
    sameName a b = true ↔ foldedName a = foldedName b := by
  simp [sameName, foldedName]

@[simp] theorem sameName_self (a : String) : sameName a a = true :=
  sameName_iff.mpr rfl

/-- Names of which no two are the same up to case. -/
def DistinctNames (names : List String) : Prop := (names.map foldedName).Nodup

instance (names : List String) : Decidable (DistinctNames names) :=
  inferInstanceAs (Decidable (names.map foldedName).Nodup)

theorem DistinctNames.nodup {names : List String} (hDistinct : DistinctNames names) :
    names.Nodup :=
  List.Nodup.of_map foldedName hDistinct

/-- A sublist of distinct names is distinct. -/
theorem DistinctNames.sublist {names others : List String} (hDistinct : DistinctNames names)
    (hSub : others.Sublist names) : DistinctNames others :=
  List.Nodup.sublist (hSub.map foldedName) hDistinct

/-- An item that alone has a property is the one that is found by it. -/
theorem find?_eq_some_of_unique {α : Type} {p : α → Bool} {l : List α} {x : α} (hx : x ∈ l)
    (hp : p x = true) (hUnique : ∀ y ∈ l, p y = true → y = x) : l.find? p = some x := by
  induction l with
  | nil => simp at hx
  | cons y l ih =>
      by_cases hy : p y = true
      · have hyx : y = x := hUnique y (by simp) hy
        subst hyx
        simp [hp]
      · have hne : x ≠ y := fun h => hy (h ▸ hp)
        have hmem : x ∈ l := (List.mem_cons.mp hx).resolve_left hne
        rw [List.find?_cons_of_neg hy]
        exact ih hmem fun z hz => hUnique z (by simp [hz])

/-- Among items with distinct names, names that are the same up to case are of one item. -/
theorem DistinctNames.eq_of_sameName {α : Type} {f : α → String} {l : List α}
    (hDistinct : DistinctNames (l.map f)) {x y : α} (hx : x ∈ l) (hy : y ∈ l)
    (hSame : sameName (f x) (f y) = true) : x = y := by
  have hNodup : (l.map (foldedName ∘ f)).Nodup := by
    simpa [DistinctNames] using hDistinct
  exact List.inj_on_of_nodup_map hNodup hx hy (sameName_iff.mp hSame)

/-- Among items with distinct names, the one of a name is found by it, up to case. -/
theorem DistinctNames.find?_sameName {α : Type} {f : α → String} {l : List α}
    (hDistinct : DistinctNames (l.map f)) {x : α} (hx : x ∈ l) {name : String}
    (hName : sameName (f x) name = true) :
    (l.find? fun y => sameName (f y) name) = some x := by
  refine find?_eq_some_of_unique hx hName fun y hy hyName => ?_
  refine hDistinct.eq_of_sameName hy hx ?_
  rw [sameName_iff] at hName hyName ⊢
  exact hyName.trans hName.symm

/-- Among items with distinct names, the one of a name is found by it, as it is written. -/
theorem DistinctNames.find?_name {α : Type} {f : α → String} {l : List α}
    (hDistinct : DistinctNames (l.map f)) {x : α} (hx : x ∈ l) :
    (l.find? fun y => f y == f x) = some x := by
  refine find?_eq_some_of_unique hx (by simp) fun y hy hyName => ?_
  refine hDistinct.eq_of_sameName hy hx ?_
  rw [eq_of_beq hyName]
  exact sameName_self _

/-- A list without repetitions whose items are all the same has one item. -/
theorem eq_singleton_of_nodup {α : Type} {l : List α} {x : α} (hNodup : l.Nodup) (hx : x ∈ l)
    (hAll : ∀ y ∈ l, y = x) : l = [x] := by
  cases l with
  | nil => simp at hx
  | cons y l =>
      have hHead : y = x := hAll y (by simp)
      subst hHead
      have hNone : l = [] := List.eq_nil_iff_forall_not_mem.mpr fun z hz => by
        rw [hAll z (by simp [hz])] at hz
        exact (List.nodup_cons.mp hNodup).1 hz
      rw [hNone]

/-- Among items with distinct names, a test that only one name passes leaves the item of that
name. -/
theorem DistinctNames.filter_eq {α : Type} {f : α → String} {l : List α}
    (hDistinct : DistinctNames (l.map f)) {x : α} (hx : x ∈ l) {p : α → Bool} (hp : p x = true)
    (hOnly : ∀ y ∈ l, p y = true → sameName (f y) (f x) = true) : l.filter p = [x] := by
  have hNodup : l.Nodup := List.Nodup.of_map f hDistinct.nodup
  refine eq_singleton_of_nodup (hNodup.filter p) (List.mem_filter.mpr ⟨hx, hp⟩) fun y hy => ?_
  obtain ⟨hMem, hPasses⟩ := List.mem_filter.mp hy
  exact hDistinct.eq_of_sameName hMem hx (hOnly y hMem hPasses)

/-! ## Described columns and their cells -/

namespace Table

variable {ι : Type}

/-- The cell of a row under the name of a described column, with the affinity of the column. -/
def value (table : Table ι) (row : StoredRow) (name : String) : Cell × Affinity :=
  match (table.columns.zip row.cells).find? fun entry => entry.1.name == name with
  | some (column, cell) => (cell, column.type.affinity)
  | none => (.null, .none)

/-- The cell of a row under the name of a described column. -/
def cell (table : Table ι) (row : StoredRow) (name : String) : Cell := (table.value row name).1

/-- A column that is found is a column of the table, and has the name it was asked for by. -/
theorem mem_of_column? {table : Table ι} {name : String} {column : Column}
    (hColumn : table.column? name = some column) :
    column ∈ table.columns ∧ column.name = name := by
  refine ⟨List.mem_of_find?_eq_some hColumn, ?_⟩
  simpa using List.find?_some hColumn

theorem column?_isSome {table : Table ι} {column : Column} (hColumn : column ∈ table.columns) :
    (table.column? column.name).isSome = true :=
  List.find?_isSome.mpr ⟨column, hColumn, by simp⟩

end Table

/-! ## Tables that were created -/

/-- Whether a column of an affinity keeps a value as it is. -/
def Affinity.Keeps (affinity : Affinity) (cell : Cell) : Prop := affinity.store cell = cell

instance (affinity : Affinity) (cell : Cell) : Decidable (affinity.Keeps cell) :=
  inferInstanceAs (Decidable (affinity.store cell = cell))

namespace StoredTable

variable {ι : Type}

/-- A table that was created from a description, whatever rows it has got since: each has a cell
for every column that the column keeps. -/
structure Holds (stored : StoredTable) (table : Table ι) : Prop where
  created : ofTable table = .ok { stored with rows := [] }
  rows_fit : ∀ row ∈ stored.rows,
    List.Forall₂ (fun column cell => column.type.affinity.Keeps cell) table.columns row.cells

instance (stored : StoredTable) (table : Table ι) : Decidable (stored.Holds table) :=
  decidable_of_iff
    (ofTable table = .ok { stored with rows := [] } ∧ ∀ row ∈ stored.rows,
      List.Forall₂ (fun column cell => column.type.affinity.Keeps cell) table.columns row.cells)
    ⟨fun h => ⟨h.1, h.2⟩, fun h => ⟨h.created, h.rows_fit⟩⟩

/-- A null character breaks off a text. -/
theorem breaksOff_eq_false_iff {text : String} :
    breaksOff text = false ↔ '\x00' ∉ text.toList := by
  simp [breaksOff]

/-- Where a statement that breaks off is a fault, columns without a fault break off nothing. -/
theorem not_breaksOff_of_columnFault {name : String} {e : StoreError} {columns : List Column} :
    ∀ {before : List String} {keyed : Bool},
      columnFault name (some e) before keyed columns = none →
      ∀ column ∈ columns,
        breaksOff column.name = false ∧ breaksOff (column.initial.sql.getD "") = false := by
  induction columns with
  | nil => simp
  | cons column columns ih =>
      intro before keyed hFault
      unfold columnFault at hFault
      split_ifs at hFault with hName hCount hSame hKey hInitial
      rw [List.forall_mem_cons]
      exact ⟨⟨by simpa using hName, by simpa using hInitial⟩, ih hFault⟩

/-- Columns without a fault that break off nothing have names that differ from each other and from
those before them, up to case. -/
theorem distinct_of_columnFault {name : String} {unread : Option StoreError}
    {columns : List Column} :
    ∀ {before : List String} {keyed : Bool},
      (∀ column ∈ columns,
        breaksOff column.name = false ∧ breaksOff (column.initial.sql.getD "") = false) →
      columnFault name unread before keyed columns = none →
      DistinctNames (columns.map (·.name)) ∧
        ∀ column ∈ columns, before.any (sameName column.name) = false := by
  induction columns with
  | nil => simp [DistinctNames]
  | cons column columns ih =>
      intro before keyed hWhole hFault
      obtain ⟨⟨hName, hInitial⟩, hRest⟩ := List.forall_mem_cons.mp hWhole
      simp only [columnFault, hName, hInitial, Bool.false_eq_true, if_false] at hFault
      split_ifs at hFault with hCount hSame hKey
      obtain ⟨hDistinct, hBefore⟩ := ih hRest hFault
      have hOthers : ∀ other ∈ columns, sameName other.name column.name = false := by
        intro other hOther
        have := hBefore other hOther
        simp only [List.any_cons, Bool.or_eq_false_iff] at this
        exact this.1
      constructor
      · refine List.nodup_cons.mpr ⟨?_, hDistinct⟩
        rw [List.map_map, List.mem_map]
        rintro ⟨other, hOther, hFolded⟩
        have hNot := hOthers other hOther
        rw [sameName_iff.mpr hFolded] at hNot
        cases hNot
      · rw [List.forall_mem_cons]
        refine ⟨by simpa using hSame, fun other hOther => ?_⟩
        have := hBefore other hOther
        simp only [List.any_cons, Bool.or_eq_false_iff] at this
        exact this.2

/-- A table that was created: what was looked at, and the parts of what came of it. -/
theorem ofTable_eq_ok {table : Table ι} {created : StoredTable}
    (hCreated : ofTable table = .ok created) :
    Sql.readingFault table.createSql = none ∧ DistinctNames table.columnNames ∧
      created =
        { name := table.name
          columns := table.columns.map Column.stored
          rowId := rowIdOf table.columns
          distinct := distinctOf table.columns
          rows := [] } := by
  unfold ofTable at hCreated
  simp only at hCreated
  split at hCreated
  · cases hCreated
  · rename_i hHead
    split at hCreated
    · cases hCreated
    · rename_i hFault
      have hRead : Sql.readingFault table.createSql = none := by
        cases hUnread : Sql.readingFault table.createSql with
        | none => rfl
        | some e =>
            rw [hUnread] at hHead hFault
            rw [← hUnread, Table.readingFault_createSql]
            constructor
            · rw [← breaksOff_eq_false_iff]
              by_contra hName
              rw [Bool.not_eq_false] at hName
              simp [hName] at hHead
            · simpa only [breaksOff_eq_false_iff] using not_breaksOff_of_columnFault hFault
      have hWhole := (Table.readingFault_createSql table).mp hRead
      have hDistinct := distinct_of_columnFault
        (by simpa only [breaksOff_eq_false_iff] using hWhole.2) hFault
      exact ⟨hRead, hDistinct.1, (Except.ok.inj hCreated).symm⟩

namespace Holds

variable {stored : StoredTable} {table : Table ι}

/-- The columns of a table that was created have distinct names. -/
theorem distinctNames (hHolds : stored.Holds table) : DistinctNames table.columnNames :=
  (ofTable_eq_ok hHolds.created).2.1

/-- No null character stands in the names of a table that was created. -/
theorem names_readable (hHolds : stored.Holds table) :
    '\x00' ∉ table.name.toList ∧ ∀ column ∈ table.columns, '\x00' ∉ column.name.toList := by
  have hRead := (Table.readingFault_createSql table).mp (ofTable_eq_ok hHolds.created).1
  exact ⟨hRead.1, fun column hColumn => (hRead.2 column hColumn).1⟩

theorem columns_eq (hHolds : stored.Holds table) :
    stored.columns = table.columns.map Column.stored := by
  have hParts := (ofTable_eq_ok hHolds.created).2.2
  simpa using congrArg StoredTable.columns hParts

theorem rowId_eq (hHolds : stored.Holds table) : stored.rowId = rowIdOf table.columns :=
  congrArg StoredTable.rowId (ofTable_eq_ok hHolds.created).2.2

theorem distinct_eq (hHolds : stored.Holds table) : stored.distinct = distinctOf table.columns :=
  congrArg StoredTable.distinct (ofTable_eq_ok hHolds.created).2.2

theorem column?_name (hHolds : stored.Holds table) {column : Column}
    (hColumn : column ∈ table.columns) : table.column? column.name = some column :=
  DistinctNames.find?_name (f := Column.name) hHolds.distinctNames hColumn

/-! ## The cells of a row -/

/-- A row of a table that was created has as many cells as the description has columns. -/
theorem map_fst_zip (hHolds : stored.Holds table) {row : StoredRow} (hRow : row ∈ stored.rows) :
    (table.columns.zip row.cells).map Prod.fst = table.columns :=
  List.map_fst_zip (Nat.le_of_eq (hHolds.rows_fit row hRow).length_eq)

/-- The columns of a table with the cells of a row have distinct names. -/
theorem distinctNames_zip (hHolds : stored.Holds table) {row : StoredRow}
    (hRow : row ∈ stored.rows) :
    DistinctNames ((table.columns.zip row.cells).map fun entry => entry.1.name) := by
  have hNames := hHolds.distinctNames
  rw [Table.columnNames, ← hHolds.map_fst_zip hRow, List.map_map] at hNames
  exact hNames

/-- A row of a table that was created has a cell for every column of the description. -/
theorem exists_cell (hHolds : stored.Holds table) {row : StoredRow} (hRow : row ∈ stored.rows)
    {column : Column} (hColumn : column ∈ table.columns) :
    ∃ cell, (column, cell) ∈ table.columns.zip row.cells ∧
      column.type.affinity.Keeps cell := by
  rw [← hHolds.map_fst_zip hRow] at hColumn
  obtain ⟨⟨_, cell⟩, hMem, rfl⟩ := List.mem_map.mp hColumn
  exact ⟨cell, hMem, (List.forall₂_iff_zip.mp (hHolds.rows_fit row hRow)).2 hMem⟩

/-- The value under the name of a column is the cell that stands with the column. -/
theorem value_eq (hHolds : stored.Holds table) {row : StoredRow} (hRow : row ∈ stored.rows)
    {column : Column} {cell : Cell} (hMem : (column, cell) ∈ table.columns.zip row.cells) :
    table.value row column.name = (cell, column.type.affinity) := by
  have hFound := (hHolds.distinctNames_zip hRow).find?_name hMem
  unfold Table.value
  rw [hFound]

/-- What stands under the name of a column: a cell that the column keeps, with its affinity. -/
theorem value_of_column? (hHolds : stored.Holds table) {row : StoredRow}
    (hRow : row ∈ stored.rows) {name : String} {column : Column}
    (hColumn : table.column? name = some column) :
    table.value row name = (table.cell row name, column.type.affinity) ∧
      column.type.affinity.Keeps (table.cell row name) := by
  obtain ⟨hMem, rfl⟩ := Table.mem_of_column? hColumn
  obtain ⟨cell, hCell, hKeeps⟩ := hHolds.exists_cell hRow hMem
  have hValue := hHolds.value_eq hRow hCell
  have hIs : table.cell row column.name = cell := congrArg Prod.fst hValue
  rw [hIs]
  exact ⟨hValue, hKeeps⟩

/-- **The meaning of a column**: where a row is in scope under some name, the name of a described
column means the value under it. -/
theorem cell?_bind (hHolds : stored.Holds table) {row : StoredRow} (hRow : row ∈ stored.rows)
    {name : String} {column : Column} (hColumn : table.column? name = some column)
    (label : String) :
    (stored.bind label row).cell? name = some (table.value row name) := by
  obtain ⟨hMem, rfl⟩ := Table.mem_of_column? hColumn
  obtain ⟨cell, hCell, -⟩ := hHolds.exists_cell hRow hMem
  have hFound := (hHolds.distinctNames_zip hRow).find?_sameName hCell (sameName_self _)
  rw [hHolds.value_eq hRow hCell]
  unfold Binding.cell? StoredTable.bind
  rw [hHolds.columns_eq, List.map_map, List.zip_map_left, List.find?_map]
  simp only [Function.comp_def, Prod.map_fst, Column.stored]
  rw [hFound]
  rfl

end Holds

end StoredTable

/-! ## Stores -/

/-- A store whose tables were created from the descriptions of a schema. -/
def Store.Holds {ι : Type} (store : Store) (schema : Schema ι) : Prop :=
  ∀ key, ∃ stored, store.table? (schema.table key).name = some stored ∧
    stored.Holds (schema.table key)

end ModelStore
