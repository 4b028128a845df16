import ModelStore.Proofs.Operation.Reaching

/-!
# What a description promises

A description says of some columns that they are never null, of some that their values are distinct,
and of some that they hold texts.  The first two are constraints, which the store keeps.  The last
is no constraint at all: the store takes a value of any kind for a column of text, and makes a text
of every number.  That nothing but texts is left follows from where values come from, since no
payload has any other value for which there is no text.

All of this is promised of tables whose names differ in more than the case of their letters.  Of two
tables that do not, only the first is created, and the second goes by its constraints.

## Main definitions

* `Cell.IsPlain`: the cells that come from values of JSON.
* `Table.Intact`: rows that are what the description of their table promises.

## Main results

* `Schema.Reachable.intact`: the rows of every store that operations lead to are what the
  descriptions promise.
* `intact_fails_beyond`: why the names have to differ, and a primary key has to be declared never
  null.
-/

namespace ModelStore

variable {ι : Type}

/-! ## Values of JSON -/

/-- The cells that come from values of JSON: none holds mere bytes. -/
def Cell.IsPlain : Cell → Prop
  | .rawText _ | .blob _ => False
  | .null | .int _ | .real _ | .text _ => True

theorem isPlain_bound (value : Json) : value.bound.IsPlain := by
  cases value with
  | int i =>
      have hBound : (Json.int i).bound =
          if Affinity.fitsCell i then .int i else .real (Binary64.ofInt i) := rfl
      rw [hBound]
      split <;> trivial
  | _ => trivial

theorem isPlain_default (initial : DefaultRule) (now : Int) :
    (initial.stored.cellAt now).IsPlain := by
  cases initial <;> trivial

namespace Cell.IsPlain

variable {cell : Cell}

theorem toNumber (hPlain : cell.IsPlain) : (Affinity.toNumber cell).IsPlain := by
  cases cell with
  | text s =>
      rcases Affinity.numberOf_cases s with hNumber | ⟨i, hNumber⟩ | ⟨x, hNumber⟩ <;>
        simp [Affinity.toNumber, hNumber, IsPlain]
  | _ => exact hPlain

/-- What a column makes of a value of JSON is a value of JSON. -/
theorem store (hPlain : cell.IsPlain) (affinity : Affinity) : (affinity.store cell).IsPlain := by
  cases affinity with
  | none => cases cell <;> exact hPlain
  | text => cases cell <;> exact hPlain
  | integer =>
      have hNumber := hPlain.toNumber
      unfold Affinity.store
      dsimp only
      split
      · unfold Affinity.integral
        split
        · split <;> trivial
        · trivial
      · exact hNumber
  | real =>
      have hNumber := hPlain.toNumber
      unfold Affinity.store
      dsimp only
      split
      · trivial
      · trivial
      · exact hNumber

/-- A column of text keeps nothing but texts and nulls. -/
theorem text_of_keeps (hPlain : cell.IsPlain) (hKeeps : Affinity.text.Keeps cell) :
    cell = .null ∨ ∃ s, cell = .text s := by
  cases cell with
  | null => exact .inl rfl
  | text s => exact .inr ⟨s, rfl⟩
  | int i => cases hKeeps
  | real x => cases hKeeps
  | rawText bytes | blob bytes => exact hPlain.elim

end Cell.IsPlain

/-! ## What is promised -/

/-- Rows that are what the description of their table promises. -/
structure Table.Intact (table : Table ι) (rows : List StoredRow) : Prop where
  /-- No primary key, and no column that is declared never null, holds a null. -/
  solid : ∀ column ∈ table.columns, column.primaryKey = true ∨ column.nullable = false →
    ∀ row ∈ rows, table.cell row column.name ≠ .null
  /-- No two rows share a value, unless it is null, in a primary key or in a column of distinct
  values. -/
  distinct : ∀ column ∈ table.columns, column.primaryKey = true ∨ column.unique = true →
    rows.Pairwise fun a b => (table.cell a column.name).Apart (table.cell b column.name)
  /-- A column of text holds texts and nulls. -/
  texts : ∀ column ∈ table.columns, column.type = .text → ∀ row ∈ rows,
    table.cell row column.name = .null ∨ ∃ s, table.cell row column.name = .text s
  /-- What is seen of a column of text is a text or a null. -/
  seen : ∀ column ∈ table.columns, column.type = .text → ∀ row ∈ rows,
    (table.cell row column.name).toJson column.type = .null ∨
      ∃ s, (table.cell row column.name).toJson column.type = .text s

section Tables

variable {stored : StoredTable} {table : Table ι}

theorem mem_distinctOf {columns : List Column} {i : Nat} :
    i ∈ StoredTable.distinctOf columns ↔
      ∃ column, columns[i]? = some column ∧ (column.primaryKey = true ∨ column.unique = true) := by
  simp only [StoredTable.distinctOf, List.mem_reverse, List.mem_map, List.mem_filter,
    Bool.or_eq_true, Prod.exists, List.mem_zipIdx_iff_getElem?]
  constructor
  · rintro ⟨column, _, ⟨hColumn, hDeclared⟩, rfl⟩
    exact ⟨column, hColumn, hDeclared⟩
  · rintro ⟨column, hColumn, hDeclared⟩
    exact ⟨column, i, ⟨hColumn, hDeclared⟩, rfl⟩

/-- **Tables**: rows that keep the constraints, and hold values of JSON only, are what the
description promises. -/
theorem Table.intact_of_sound (hHolds : stored.Holds table) (hSound : stored.Sound)
    (hPrimary : ∀ column ∈ table.columns, column.primaryKey = true → column.nullable = false)
    (hPlain : table.Contains (fun _ cell => cell.IsPlain) stored.rows) :
    table.Intact stored.rows := by
  have hText : ∀ column ∈ table.columns, column.type = .text → ∀ row ∈ stored.rows,
      table.cell row column.name = .null ∨ ∃ s, table.cell row column.name = .text s := by
    intro column hColumn hType row hRow
    have hKeeps := (hHolds.value_of_column? hRow (hHolds.column?_name hColumn)).2
    rw [hType] at hKeeps
    exact (hPlain row hRow column hColumn).text_of_keeps hKeeps
  refine ⟨fun column hColumn hDeclared row hRow => ?_, fun column hColumn hDeclared => ?_, hText,
    fun column hColumn hType row hRow => ?_⟩
  · obtain ⟨i, hPlace⟩ := List.mem_iff_getElem?.mp hColumn
    have hCell := hHolds.getElem?_cells row (hHolds.fits hRow) hPlace
    have hNotNull : column.nullable = false := hDeclared.elim (hPrimary column hColumn) id
    by_cases hKey : stored.rowId = some i
    · -- The row id is never null, whatever the column says.
      have hShown := hSound.shown row hRow i hKey
      rw [Option.some.inj (hCell.symm.trans hShown)]
      exact Cell.noConfusion
    · exact StoredTable.nullFault_eq_none_iff.mp (hSound.filled row hRow) i column.stored _
        (hHolds.getElem?_columns hPlace) hCell (by simp [Column.stored, hNotNull]) hKey
  · obtain ⟨i, hPlace⟩ := List.mem_iff_getElem?.mp hColumn
    have hApart := hSound.apart i (hHolds.distinct_eq ▸ mem_distinctOf.mpr ⟨column, hPlace, hDeclared⟩)
    refine hApart.imp_of_mem fun {a b} ha hb hRows => ?_
    exact hRows _ (hHolds.getElem?_cells a (hHolds.fits ha) hPlace) _
      (hHolds.getElem?_cells b (hHolds.fits hb) hPlace)
  · rcases hText column hColumn hType row hRow with hNull | ⟨s, hSome⟩
    · exact .inl (by rw [hNull]; rfl)
    · exact .inr ⟨s, by rw [hSome]; rfl⟩

end Tables

/-! ## Reachable stores -/

section Stores

variable {schema : Schema ι} {store : Store}

/-- Whatever a table puts into its columns by itself is a value of JSON. -/
theorem provides_isPlain (table : Table ι) : table.Provides fun _ cell => cell.IsPlain where
  initial column _ now := (isPlain_default column.initial now).store _
  rowId _ _ _ _ _ := trivial
  identifier _ _ _ text := Cell.IsPlain.store (show (Cell.text text).IsPlain from trivial) _

/-- **Integrity**: whatever operations come after the creation of a schema whose tables have
distinct names, up to case, and whose primary keys are declared never null, every table has rows
that are what its description promises. -/
theorem Schema.Reachable.intact (hDistinct : schema.Distinct)
    (hPrimary : ∀ key, ∀ column ∈ (schema.table key).columns,
      column.primaryKey = true → column.nullable = false)
    (hReachable : schema.Reachable store) (key : ι) :
    ∃ stored, store.table? (schema.table key).name = some stored ∧
      (schema.table key).Intact stored.rows := by
  obtain ⟨stored, hFound, hHolds⟩ := hReachable.holds hDistinct key
  have hPlain := hReachable.contains hDistinct (fun key => provides_isPlain (schema.table key))
    fun key operation _ data _ entry _ column _ => (isPlain_bound entry.2).store _
  exact ⟨stored, hFound, Table.intact_of_sound hHolds (hReachable.sound.of_table? hFound)
    (hPrimary key) (hPlain key stored hFound)⟩

end Stores

/-! ## Small stores -/

/-- The store that one operation leads to. -/
theorem reaches_of_perform {schema : Schema ι} {allowed : ι → Operation → Prop}
    {fresh store : Store} (hCreated : Store.bootstrap [] schema = .ok fresh) {key : ι}
    {operation : Operation} (hAllowed : allowed key operation)
    (hStore : ((Session.start fresh none .deny).perform schema deskWorld key operation).2.store =
      store) : schema.Reaches allowed store := by
  subst hStore
  exact .performed deskWorld key hAllowed (.created hCreated)

theorem reachable_of_perform {schema : Schema ι} {fresh store : Store}
    (hCreated : Store.bootstrap [] schema = .ok fresh) (key : ι) (operation : Operation)
    (hStore : ((Session.start fresh none .deny).perform schema deskWorld key operation).2.store =
      store) : schema.Reachable store :=
  reaches_of_perform hCreated trivial hStore

/-- The tables of the application, without rows. -/
def emptyDesk : Store :=
  [{ storedUsers with rows := [] }, { storedPrinters with rows := [] }, storedTemplates]

theorem bootstrap_builtIn : Store.bootstrap [] builtIn = .ok emptyDesk :=
  ok_of_toOption (by decide +kernel)

theorem builtIn_distinct : builtIn.Distinct where
  keys key := by cases key <;> simp [builtIn]
  names := by decide +kernel

/-- The tables of the application with one user, whose name and email were given as a number and as
a truth value. -/
def numberedDesk : Store :=
  [ { storedUsers with
      rows := [⟨1, [.text "0", .text "7", .text "1", .text "USER", .int 0, .int 0]⟩] }
  , { storedPrinters with rows := [] }, storedTemplates ]

theorem reachable_numberedDesk : builtIn.Reachable numberedDesk :=
  reachable_of_perform bootstrap_builtIn .users
    (.create ⟨[("name", .int 7), ("email", .bool true)]⟩) (by decide +kernel)

/-- The user whose name was given as a number is what the description promises. -/
theorem Schema.Reachable.intact_numberedDesk :
    ∃ stored, numberedDesk.table? "users" = some stored ∧
      BuiltIn.usersTable.Intact stored.rows :=
  Schema.Reachable.intact builtIn_distinct
    (fun key column hColumn hKey => by
      revert column
      cases key <;> decide +kernel)
    reachable_numberedDesk .users

/-- Two tables whose names differ in the case of a letter; only the second one, which is not
created, wants its column never to be null. -/
def casedSchema : Schema Bool :=
  { table := fun strict =>
      { name := if strict then "Notes" else "notes"
        model := if strict then "Notes" else "notes"
        columns :=
          [if strict then (Column.plain "body" .text).notNull else Column.plain "body" .text]
        relations := [] }
    keys := [false, true] }

/-- A table with a primary key that may be null, as no call of the builder makes it. -/
def looseSchema : Schema Unit :=
  { table := fun _ =>
      { name := "tags"
        model := "tags"
        columns := [{ Column.plain "name" .text with primaryKey := true }]
        relations := [] }
    keys := [()] }

/-- Operations lead to a store in which the rows of a table are not what its description promises. -/
def Schema.MayBreak (schema : Schema ι) (key : ι) : Prop :=
  ∃ store stored, schema.Reachable store ∧
    store.table? (schema.table key).name = some stored ∧ ¬(schema.table key).Intact stored.rows

/-- A store with one table of one column of text, which may be null. -/
def nullableStore (table column : String) (distinct : List Nat) (rows : List StoredRow) : Store :=
  [ { name := table
      columns := [⟨column, .text, false, .value .null⟩]
      rowId := none
      distinct := distinct
      rows := rows } ]

/-- One insertion of a null is enough where nothing is in its way. -/
theorem mayBreak_of_create {schema : Schema ι} {key : ι} (column : Column) (fresh store : Store)
    {stored : StoredTable} {row : StoredRow} (hCreated : Store.bootstrap [] schema = .ok fresh)
    (hStore : ((Session.start fresh none .deny).perform schema deskWorld key
      (.create ⟨[(column.name, .null)]⟩)).2.store = store)
    (hFound : store.table? (schema.table key).name = some stored)
    (hColumn : column ∈ (schema.table key).columns)
    (hDeclared : column.primaryKey = true ∨ column.nullable = false) (hRow : row ∈ stored.rows)
    (hNull : (schema.table key).cell row column.name = .null) : schema.MayBreak key := by
  exact ⟨store, stored, reachable_of_perform hCreated key _ hStore, hFound, fun hIntact =>
    hIntact.solid column hColumn hDeclared row hRow hNull⟩

/-- **Limits of what is promised**: names that differ only in the case of a letter are distinct, and
yet the one table goes by the constraints of the other; and a primary key that is not declared never
null may be null. -/
theorem intact_fails_beyond :
    ((casedSchema.keys.map fun key => (casedSchema.table key).name).Nodup ∧
      casedSchema.MayBreak true) ∧
    looseSchema.Distinct ∧ looseSchema.MayBreak () := by
  refine ⟨⟨by decide, ?_⟩, ⟨fun _ => List.mem_singleton_self _, by decide⟩, ?_⟩
  · exact mayBreak_of_create (Column.plain "body" .text).notNull
      (nullableStore "notes" "body" [] []) (nullableStore "notes" "body" [] [⟨1, [.null]⟩])
      (ok_of_toOption (by decide +kernel)) (by decide +kernel) rfl (List.mem_singleton_self _)
      (.inr rfl) (List.mem_singleton_self _) (by decide +kernel)
  · exact mayBreak_of_create { Column.plain "name" .text with primaryKey := true }
      (nullableStore "tags" "name" [0] []) (nullableStore "tags" "name" [0] [⟨1, [.null]⟩])
      (ok_of_toOption (by decide +kernel)) (by decide +kernel) rfl (List.mem_singleton_self _)
      (.inl rfl) (List.mem_singleton_self _) (by decide +kernel)

end ModelStore
