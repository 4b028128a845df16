import ModelStore.Proofs.Operation.Counting
import ModelStore.Proofs.Operation.Creating
import ModelStore.Proofs.Operation.Resending

/-!
# Creations that a store accepts

A payload that says all that has to be said of a row, but for the identifier that is made for it, is
accepted by a table that has none of the values which it claims for itself.  The row that it makes
is known before it is inserted: each column keeps what the payload gives it, or else its default.
It comes behind all other rows.  Where another row has a value that the payload claims, the creation
is refused; where the store refuses changes, it refuses this one.

## Main definitions

* `Table.rowFor`, `Table.creation`: the row that a payload makes, and what is seen of it.
* `Table.Complete`: payloads that say all that has to be said of a row.
* `Table.Vacant`: rows without the values that a payload claims.
* `Table.Generates`: tables that make the identifiers of their rows.

## Main results

* `StoredTable.Holds.insert_of_vacant`, `StoredTable.Holds.insert_of_taken`: what a table answers to
  the insertion of a complete payload.
* `Session.perform_create_of_vacant`, `Session.perform_create_of_taken`,
  `Session.perform_create_of_barred`: what comes of its creation.
-/

namespace ModelStore

variable {ι : Type}

/-! ## The row to come -/

/-- What a column keeps of a payload: what it is given, or else its default. -/
def Column.kept (now : Int) (fresh : String) (data : Payload) (column : Column) : Cell :=
  column.type.affinity.store
    (((data.get? column.name).map Json.bound).getD (column.initialCell now fresh))

namespace Table

/-- The row that a payload makes behind some rows. -/
def rowFor (table : Table ι) (rows : List StoredRow) (now : Int) (fresh : String)
    (data : Payload) : StoredRow :=
  ⟨StoredTable.nextId rows, table.columns.map (·.kept now fresh data)⟩

/-- What is seen of the row that a payload makes. -/
def creation (table : Table ι) (now : Int) (fresh : String) (data : Payload) : Record :=
  table.columns.map fun column =>
    (column.name, (data.get? column.name).getD (column.initial.seen now fresh))

/-- Payloads that say all that has to be said of a row: each value is for a column and of its
semantic type, and what is left out may be null or is an identifier, which all leave to be made. -/
structure Complete (table : Table ι) (data : Payload) : Prop where
  takes : ∀ entry ∈ data, ∃ column, table.column? entry.1 = some column ∧ column.Takes entry.2
  filled : ∀ column ∈ table.columns, column.nullable = false →
    column.initial = .uuid ∨ column.name ∈ data.map (·.1)
  unnamed : ∀ column ∈ table.columns, column.initial = .uuid → column.name ∉ data.map (·.1)
  short : data.length < Sql.placeholderLimit

/-- Rows none of which has a value that a payload gives to a column of distinct values. -/
def Vacant (table : Table ι) (rows : List StoredRow) (data : Payload) : Prop :=
  ∀ column ∈ table.columns, column.primaryKey = true ∨ column.unique = true →
    ∀ value, data.get? column.name = some value → ∀ row ∈ rows,
      (column.type.affinity.store value.bound).Apart (table.cell row column.name)

/-- Tables whose identifiers are made: none is the row id, at most one is made for a row, defaults
are of the types of their columns, and columns of distinct values are never null. -/
structure Generates (table : Table ι) : Prop where
  keyless : StoredTable.rowIdOf table.columns = none
  once : (table.columns.filter (·.initial == .uuid)).length ≤ 1
  suits : ∀ column ∈ table.columns, column.initial.Suits column.type
  solid : ∀ column ∈ table.columns, column.primaryKey = true ∨ column.unique = true →
    column.nullable = false

end Table

/-! ## Complete payloads -/

section Complete

variable {table : Table ι} {data : Payload}

theorem Fields.get?_eq_none_iff {α : Type} {fields : Fields α} {name : String} :
    fields.get? name = none ↔ name ∉ fields.map (·.1) := by
  rw [Fields.get?, List.lookup_eq_none_iff, List.mem_map]
  simp only [bne_iff_ne, ne_eq, not_exists, not_and]
  exact forall₂_congr fun entry _ => not_congr eq_comm

/-- The values of a semantic type can be bound. -/
theorem Payload.exists_compile
    (hTakes : ∀ entry ∈ data, ∃ column, table.column? entry.1 = some column ∧
      column.Takes entry.2) : ∃ values, Payload.compile table data = .ok values := by
  induction data with
  | nil => exact ⟨[], rfl⟩
  | cons entry data ih =>
      obtain ⟨⟨column, hColumn, hValue⟩, hRest⟩ := List.forall_mem_cons.mp hTakes
      obtain ⟨others, hOthers⟩ := ih hRest
      have hCell : Cell.ofJson column.name entry.2 = .ok entry.2.bound := by
        cases hJson : entry.2 with
        | null | bool _ | int _ | real _ | text _ => rfl
        | list _ | object _ =>
            rw [hJson] at hValue
            exact hValue.elim
      refine ⟨(column, entry.2.bound) :: others, ?_⟩
      rw [Payload.compile, hColumn]
      dsimp only
      rw [hCell, hOthers]
      rfl

/-- What an insertion stores in a column, before the column converts it. -/
theorem Table.getD_given?_created (hGenerates : table.Generates)
    (hNames : DistinctNames table.columnNames) {values : Assignments}
    (hValues : Payload.compile table data = .ok values) (ids : Nat → String) (now : Int)
    {column : Column} (hColumn : column ∈ table.columns) :
    ((table.created ids data values).given? column.name).getD
        (column.initial.stored.cellAt now) =
      ((data.get? column.name).map Json.bound).getD (column.initialCell now (ids 0)) := by
  cases hGiven : data.get? column.name with
  | some value =>
      rw [Table.given?_created hValues hGiven]
      rfl
  | none =>
      have hOmitted := Table.given?_of_omitted ids hNames hValues hColumn hGiven
      rw [Option.map_none, Option.getD_none, Column.initialCell]
      split_ifs at hOmitted ⊢ with hAsks
      · obtain ⟨k, hLess, hCell⟩ := hOmitted
        have hSublist : (table.identified data).Sublist
            (table.columns.filter (·.initial == .uuid)) :=
          List.monotone_filter_right _ fun column hBoth => (Bool.and_eq_true_iff.mp hBoth).1
        obtain rfl : k = 0 := by
          have hLength := hSublist.length_le
          have hOnce := hGenerates.once
          omega
        rw [hCell, Option.getD_some]
      · rw [hOmitted, Option.getD_none]

section Kept

variable {stored : StoredTable} (hComplete : table.Complete data) (hGenerates : table.Generates)
  (hHolds : stored.Holds table)

include hComplete hHolds in
/-- What a complete payload gives a column is of its semantic type. -/
theorem Table.Complete.takes_of_get? {column : Column} (hColumn : column ∈ table.columns)
    {value : Json} (hGiven : data.get? column.name = some value) : column.Takes value := by
  obtain ⟨before, behind, hSplit, -⟩ := List.lookup_eq_some_iff.mp hGiven
  obtain ⟨other, hOther, hValue⟩ := hComplete.takes (column.name, value) (by simp [hSplit])
  rw [hHolds.column?_name hColumn] at hOther
  exact Option.some.inj hOther ▸ hValue

include hComplete in
/-- A complete payload gives a value to a column that must not be null, unless one is made. -/
theorem Table.Complete.exists_given {column : Column} (hColumn : column ∈ table.columns)
    (hSolid : column.nullable = false) (hAsks : column.initial ≠ .uuid) :
    ∃ value, data.get? column.name = some value := by
  have hNamed := (hComplete.filled column hColumn hSolid).resolve_left hAsks
  exact Option.ne_none_iff_exists'.mp fun hNone => Fields.get?_eq_none_iff.mp hNone hNamed

include hComplete hGenerates in
/-- An identifier is kept as it was made. -/
theorem Table.Complete.kept_uuid {column : Column} (hColumn : column ∈ table.columns)
    (hAsks : column.initial = .uuid) (now : Int) (fresh : String) :
    column.kept now fresh data = .text fresh := by
  have hType : column.type = .text := by
    have hSuits := hGenerates.suits column hColumn
    rwa [hAsks] at hSuits
  rw [Column.kept, Fields.get?_eq_none_iff.mpr (hComplete.unnamed column hColumn hAsks),
    Option.map_none, Option.getD_none, Column.initialCell, if_pos hAsks, hType]
  rfl

include hComplete hGenerates hHolds in
/-- A complete payload leaves no column null that must not be. -/
theorem Table.Complete.kept_ne_null {column : Column} (hColumn : column ∈ table.columns)
    (hSolid : column.nullable = false) (now : Int) (fresh : String) :
    column.kept now fresh data ≠ .null := by
  by_cases hAsks : column.initial = .uuid
  · rw [hComplete.kept_uuid hGenerates hColumn hAsks]
    exact Cell.noConfusion
  · obtain ⟨value, hGiven⟩ := hComplete.exists_given hColumn hSolid hAsks
    have hValue := hComplete.takes_of_get? hHolds hColumn hGiven
    have hSeen := Column.toJson_store hValue
    rw [Column.kept, hGiven, Option.map_some, Option.getD_some]
    intro hNull
    rw [hNull] at hSeen
    rw [← hSeen] at hValue
    exact absurd (hSolid.symm.trans hValue) Bool.noConfusion

end Kept

end Complete

/-! ## Rows behind all others -/

namespace StoredTable

theorem lt_nextId {row : StoredRow} {rows : List StoredRow} (hRow : row ∈ rows) :
    row.id < nextId rows := by
  unfold nextId
  cases hGreatest : (rows.map (·.id)).max? with
  | none =>
      rw [List.max?_eq_none_iff, List.map_eq_nil_iff] at hGreatest
      rw [hGreatest] at hRow
      cases hRow
  | some greatest =>
      have hLess := (List.max?_eq_some_iff.mp hGreatest).2 row.id (List.mem_map_of_mem hRow)
      exact Int.lt_add_one_of_le hLess

theorem place_of_greatest {row : StoredRow} {rows : List StoredRow}
    (hGreatest : ∀ other ∈ rows, other.id < row.id) : place row rows = rows ++ [row] := by
  induction rows with
  | nil => rfl
  | cons first rows ih =>
      obtain ⟨hFirst, hRest⟩ := List.forall_mem_cons.mp hGreatest
      rw [place, if_neg (by omega), ih hRest, List.cons_append]

section Insertion

variable {stored : StoredTable} {table : Table ι} (hHolds : stored.Holds table)
  (hGenerates : table.Generates) {data : Payload}

include hHolds hGenerates

/-- The cells of a new row are known before it is inserted. -/
theorem Holds.newCells_created {values : Assignments}
    (hValues : Payload.compile table data = .ok values) (ids : Nat → String) (now : Int) :
    stored.newCells now (stored.slotsOf (table.created ids data values)) =
      table.columns.map (·.kept now (ids 0) data) := by
  refine List.ext_getElem? fun i => ?_
  rw [newCells, List.getElem?_map, List.getElem?_zipIdx, List.getElem?_map]
  cases hColumn : table.columns[i]? with
  | none =>
      rw [hHolds.columns_eq, List.getElem?_map, hColumn]
      rfl
  | some column =>
      have hMem := List.mem_of_getElem? hColumn
      have hWithin : (table.created ids data values).Within table := Table.within_created hValues
      have hLookup := hHolds.lookup_slotsOf hWithin hMem
      rw [hHolds.slotOf_name hColumn,
        if_neg (by simp [hHolds.rowId_eq, hGenerates.keyless])] at hLookup
      rw [hHolds.getElem?_columns hColumn]
      simp only [Option.map_some, Nat.zero_add]
      rw [hLookup, Column.kept]
      exact congrArg (fun cell => some (column.type.affinity.store cell))
        (Table.getD_given?_created hGenerates hHolds.distinctNames hValues ids now hMem)

/-- A new row gets the next id. -/
theorem Holds.newId_slotsOf {assignments : Assignments} (hWithin : assignments.Within table) :
    stored.newId (stored.slotsOf assignments) = .ok (nextId stored.rows) := by
  have hNone : (stored.slotsOf assignments).reverse.lookup .rowId = none := by
    rw [List.lookup_eq_none_iff]
    intro entry hEntry
    obtain ⟨assignment, hAssignment, rfl⟩ := List.mem_map.mp (List.mem_reverse.mp hEntry)
    obtain ⟨i, hColumn⟩ := List.mem_iff_getElem?.mp (hWithin assignment hAssignment)
    rw [hHolds.slotOf_name hColumn, hHolds.rowId_eq, hGenerates.keyless]
    rfl
  rw [newId, hNone]
  rfl

/-- The insertion of a payload puts its row behind all others, unless the row breaks a
constraint. -/
theorem Holds.insert_created {values : Assignments}
    (hValues : Payload.compile table data = .ok values) (ids : Nat → String) (now : Int) :
    stored.insert now (stored.slotsOf (table.created ids data values)) =
      match stored.fault none (table.rowFor stored.rows now (ids 0) data) with
      | some e => .error e
      | none => .ok (table.rowFor stored.rows now (ids 0) data,
          { stored with rows := stored.rows ++ [table.rowFor stored.rows now (ids 0) data] }) := by
  have hRow : stored.showId (nextId stored.rows)
      (stored.newCells now (stored.slotsOf (table.created ids data values))) =
        table.rowFor stored.rows now (ids 0) data := by
    rw [showId, hHolds.rowId_eq, hGenerates.keyless,
      hHolds.newCells_created hGenerates hValues ids now, Table.rowFor]
  have hPlace : place (table.rowFor stored.rows now (ids 0) data) stored.rows = _ :=
    place_of_greatest fun other hOther => lt_nextId hOther
  rw [insert, hHolds.newId_slotsOf hGenerates (Table.within_created hValues), ok_bind, hRow]
  dsimp only
  cases stored.fault none (table.rowFor stored.rows now (ids 0) data) with
  | some e => rfl
  | none => rw [hPlace]; rfl

/-- A complete payload leaves no column null that must not be. -/
theorem Holds.nullFault_rowFor (hComplete : table.Complete data) (rows : List StoredRow) (now : Int)
    (fresh : String) : stored.nullFault (table.rowFor rows now fresh data).cells = none := by
  refine nullFault_eq_none_iff.mpr fun i column cell hColumn hCell hNotNull _ => ?_
  rw [hHolds.columns_eq, List.getElem?_map, Option.map_eq_some_iff] at hColumn
  obtain ⟨described, hDescribed, rfl⟩ := hColumn
  rw [Table.rowFor, List.getElem?_map, hDescribed] at hCell
  rw [← Option.some.inj hCell]
  exact hComplete.kept_ne_null hGenerates hHolds (List.mem_of_getElem? hDescribed)
    (by simpa [Column.stored] using hNotNull) now fresh

omit hGenerates in
/-- What a column has in the row that a payload makes. -/
theorem Holds.cell_rowFor {column : Column} (hColumn : column ∈ table.columns)
    (rows : List StoredRow) (now : Int) (fresh : String) :
    table.cell (table.rowFor rows now fresh data) column.name = column.kept now fresh data := by
  obtain ⟨i, hPlace⟩ := List.mem_iff_getElem?.mp hColumn
  have hFits : stored.Fits (table.rowFor rows now fresh data).cells := by
    rw [Fits, hHolds.columns_eq, Table.rowFor, List.forall₂_map_left_iff,
      List.forall₂_map_right_iff, List.forall₂_same]
    exact fun column _ => Affinity.keeps_store _ _
  have hCell := hHolds.getElem?_cells _ hFits hPlace
  rw [Table.rowFor, List.getElem?_map, hPlace] at hCell
  exact (Option.some.inj hCell).symm

/-- What is seen of the row that a complete payload makes. -/
theorem Holds.record_rowFor (hComplete : table.Complete data) {now : Int}
    (hNow : Affinity.fitsCell now = true) (rows : List StoredRow) (fresh : String) :
    table.record (table.rowFor rows now fresh data) = table.creation now fresh data := by
  refine List.map_congr_left fun column hColumn => ?_
  rw [hHolds.cell_rowFor hColumn, Column.kept]
  cases hGiven : data.get? column.name with
  | none =>
      rw [Option.map_none, Option.getD_none, Option.getD_none,
        Column.toJson_initial (hGenerates.suits column hColumn) hNow]
  | some value =>
      rw [Option.map_some, Option.getD_some, Option.getD_some,
        Column.toJson_store (hComplete.takes_of_get? hHolds hColumn hGiven)]

/-- The row that a complete payload makes breaks no constraint where its values are vacant and its
identifier is fresh. -/
theorem Holds.fault_rowFor (hComplete : table.Complete data)
    (hVacant : table.Vacant stored.rows data) {fresh : String}
    (hFresh : ∀ column ∈ table.columns, column.initial = .uuid →
      ∀ row ∈ stored.rows, (Cell.text fresh).Apart (table.cell row column.name)) (now : Int) :
    stored.fault none (table.rowFor stored.rows now fresh data) = none := by
  refine fault_eq_none_iff.mpr ⟨hHolds.nullFault_rowFor hGenerates hComplete _ now fresh,
    fun other hOther _ => ⟨(lt_nextId hOther).ne, fun i hDistinct => ?_⟩⟩
  rw [hHolds.distinct_eq] at hDistinct
  obtain ⟨column, hPlace, hDeclared⟩ := mem_distinctOf.mp hDistinct
  have hColumn := List.mem_of_getElem? hPlace
  intro c hNew d hOld
  rw [Option.mem_def, Table.rowFor, List.getElem?_map, hPlace] at hNew
  rw [Option.mem_def, hHolds.getElem?_cells other (hHolds.fits hOther) hPlace] at hOld
  obtain rfl : column.kept now fresh data = c := Option.some.inj hNew
  obtain rfl := Option.some.inj hOld
  by_cases hAsks : column.initial = .uuid
  · rw [hComplete.kept_uuid hGenerates hColumn hAsks]
    exact hFresh column hColumn hAsks other hOther
  · obtain ⟨value, hGiven⟩ := hComplete.exists_given hColumn
      (hGenerates.solid column hColumn hDeclared) hAsks
    rw [Column.kept, hGiven, Option.map_some, Option.getD_some]
    exact hVacant column hColumn hDeclared value hGiven other hOther

/-- The row that a complete payload makes breaks a constraint where another row has the value that
it gives to the first column of distinct values. -/
theorem Holds.fault_of_taken (hComplete : table.Complete data) {i : Nat} {rest : List Nat}
    (hFirst : distinctOf table.columns = i :: rest) {column : Column}
    (hPlace : table.columns[i]? = some column) {value : Json}
    (hGiven : data.get? column.name = some value) {other : StoredRow} (hOther : other ∈ stored.rows)
    (hSame : Cell.same (column.type.affinity.store value.bound) (table.cell other column.name) =
      true) (now : Int) (fresh : String) :
    stored.fault none (table.rowFor stored.rows now fresh data) =
      some (.unique table.name column.name) := by
  have hColumn := List.mem_of_getElem? hPlace
  have hDeclared : column.primaryKey = true ∨ column.unique = true := by
    obtain ⟨declared, hDeclared⟩ :=
      mem_distinctOf.mp (hFirst ▸ List.mem_cons_self : i ∈ distinctOf table.columns)
    rw [hPlace] at hDeclared
    exact Option.some.inj hDeclared.1 ▸ hDeclared.2
  have hKept : column.kept now fresh data = column.type.affinity.store value.bound := by
    rw [Column.kept, hGiven, Option.map_some, Option.getD_some]
  have hTaken :
      taken stored.rows none (table.rowFor stored.rows now fresh data).cells i = true := by
    rw [← Bool.not_eq_false, taken_eq_false_iff]
    intro hFree
    have hCell : (table.rowFor stored.rows now fresh data).cells[i]? =
        some (column.kept now fresh data) := by
      rw [Table.rowFor, List.getElem?_map, hPlace, Option.map_some]
    have hApart := hFree other hOther (by simp) _ hCell _
      (hHolds.getElem?_cells other (hHolds.fits hOther) hPlace) (hComplete.kept_ne_null hGenerates
        hHolds hColumn (hGenerates.solid column hColumn hDeclared) now fresh)
    rw [hKept, hSame] at hApart
    cases hApart
  have hIds : (stored.rows.any fun row => some row.id != none &&
      row.id == (table.rowFor stored.rows now fresh data).id) = false := by
    rw [List.any_eq_false]
    intro row hRow
    simp [Table.rowFor, (lt_nextId hRow).ne]
  have hName : stored.columnName i = column.name := by
    rw [columnName, hHolds.getElem?_columns hPlace]
    rfl
  have hTable : stored.name = table.name :=
    congrArg StoredTable.name (ofTable_eq_ok hHolds.created).2.2
  rw [fault, hHolds.nullFault_rowFor hGenerates hComplete]
  dsimp only
  rw [hIds, if_neg Bool.false_ne_true, hHolds.distinct_eq, hFirst, List.find?_cons_of_pos hTaken,
    Option.map_some, hName, hTable]

end Insertion

end StoredTable

/-! ## Creations -/

section Statements

variable {store : Store} {stored : StoredTable} {table : Table ι}
  (hFound : store.table? table.name = some stored) (hHolds : stored.Holds table)
  {assignments : Assignments} (hWithin : assignments.Within table)
  (hLegible : (Statement.insert table.name assignments table.columns).NamesHave Legible)
  (hShort : assignments.length ≤ Sql.placeholderLimit) (now : Int)

include hFound hHolds hWithin hLegible hShort

/-- An insertion comes to what the table answers. -/
theorem onlyRow_insert :
    (Statement.insert table.name assignments table.columns).onlyRow now store none =
      (stored.insert now (stored.slotsOf assignments)).map fun result =>
        (.row (some (table.record result.1)), store.put result.2) := by
  have hParams : (Statement.insert table.name assignments table.columns).params.length ≤
      Sql.placeholderLimit := (List.length_map _).trans_le hShort
  rw [Statement.onlyRow, Statement.attempt, Statement.run_of_within hLegible ⟨hParams, rfl⟩,
    answer_insert hFound hHolds hWithin]
  cases hInsert : stored.insert now (stored.slotsOf assignments) with
  | error e => rfl
  | ok result =>
      have hRow : ∀ row ∈ [result.1], row ∈ result.2.rows := by
        obtain ⟨_, -, -, -, hAfter⟩ := StoredTable.insert_eq_ok.mp hInsert
        rw [hAfter]
        exact List.forall_mem_singleton.mpr (StoredTable.mem_place.mpr (.inl rfl))
      have hRecords := (hHolds.of_insert hInsert).records_answer hRow
      simp only [Except.map, Statement.outputs, hRecords, List.map_cons, List.map_nil]

/-- Where the store refuses changes, an insertion is refused for this. -/
theorem onlyRow_insert_of_barred (refusal : StoreError) :
    (Statement.insert table.name assignments table.columns).onlyRow now store (some refusal) =
      .error refusal := by
  have hParams : (Statement.insert table.name assignments table.columns).params.length ≤
      Sql.placeholderLimit := (List.length_map _).trans_le hShort
  unfold Statement.onlyRow Statement.attempt
  rw [Statement.run_of_within hLegible ⟨hParams, rfl⟩, answer_insert hFound hHolds hWithin]
  cases hInsert : stored.insert now (stored.slotsOf assignments) with
  | error e => simp only [Except.map, concernsRows_of_insert hInsert, if_true]
  | ok result => rfl

end Statements

namespace Session

variable {schema : Schema ι} {session : Session} {world : World} {key : ι}

/-- An operation issues as many identifiers as it may use. -/
theorem issued_perform (session : Session) (world : World) (key : ι) (operation : Operation) :
    (session.perform schema world key operation).2.issued =
      session.issued + operation.idCount (schema.table key) := by
  unfold perform
  dsimp only [remember]
  rcases (operation.prepare schema key session.policy
    fun k => world.freshId (session.issued + k)).run.run [] with ⟨_ | work, events⟩
  · rfl
  · dsimp only
    rcases work.run world.now session.store session.barred with ⟨notes, _ | ⟨outcome, left⟩⟩ <;> rfl

section Creations

variable {stored : StoredTable} {data : Payload} (hStore : session.store.Holds schema)
  (hGenerates : (schema.table key).Generates) (hComplete : (schema.table key).Complete data)

include hStore hGenerates hComplete

/-- The creation of a complete payload comes to the insertion of its values. -/
theorem exists_of_complete (world : World) : ∃ values,
    Payload.compile (schema.table key) data = .ok values ∧
      (Statement.insert (schema.table key).name ((schema.table key).created
        (fun k => world.freshId (session.issued + k)) data values)
        (schema.table key).columns).NamesHave Legible ∧
      ((schema.table key).created (fun k => world.freshId (session.issued + k)) data
        values).length ≤ Sql.placeholderLimit := by
  obtain ⟨values, hValues⟩ := Payload.exists_compile hComplete.takes
  have hNames := hStore.legible_bare
  refine ⟨values, hValues, ⟨hNames.table key, fun entry hEntry => hNames.column key _
    (Table.within_created hValues entry hEntry), hNames.column key⟩, ?_⟩
  have hLength : values.length = data.length := by
    have hMap := congrArg List.length (Payload.map_of_compile hValues).2
    rwa [List.length_map, List.length_map] at hMap
  have hMade : ((schema.table key).identified data).length ≤ 1 := by
    refine (List.Sublist.length_le (List.monotone_filter_right _ fun column hBoth => ?_)).trans
      hGenerates.once
    exact (Bool.and_eq_true_iff.mp hBoth).1
  have hShort := hComplete.short
  rw [Table.created, List.length_append, List.length_map, List.length_zipIdx]
  omega

variable (hFound : session.store.table? (schema.table key).name = some stored)
  (hHolds : stored.Holds (schema.table key))

include hFound hHolds

/-- **Accepted creations**: where the values of a complete payload are vacant, and the identifier
that is made for it is fresh, its row comes behind all others. -/
theorem perform_create_of_vacant (hOpen : session.barred = none)
    (hVacant : (schema.table key).Vacant stored.rows data)
    (hFresh : ∀ column ∈ (schema.table key).columns, column.initial = .uuid →
      ∀ row ∈ stored.rows, (Cell.text (world.freshId session.issued)).Apart
        ((schema.table key).cell row column.name)) :
    ∃ row after, row = (schema.table key).rowFor stored.rows world.now
        (world.freshId session.issued) data ∧
      session.perform schema world key (.create ⟨data⟩) =
        (.ok (.row (some ((schema.table key).record row))), after) ∧
      after.store = session.store.put { stored with rows := stored.rows ++ [row] } := by
  obtain ⟨values, hValues, hLegible, hShort⟩ :=
    exists_of_complete hStore hGenerates hComplete world
  have hConcluded : (_, (session.perform schema world key (.create ⟨data⟩)).2.store) = _ :=
    perform_create hValues
  rw [hOpen, onlyRow_insert hFound hHolds (Table.within_created hValues) hLegible hShort,
    hHolds.insert_created hGenerates hValues, Nat.add_zero,
    hHolds.fault_rowFor hGenerates hComplete hVacant hFresh] at hConcluded
  obtain ⟨hOutcome, hLeft⟩ := Prod.mk.inj hConcluded
  exact ⟨_, _, rfl, Prod.ext hOutcome rfl, hLeft⟩

/-- **Refused creations**: where another row has the value that a complete payload gives to the
first column of distinct values, its creation fails, and the store is as it was. -/
theorem perform_create_of_taken (world : World) (hOpen : session.barred = none) {i : Nat}
    {rest : List Nat}
    (hFirst : StoredTable.distinctOf (schema.table key).columns = i :: rest) {column : Column}
    (hPlace : (schema.table key).columns[i]? = some column) {value : Json}
    (hGiven : data.get? column.name = some value) {other : StoredRow} (hOther : other ∈ stored.rows)
    (hSame : Cell.same (column.type.affinity.store value.bound)
      ((schema.table key).cell other column.name) = true) :
    ∃ after, session.perform schema world key (.create ⟨data⟩) =
        (.error (.storage (.unique (schema.table key).name column.name)), after) ∧
      after.store = session.store := by
  obtain ⟨values, hValues, hLegible, hShort⟩ :=
    exists_of_complete hStore hGenerates hComplete world
  have hConcluded : (_, (session.perform schema world key (.create ⟨data⟩)).2.store) = _ :=
    perform_create hValues
  rw [hOpen, onlyRow_insert hFound hHolds (Table.within_created hValues) hLegible hShort,
    hHolds.insert_created hGenerates hValues,
    hHolds.fault_of_taken hGenerates hComplete hFirst hPlace hGiven hOther hSame] at hConcluded
  obtain ⟨hOutcome, hLeft⟩ := Prod.mk.inj hConcluded
  exact ⟨_, Prod.ext hOutcome rfl, hLeft⟩

/-- Where the store refuses changes, a creation fails for this, and the store is as it was. -/
theorem perform_create_of_barred (world : World) {refusal : StoreError}
    (hBarred : session.barred = some refusal) :
    ∃ after, session.perform schema world key (.create ⟨data⟩) =
        (.error (.storage refusal), after) ∧ after.store = session.store := by
  obtain ⟨values, hValues, hLegible, hShort⟩ :=
    exists_of_complete hStore hGenerates hComplete world
  have hConcluded : (_, (session.perform schema world key (.create ⟨data⟩)).2.store) = _ :=
    perform_create hValues
  rw [hBarred, onlyRow_insert_of_barred hFound hHolds (Table.within_created hValues) hLegible
    hShort] at hConcluded
  obtain ⟨hOutcome, hLeft⟩ := Prod.mk.inj hConcluded
  exact ⟨_, Prod.ext hOutcome rfl, hLeft⟩

end Creations

end Session

end ModelStore
