import ModelStore.Proofs.Operation.Integrity
import ModelStore.Proofs.Operation.SingleTable
import ModelStore.Proofs.Store.Numerals

/-!
# What becomes of a creation

A value of a payload is bound, converted by the column that it is stored in, read again and made a
value of JSON.  Where it was of the semantic type of the column, nothing has become of it: it comes
back as it was given.  A column that is left out comes back with its default, of which the
identifier is made before the insertion and all others while it is run.

The identifier that is returned leads back to the row.  It need not be the one that was given: a
number becomes a text on its way into the column.  But what comes back is what is stored, and since
no other row has it, a search for it finds this row and no other.

## Main definitions

* `Column.Takes`: values of the semantic type of a column.
* `DefaultRule.seen`, `DefaultRule.Suits`: what is seen of a default, and defaults of a semantic
  type.
* `SearchOptions.byId`: the search for an identifier.

## Main results

* `Column.toJson_store`, `Column.toJson_initial`: values and defaults come back as they were given.
* `StoredTable.Holds.chosen_eq_singleton`: a key leads to one row.
* `Session.findFirst_by_id`: a search for the identifier of a row finds it.
* `Session.create_then_find`: what a creation returns, adds and leaves to be found.
-/

namespace ModelStore

variable {ι : Type}

/-! ## Values of the semantic type -/

/-- Whether a value is of the semantic type of a column; a null is where the column may be null. -/
def Column.Takes (column : Column) : Json → Prop
  | .null => column.nullable = true
  | .bool _ => column.type = .boolean
  | .int i => (column.type = .integer ∨ column.type = .timestamp) ∧ Affinity.fitsCell i = true
  | .text _ => column.type = .text
  | .real _ | .list _ | .object _ => False

/-- **Values** of the semantic type of a column come back as they were given. -/
theorem Column.toJson_store {column : Column} {value : Json} (hTakes : column.Takes value) :
    (column.type.affinity.store value.bound).toJson column.type = value := by
  cases value with
  | null => cases column.type <;> rfl
  | bool b =>
      have hType : column.type = .boolean := hTakes
      rw [hType]
      cases b <;> rfl
  | int i =>
      obtain ⟨hType, hFits⟩ := hTakes
      have hBound : (Json.int i).bound = .int i := by
        change (if Affinity.fitsCell i then Cell.int i else _) = _
        rw [hFits]
        rfl
      rw [hBound]
      rcases hType with hType | hType <;> rw [hType] <;> rfl
  | text s =>
      have hType : column.type = .text := hTakes
      rw [hType]
      rfl
  | real x | list items | object fields => exact hTakes.elim

/-- What is seen of a default, given the time and the identifier that is made for it. -/
def DefaultRule.seen (now : Int) (fresh : String) : DefaultRule → Json
  | .none => .null
  | .uuid => .text fresh
  | .unixEpoch => .int now
  | .text s => .text s
  | .integer i => .int i
  | .boolean b => .bool b

/-- Whether a default is of a semantic type. -/
def DefaultRule.Suits (type : ColumnType) : DefaultRule → Prop
  | .none => True
  | .uuid | .text _ => type = .text
  | .unixEpoch => type = .integer ∨ type = .timestamp
  | .integer i => (type = .integer ∨ type = .timestamp) ∧ Affinity.fitsCell i = true
  | .boolean _ => type = .boolean

instance (type : ColumnType) : (initial : DefaultRule) → Decidable (initial.Suits type)
  | .none => .isTrue trivial
  | .uuid | .text _ => inferInstanceAs (Decidable (type = .text))
  | .unixEpoch => inferInstanceAs (Decidable (type = .integer ∨ type = .timestamp))
  | .integer i =>
      inferInstanceAs (Decidable
        ((type = .integer ∨ type = .timestamp) ∧ Affinity.fitsCell i = true))
  | .boolean _ => inferInstanceAs (Decidable (type = .boolean))

/-- What is stored for a column that an insertion leaves out, before the column converts it. -/
def Column.initialCell (column : Column) (now : Int) (fresh : String) : Cell :=
  if column.initial = .uuid then .text fresh else column.initial.stored.cellAt now

/-- **Defaults** of the semantic type of a column are seen as what they are. -/
theorem Column.toJson_initial {column : Column} (hSuits : column.initial.Suits column.type)
    {now : Int} (hNow : Affinity.fitsCell now = true) (fresh : String) :
    (column.type.affinity.store (column.initialCell now fresh)).toJson column.type =
      column.initial.seen now fresh := by
  unfold initialCell
  cases hInitial : column.initial with
  | none => cases column.type <;> rfl
  | uuid | text s =>
      rw [hInitial] at hSuits
      rw [hSuits]
      rfl
  | unixEpoch =>
      rw [hInitial] at hSuits
      -- The time comes as a text, of which the column makes a number.
      have hStore : Affinity.integer.store (.text (toString now)) = .int now := by
        simp only [Affinity.store, Affinity.toNumber, Affinity.numberOf_toString hNow,
          Option.getD_some]
      have hCell : column.type.affinity.store (.text (toString now)) = .int now := by
        rcases hSuits with hType | hType <;> rw [hType] <;> exact hStore
      have hOther : column.type ≠ .boolean := by
        rcases hSuits with hType | hType <;> rw [hType] <;> decide
      change (column.type.affinity.store (.text (toString now))).toJson column.type = .int now
      rw [hCell, Cell.toJson, if_neg hOther]
  | integer i =>
      rw [hInitial] at hSuits
      rcases hSuits.1 with hType | hType <;> rw [hType] <;> rfl
  | boolean b =>
      rw [hInitial] at hSuits
      rw [hSuits]
      cases b <;> rfl

/-! ## What an insertion gives to a column -/

section Created

variable {table : Table ι} {data : Payload} (ids : Nat → String)

theorem Assignments.given?_append (assignments others : Assignments) (name : String) :
    Assignments.given? (assignments ++ others) name =
      (assignments.given? name).or (others.given? name) := by
  rw [given?, List.find?_append, given?, given?]
  cases assignments.find? fun entry => entry.1.name == name <;> rfl

variable (data) in
/-- An insertion gives one of the identifiers to each column that asks for one. -/
theorem Table.exists_of_created (values : Assignments) :
    ∃ made : Assignments, table.created ids data values = values ++ made ∧
      (∀ entry ∈ made, entry.1 ∈ table.identified data ∧
        ∃ k < (table.identified data).length, entry.2 = .text (ids k)) ∧
      ∀ column ∈ table.identified data, ∃ cell, (column, cell) ∈ made := by
  refine ⟨_, rfl, ?_, fun column hColumn => ?_⟩
  · rw [List.forall_mem_map]
    rintro ⟨column, k⟩ hMem
    have hPlace := List.mem_zipIdx_iff_getElem?.mp hMem
    exact ⟨List.mem_of_getElem? hPlace, k, (List.getElem?_eq_some_iff.mp hPlace).1, rfl⟩
  · obtain ⟨k, hPlace⟩ := List.mem_iff_getElem?.mp hColumn
    exact ⟨.text (ids k),
      List.mem_map.mpr ⟨(column, k), List.mem_zipIdx_iff_getElem?.mpr hPlace, rfl⟩⟩

/-- A column is given nothing just if no entry is for it. -/
theorem Assignments.given?_eq_none_iff {assignments : Assignments} {name : String} :
    assignments.given? name = none ↔ ∀ entry ∈ assignments, entry.1.name ≠ name := by
  rw [given?, Option.map_eq_none_iff, List.find?_eq_none]
  simp

/-- What an insertion gives to a column that its payload leaves out: an identifier, if the column
asks for one. -/
theorem Table.given?_of_omitted (hNames : DistinctNames table.columnNames) {values : Assignments}
    (hValues : Payload.compile table data = .ok values) {column : Column}
    (hColumn : column ∈ table.columns) (hOmitted : data.get? column.name = none) :
    if column.initial = .uuid then ∃ k < (table.identified data).length,
      (table.created ids data values).given? column.name = some (.text (ids k))
    else (table.created ids data values).given? column.name = none := by
  obtain ⟨made, hCreated, hEntries, hAll⟩ := Table.exists_of_created data ids values
  have hGiven : values.given? column.name = none := by
    have hLookup : data.lookup column.name = none := hOmitted
    rw [Assignments.given?_eq_lookup, (Payload.map_of_compile hValues).2, lookup_map_snd, hLookup]
    rfl
  rw [hCreated, Assignments.given?_append, hGiven, Option.none_or]
  split_ifs with hAsks
  · have hLeft : data.contains column.name = false := by
      rw [Fields.contains, List.any_eq_false]
      intro entry hEntry hName
      have hOther := bne_iff_ne.mp (List.lookup_eq_none_iff.mp hOmitted entry hEntry)
      exact hOther (beq_iff_eq.mp hName).symm
    have hIdentified : column ∈ table.identified data :=
      List.mem_filter.mpr ⟨hColumn, by simp [hAsks, hLeft]⟩
    obtain ⟨cell, hMem⟩ := hAll column hIdentified
    cases hFirst : made.given? column.name with
    | none => exact absurd rfl (Assignments.given?_eq_none_iff.mp hFirst _ hMem)
    | some cell =>
        obtain ⟨entry, hEntry, -, rfl⟩ := Assignments.exists_of_given? hFirst
        obtain ⟨-, j, hLess, hCell⟩ := hEntries entry hEntry
        exact ⟨j, hLess, by rw [hCell]⟩
  · refine Assignments.given?_eq_none_iff.mpr fun entry hEntry hName => ?_
    have hIdentified := List.mem_filter.mp (hEntries entry hEntry).1
    have hSame : entry.1 = column :=
      DistinctNames.eq_of_sameName (f := Column.name) hNames hIdentified.1 hColumn
        (by simp [hName])
    have hUuid := (Bool.and_eq_true_iff.mp hIdentified.2).1
    exact hAsks (hSame ▸ beq_iff_eq.mp hUuid)

end Created

/-! ## What is seen of a row -/

/-- The first entry under the name of a column is its own, where columns have distinct names. -/
theorem lookup_map_name {α : Type} (f : Column → α) {columns : List Column} {column : Column} :
    (columns.map (·.name)).Nodup → column ∈ columns →
      (columns.map fun column => (column.name, f column)).lookup column.name = some (f column) := by
  induction columns with
  | nil => exact fun _ hColumn => absurd hColumn List.not_mem_nil
  | cons other columns ih =>
      intro hNames hColumn
      obtain ⟨hNew, hRest⟩ := List.nodup_cons.mp hNames
      rw [List.map_cons, List.lookup_cons]
      rcases List.mem_cons.mp hColumn with rfl | hLater
      · rw [beq_self_eq_true]
      · have hOther : (column.name == other.name) = false :=
          beq_false_of_ne fun hSame => hNew (List.mem_map.mpr ⟨column, hLater, hSame⟩)
        rw [hOther]
        exact ih hRest hLater

section Seen

variable {stored : StoredTable} {table : Table ι} (hHolds : stored.Holds table)

include hHolds

/-- What is seen of a column of a row. -/
theorem StoredTable.Holds.get?_record (row : StoredRow) {column : Column}
    (hColumn : column ∈ table.columns) :
    (table.record row).get? column.name =
      some ((table.cell row column.name).toJson column.type) :=
  lookup_map_name _ hHolds.distinctNames.nodup hColumn

/-- What an insertion that was answered stores in a column, if none is the row id. -/
theorem StoredTable.Holds.cell_of_created (hKey : StoredTable.rowIdOf table.columns = none)
    {data : Payload} {values : Assignments} (hValues : Payload.compile table data = .ok values)
    {ids : Nat → String} {now : Int} {row : StoredRow} {after : StoredTable}
    (hInsert : stored.insert now (stored.slotsOf (table.created ids data values)) =
      .ok (row, after)) {column : Column} (hColumn : column ∈ table.columns) :
    table.cell row column.name = column.type.affinity.store
      (((table.created ids data values).given? column.name).getD
        (column.initial.stored.cellAt now)) := by
  obtain ⟨i, hPlace⟩ := List.mem_iff_getElem?.mp hColumn
  rw [hHolds.cell_of_insert (Table.within_created hValues) hInsert hPlace, hHolds.rowId_eq, hKey]
  rfl

/-- A column that a payload leaves out has its default, made with one of the identifiers. -/
theorem StoredTable.Holds.cell_of_omitted (hKey : StoredTable.rowIdOf table.columns = none)
    {data : Payload} {values : Assignments} (hValues : Payload.compile table data = .ok values)
    {ids : Nat → String} {now : Int} {row : StoredRow} {after : StoredTable}
    (hInsert : stored.insert now (stored.slotsOf (table.created ids data values)) =
      .ok (row, after)) {column : Column} (hColumn : column ∈ table.columns)
    (hOmitted : data.get? column.name = none)
    (hOnce : (table.columns.filter (·.initial == .uuid)).length ≤ 1) :
    table.cell row column.name =
      column.type.affinity.store (column.initialCell now (ids 0)) := by
  rw [hHolds.cell_of_created hKey hValues hInsert hColumn, Column.initialCell]
  have hGiven := Table.given?_of_omitted ids hHolds.distinctNames hValues hColumn hOmitted
  split_ifs at hGiven ⊢ with hAsks
  · obtain ⟨k, hLess, hCell⟩ := hGiven
    have hSublist : (table.identified data).Sublist (table.columns.filter (·.initial == .uuid)) :=
      List.monotone_filter_right _ fun column hBoth => (Bool.and_eq_true_iff.mp hBoth).1
    obtain rfl : k = 0 := by
      have hLength := hSublist.length_le
      omega
    rw [hCell, Option.getD_some]
  · rw [hGiven, Option.getD_none]

/-- A row with a text in a column of texts satisfies the condition that the column equals it. -/
theorem StoredTable.Holds.meets_text_iff {row : StoredRow} (hRow : row ∈ stored.rows)
    {column : Column} (hColumn : column ∈ table.columns) (hType : column.type = .text)
    (s : String) :
    table.Meets (some [(column.name, .equals (.text s))]) row ↔
      Cell.same (table.cell row column.name) (.text s) = true := by
  have hValue := (hHolds.value_of_column? hRow (hHolds.column?_name hColumn)).1
  rw [Table.meets_some, Conditions.Holds, List.forall_mem_singleton, hValue, hType]
  change table.cell row column.name ≠ .null ∧ Cell.text s ≠ .null ∧
    Cell.same (table.cell row column.name) (.text s) = true ↔ _
  refine ⟨fun hAll => hAll.2.2, fun hSame => ⟨fun hNull => ?_, Cell.noConfusion, hSame⟩⟩
  rw [hNull] at hSame
  cases hSame

/-- **Keys**: where no two rows share a value in a column of texts, the condition that it equals the
text of one row is satisfied by this row only. -/
theorem StoredTable.Holds.chosen_eq_singleton {row : StoredRow} (hRow : row ∈ stored.rows)
    {column : Column} (hColumn : column ∈ table.columns) (hType : column.type = .text)
    (hDistinct : stored.rows.Pairwise fun a b =>
      (table.cell a column.name).Apart (table.cell b column.name))
    {s : String} (hText : table.cell row column.name = .text s) :
    table.chosen (some [(column.name, .equals (.text s))]) stored.rows = [row] := by
  obtain ⟨before, behind, hSplit⟩ := List.append_of_mem hRow
  have hPerm : stored.rows.Perm (row :: (before ++ behind)) := hSplit ▸ List.perm_middle
  have hApart := (hPerm.pairwise_iff Cell.Apart.symm).mp hDistinct
  have hOthers : ∀ other ∈ before ++ behind,
      ¬table.Meets (some [(column.name, .equals (.text s))]) other := by
    intro other hOther hMeets
    have hMem := hPerm.mem_iff.mpr (List.mem_cons_of_mem row hOther)
    rw [hHolds.meets_text_iff hMem hColumn hType, Cell.same_comm] at hMeets
    have hFree := (List.pairwise_cons.mp hApart).1 other hOther
    rw [hText] at hFree
    rw [hFree Cell.noConfusion] at hMeets
    cases hMeets
  have hOwn : table.Meets (some [(column.name, .equals (.text s))]) row := by
    rw [hHolds.meets_text_iff hRow hColumn hType, hText]
    exact Cell.same_self _
  have hRest : ((before ++ behind).filter fun row =>
      decide (table.Meets (some [(column.name, .equals (.text s))]) row)) = [] :=
    List.filter_eq_nil_iff.mpr fun other hOther => by simpa using hOthers other hOther
  have hChosen := hPerm.filter fun row =>
    decide (table.Meets (some [(column.name, .equals (.text s))]) row)
  rw [List.filter_cons_of_pos (by simpa using hOwn), hRest] at hChosen
  exact List.perm_singleton.mp hChosen

end Seen

/-! ## Creations -/

/-- The search for an identifier. -/
def SearchOptions.byId (s : String) : SearchOptions :=
  { SearchOptions.empty with filter := some [("id", .equals (.text s))] }

namespace Session

section Creations

variable {schema : Schema ι} {session : Session} {world : World} {key : ι} {stored : StoredTable}

/-- A creation that succeeds has inserted a row and returns it. -/
theorem exists_of_create (hFound : session.store.table? (schema.table key).name = some stored)
    (hHolds : stored.Holds (schema.table key)) {data : Payload} {outcome : Outcome}
    {after : Session}
    (hPerform : session.perform schema world key (.create ⟨data⟩) = (.ok outcome, after)) :
    ∃ values row left, Payload.compile (schema.table key) data = .ok values ∧
      stored.insert world.now (stored.slotsOf ((schema.table key).created
        (fun k => world.freshId (session.issued + k)) data values)) = .ok (row, left) ∧
      after.store = session.store.put left ∧
      outcome = .row (some ((schema.table key).record row)) := by
  obtain ⟨values, hValues, hRun⟩ := exists_of_perform_create hPerform
  obtain ⟨row, left, hOutcome, hInsert, hLeft⟩ :=
    exists_of_onlyRow_insert hFound hHolds (Table.within_created hValues) hRun
  exact ⟨values, row, left, hValues, hInsert, hLeft, hOutcome⟩

end Creations

section BuiltIn

variable {session : Session} {key : BuiltIn}

/-- What is true of every column of the tables of the application. -/
theorem builtIn_columns (key : BuiltIn) :
    StoredTable.rowIdOf (builtIn.table key).columns = none ∧
      ((builtIn.table key).columns.filter (·.initial == .uuid)).length ≤ 1 ∧
      ∀ column ∈ (builtIn.table key).columns, column.initial.Suits column.type ∧
        (column.primaryKey = true → column.nullable = false) := by
  cases key <;> decide +kernel

/-- The tables of the application have an identifier, which is a text and their primary key. -/
theorem exists_idColumn (key : BuiltIn) :
    ∃ column ∈ (builtIn.table key).columns, column.name = "id" ∧ column.type = .text ∧
      column.primaryKey = true := by
  cases key <;> decide +kernel

/-- **Identifiers**: in a store that operations lead to, every row has a text as its identifier, and
a search for it finds the row. -/
theorem findFirst_by_id (hReachable : builtIn.Reachable session.store) {stored : StoredTable}
    (hFound : session.store.table? (builtIn.table key).name = some stored) {row : StoredRow}
    (hRow : row ∈ stored.rows) :
    ∃ s, ((builtIn.table key).record row).get? "id" = some (.text s) ∧
      ∀ world, (session.perform builtIn world key (.findFirst ⟨.byId s, none⟩)).1 =
        .ok (.row (some ((builtIn.table key).record row))) := by
  have hStore := hReachable.holds builtIn_distinct
  have hHolds := hStore.of_table? hFound
  have hPlain := hReachable.contains builtIn_distinct
    (fun key => provides_isPlain (builtIn.table key))
    fun key operation _ data _ entry _ column _ => (isPlain_bound entry.2).store _
  have hIntact := Table.intact_of_sound hHolds (hReachable.sound.of_table? hFound)
    (fun column hColumn => ((builtIn_columns key).2.2 column hColumn).2) (hPlain key stored hFound)
  obtain ⟨column, hColumn, hName, hType, hPrimary⟩ := exists_idColumn key
  obtain ⟨s, hText⟩ := (hIntact.texts column hColumn hType row hRow).resolve_left
    (hIntact.solid column hColumn (.inl hPrimary) row hRow)
  have hChosen := hHolds.chosen_eq_singleton hRow hColumn hType
    (hIntact.distinct column hColumn (.inl hPrimary)) hText
  have hRecord := hHolds.get?_record row hColumn
  rw [hName] at hText hChosen hRecord
  refine ⟨s, by rw [hRecord, hText, hType]; rfl, fun world => ?_⟩
  -- The plan has one comparison with one parameter, and the columns of one table.
  obtain ⟨core, hCore, hLimits⟩ : ∃ core,
      PlanCore.build (builtIn.table key) { SearchOptions.byId s with take := some 1 } = .ok core ∧
        (Plan.node core []).WithinLimits := by
    cases key <;> exact ⟨_, rfl, Nat.le_of_ble_eq_true rfl, rfl, rfl, rfl⟩
  obtain ⟨rows, hPerm, hFirst⟩ := findFirst_single world hStore hFound hCore hLimits
  rw [SearchOptions.byId, hChosen] at hPerm
  rw [hFirst, List.perm_singleton.mp hPerm]
  simp [SearchOptions.byId, SearchOptions.empty, Table.shown_none]

/-- **Creation**: in a store that operations lead to, a creation that succeeds adds one row and
returns it.  A search for its identifier finds it.  A value of the semantic type of its column is in
the row as it was given, and a column that was left out has its default. -/
theorem create_then_find (hReachable : builtIn.Reachable session.store) {world : World}
    (hClock : Affinity.fitsCell world.now = true) {data : Payload} {outcome : Outcome}
    {after : Session}
    (hPerform : session.perform builtIn world key (.create ⟨data⟩) = (.ok outcome, after)) :
    ∃ stored row s, session.store.table? (builtIn.table key).name = some stored ∧
      outcome = .row (some ((builtIn.table key).record row)) ∧
      stored.Gains session.store after.store row ∧
      ((builtIn.table key).record row).get? "id" = some (.text s) ∧
      (∀ later, (after.perform builtIn later key (.findFirst ⟨.byId s, none⟩)).1 =
        .ok outcome) ∧
      (∀ name value, data.get? name = some value →
        ∃ column, (builtIn.table key).column? name = some column ∧
          (column.Takes value → ((builtIn.table key).record row).get? name = some value)) ∧
      ∀ column ∈ (builtIn.table key).columns, data.get? column.name = none →
        ((builtIn.table key).record row).get? column.name =
          some (column.initial.seen world.now (world.freshId session.issued)) := by
  obtain ⟨stored, hFound, hHolds⟩ := hReachable.holds builtIn_distinct key
  obtain ⟨values, row, left, hValues, hInsert, hAfter, rfl⟩ :=
    exists_of_create hFound hHolds hPerform
  obtain ⟨hKey, hOnce, hColumns⟩ := builtIn_columns key
  have hLater : builtIn.Reachable after.store := by
    have hReaches : builtIn.Reachable
        (session.perform builtIn world key (.create ⟨data⟩)).2.store :=
      .performed world key trivial hReachable
    rwa [hPerform] at hReaches
  have hLeft : after.store.table? (builtIn.table key).name = some left := by
    rw [hAfter]
    exact Store.table?_put_self hFound (StoredTable.name_of_insert hInsert)
  have hRow : row ∈ left.rows := by
    obtain ⟨_, -, -, -, rfl⟩ := StoredTable.insert_eq_ok.mp hInsert
    exact StoredTable.mem_place.mpr (.inl rfl)
  obtain ⟨s, hId, hFinds⟩ := findFirst_by_id hLater hLeft hRow
  refine ⟨stored, row, s, hFound, rfl, hAfter ▸ StoredTable.gains_of_insert hInsert, hId, hFinds,
    fun name value hGiven => ?_, fun column hColumn hOmitted => ?_⟩
  · have hCreated : ((builtIn.table key).created
        (fun k => world.freshId (session.issued + k)) data values).given? name = some value.bound :=
      Table.given?_created hValues hGiven
    obtain ⟨⟨column, cell⟩, hEntry, rfl, -⟩ := Assignments.exists_of_given? hCreated
    have hColumn : column ∈ (builtIn.table key).columns := Table.within_created hValues _ hEntry
    refine ⟨column, hHolds.column?_name hColumn, fun hTakes => ?_⟩
    rw [hHolds.get?_record row hColumn, hHolds.cell_of_created hKey hValues hInsert hColumn,
      hCreated, Option.getD_some, Column.toJson_store hTakes]
  · rw [hHolds.get?_record row hColumn,
      hHolds.cell_of_omitted hKey hValues hInsert hColumn hOmitted hOnce,
      Column.toJson_initial (hColumns column hColumn).1 hClock]
    rfl

/-- A printer whose identifier is given as a number comes back with a text in its place, by which it
is found. -/
theorem create_then_find_numberedPrinter :
    ∃ outcome after s, (start emptyDesk none .deny).perform builtIn deskWorld .printers
        (.create ⟨[("id", .int 7), ("name", .text "Desk"), ("userId", .text "u1"),
          ("isDefault", .bool true)]⟩) = (.ok outcome, after) ∧
      (after.perform builtIn deskWorld .printers (.findFirst ⟨.byId s, none⟩)).1 = .ok outcome := by
  obtain ⟨outcome, after, hPerform⟩ := exists_of_isOk
    (show ((start emptyDesk none .deny).perform builtIn deskWorld .printers
      (.create ⟨[("id", .int 7), ("name", .text "Desk"), ("userId", .text "u1"),
        ("isDefault", .bool true)]⟩)).1.isOk = true by decide +kernel)
  have hReachable : builtIn.Reachable (start emptyDesk none .deny).store :=
    .created bootstrap_builtIn
  obtain ⟨_, _, s, -, -, -, -, hFinds, -⟩ := create_then_find hReachable (by decide) hPerform
  exact ⟨outcome, after, s, hPerform, hFinds deskWorld⟩

end BuiltIn

end Session

end ModelStore
