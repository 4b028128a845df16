import ModelStore.Proofs.Store.Constraints
import ModelStore.Query.Mutation

/-!
# What a written row holds

An insertion and a change give values to slots, found by the names of columns.  Seen from the
description it is simpler: every column of the row has the value that is given to it, as the column
converts it, and otherwise its default or what it had before.  That an integer primary key is not
kept like the other columns makes no difference here.

A change of several rows takes one after another out of the table and puts what becomes of it in.
Where the rows have different ids, what comes of it all at once is what one expects: the rows that
were not chosen, and for each that was chosen what becomes of it.

## Main definitions

* `Assignments.given?`: the value that is given to a column.
* `StoredTable.slotOf`: the slot of a column.

## Main results

* `StoredTable.Holds.cell_of_insert`, `StoredTable.Holds.cell_of_assign`: the cells of a new row and
  of a changed row.
* `StoredTable.Sound.perm_of_updateRows`: the rows after a change.
-/

namespace ModelStore

variable {ι : Type}

/-! ## Values for columns -/

/-- The value that is given to the column of a name: the first one. -/
def Assignments.given? (assignments : Assignments) (name : String) : Option Cell :=
  (assignments.find? fun entry => entry.1.name == name).map (·.2)

/-- Assignments to columns of a table. -/
def Assignments.Within (assignments : Assignments) (table : Table ι) : Prop :=
  ∀ entry ∈ assignments, entry.1 ∈ table.columns

theorem Assignments.Within.reverse {assignments : Assignments} {table : Table ι}
    (hWithin : assignments.Within table) : Assignments.Within assignments.reverse table :=
  fun entry hEntry => hWithin entry (List.mem_reverse.mp hEntry)

/-- What is given to a column was assigned to a column of its name. -/
theorem Assignments.exists_of_given? {assignments : Assignments} {name : String} {value : Cell}
    (hGiven : assignments.given? name = some value) :
    ∃ entry ∈ assignments, entry.1.name = name ∧ entry.2 = value := by
  obtain ⟨entry, hFound, hValue⟩ := Option.map_eq_some_iff.mp hGiven
  exact ⟨entry, List.mem_of_find?_eq_some hFound, by simpa using List.find?_some hFound, hValue⟩

namespace StoredTable

/-- The slot of a column of a table. -/
def slotOf (stored : StoredTable) (name : String) : Slot := (stored.slot? name).getD .rowId

/-- The values of assignments, each with the slot of its column. -/
def slotsOf (stored : StoredTable) (assignments : Assignments) : SlotValues :=
  assignments.map fun entry => (stored.slotOf entry.1.name, entry.2)

theorem slotsOf_reverse (stored : StoredTable) (assignments : Assignments) :
    (stored.slotsOf assignments).reverse = stored.slotsOf assignments.reverse :=
  List.map_reverse.symm

section Slots

variable {stored : StoredTable} {missing : String → StoreError} {assignments : Assignments}

theorem eq_slotsOf {values : SlotValues}
    (hValues : stored.slotValues missing assignments = .ok values) :
    values = stored.slotsOf assignments := by
  induction assignments generalizing values with
  | nil =>
      cases hValues
      rfl
  | cons entry assignments ih =>
      rw [slotValues] at hValues
      split at hValues
      · cases hValues
      · rename_i slot hSlot
        obtain ⟨others, hOthers, hPure⟩ := bind_eq_ok.mp hValues
        rw [← pure_eq_ok.mp hPure, ih hOthers, slotsOf, slotsOf, List.map_cons, slotOf, hSlot]
        rfl

theorem slotValues_eq_ok (hKnown : ∀ entry ∈ assignments, (stored.slot? entry.1.name).isSome) :
    stored.slotValues missing assignments = .ok (stored.slotsOf assignments) := by
  induction assignments with
  | nil => rfl
  | cons entry assignments ih =>
      obtain ⟨hEntry, hRest⟩ := List.forall_mem_cons.mp hKnown
      obtain ⟨slot, hSlot⟩ := Option.isSome_iff_exists.mp hEntry
      rw [slotValues, hSlot, ih hRest, slotsOf, slotsOf, List.map_cons, slotOf, hSlot]
      rfl

/-- The slots that names mean are slots of the table. -/
theorem addressed_slotsOf (stored : StoredTable) (assignments : Assignments) :
    stored.Addressed (stored.slotsOf assignments) := by
  intro entry hEntry i hKey hColumn
  obtain ⟨assignment, -, rfl⟩ := List.mem_map.mp hEntry
  rw [Option.mem_def] at hKey
  dsimp only at hColumn
  unfold slotOf slot? at hColumn
  split at hColumn
  · rename_i j hIndex
    rw [Option.getD_some] at hColumn
    split at hColumn
    · cases hColumn
    · rename_i hOther
      obtain rfl := Slot.column.inj hColumn
      exact hOther hKey
  · split at hColumn <;> cases hColumn

end Slots

/-! ## The places of columns -/

section Places

variable {stored : StoredTable} {table : Table ι} (hHolds : stored.Holds table)

include hHolds

theorem Holds.getElem?_columns {i : Nat} {column : Column}
    (hColumn : table.columns[i]? = some column) : stored.columns[i]? = some column.stored := by
  rw [hHolds.columns_eq, List.getElem?_map, hColumn]
  rfl

/-- The name of a column means its place. -/
theorem Holds.columnIndex?_name {i : Nat} {column : Column}
    (hColumn : table.columns[i]? = some column) :
    stored.columnIndex? column.name = some i := by
  obtain ⟨hLength, rfl⟩ := List.getElem?_eq_some_iff.mp hColumn
  have hNames : (table.columns.map fun column => foldedName column.name).Nodup := by
    simpa [DistinctNames, Table.columnNames, Function.comp_def] using hHolds.distinctNames
  rw [columnIndex?, hHolds.columns_eq, List.findIdx?_eq_some_iff_getElem]
  refine ⟨by simpa using hLength, ?_, fun j hj hSame => ?_⟩
  · simp [Column.stored]
  · simp only [List.getElem_map, Column.stored, sameName_iff] at hSame
    have hEarlier : j < table.columns.length := by omega
    refine List.nodup_iff_getElem?_ne_getElem?.mp hNames j i hj (by simpa using hLength) ?_
    rw [List.getElem?_map, List.getElem?_map, List.getElem?_eq_getElem hEarlier,
      List.getElem?_eq_getElem hLength, Option.map_some, Option.map_some, hSame]

theorem Holds.slot?_name {i : Nat} {column : Column} (hColumn : table.columns[i]? = some column) :
    stored.slot? column.name = some (if stored.rowId = some i then .rowId else .column i) := by
  rw [slot?, hHolds.columnIndex?_name hColumn]

theorem Holds.slotOf_name {i : Nat} {column : Column} (hColumn : table.columns[i]? = some column) :
    stored.slotOf column.name = if stored.rowId = some i then .rowId else .column i := by
  rw [slotOf, hHolds.slot?_name hColumn, Option.getD_some]

/-- Different columns have different slots. -/
theorem Holds.slotOf_inj {column other : Column} (hColumn : column ∈ table.columns)
    (hOther : other ∈ table.columns) (hSlot : stored.slotOf column.name = stored.slotOf other.name) :
    column = other := by
  obtain ⟨i, hi⟩ := List.mem_iff_getElem?.mp hColumn
  obtain ⟨j, hj⟩ := List.mem_iff_getElem?.mp hOther
  have hPlaces : i = j := by
    rw [hHolds.slotOf_name hi, hHolds.slotOf_name hj] at hSlot
    split at hSlot
    · split at hSlot
      · simp_all
      · cases hSlot
    · split at hSlot
      · cases hSlot
      · exact Slot.column.inj hSlot
  subst hPlaces
  exact Option.some.inj (hi.symm.trans hj)

/-- The value for the slot of a column is the one that is given to the column. -/
theorem Holds.lookup_slotsOf {assignments : Assignments} (hWithin : assignments.Within table)
    {column : Column} (hColumn : column ∈ table.columns) :
    (stored.slotsOf assignments).lookup (stored.slotOf column.name) =
      assignments.given? column.name := by
  induction assignments with
  | nil => rfl
  | cons entry assignments ih =>
      obtain ⟨hEntry, hRest⟩ := List.forall_mem_cons.mp hWithin
      rw [slotsOf, List.map_cons, List.lookup_cons, Assignments.given?, List.find?_cons]
      by_cases hName : entry.1 = column
      · simp [hName]
      · have hSlot : (stored.slotOf column.name == stored.slotOf entry.1.name) = false :=
          beq_false_of_ne fun hSame => hName (hHolds.slotOf_inj hEntry hColumn hSame.symm)
        have hOther : (entry.1.name == column.name) = false := by
          refine beq_false_of_ne fun hSame => hName ?_
          exact hHolds.slotOf_inj hEntry hColumn (by rw [hSame])
        rw [hSlot, hOther]
        exact ih hRest

/-- The cell in the place of a column is the one under its name. -/
theorem Holds.getElem?_cells (row : StoredRow) (hFits : stored.Fits row.cells) {i : Nat}
    {column : Column} (hColumn : table.columns[i]? = some column) :
    row.cells[i]? = some (table.cell row column.name) := by
  have hAlone : { stored with rows := [row] }.Holds table :=
    hHolds.of_fits (List.forall_mem_singleton.mpr hFits)
  have hRow : row ∈ { stored with rows := [row] }.rows := List.mem_singleton_self row
  have hLength : i < row.cells.length := by
    rw [← hFits.length_eq, hHolds.columns_eq, List.length_map]
    exact (List.getElem?_eq_some_iff.mp hColumn).1
  have hPair : (column, row.cells[i]) ∈ table.columns.zip row.cells := by
    refine List.mem_iff_getElem?.mpr ⟨i, ?_⟩
    rw [List.getElem?_zip_eq_some]
    exact ⟨hColumn, List.getElem?_eq_getElem hLength⟩
  have hValue := hAlone.value_eq hRow hPair
  rw [List.getElem?_eq_getElem hLength, Table.cell, hValue]

end Places

/-! ## New rows and changed rows -/

section Rows

variable {stored : StoredTable} {table : Table ι} (hHolds : stored.Holds table)
  {assignments : Assignments} (hWithin : assignments.Within table)

include hHolds

/-- The cells of a row with an id, under the names of the columns. -/
theorem Holds.cell_showId {cells : List Cell} (hFits : stored.Fits cells) {id : Int} {i : Nat}
    {column : Column} (hColumn : table.columns[i]? = some column) :
    table.cell (stored.showId id cells) column.name =
      if stored.rowId = some i then .int id else table.cell ⟨id, cells⟩ column.name := by
  have hLength : i < cells.length := by
    rw [← hFits.length_eq, hHolds.columns_eq, List.length_map]
    exact (List.getElem?_eq_some_iff.mp hColumn).1
  have hShown := hHolds.getElem?_cells _ (hHolds.fits_showId hFits id) hColumn
  have hPlain : cells[i]? = some (table.cell ⟨id, cells⟩ column.name) :=
    hHolds.getElem?_cells ⟨id, cells⟩ hFits hColumn
  refine Option.some.inj (hShown.symm.trans ?_)
  unfold showId
  cases hKey : stored.rowId with
  | none => simpa using hPlain
  | some k =>
      by_cases hSame : k = i
      · subst hSame
        simpa using List.getElem?_set_self hLength
      · rw [if_neg (by simpa using hSame)]
        dsimp only
        rw [List.getElem?_set_ne hSame]
        exact hPlain

include hWithin

/-- **New rows**: a column has the value that is given to it, or else its default; an integer
primary key is the id of the row. -/
theorem Holds.cell_of_insert {now : Int} {row : StoredRow} {after : StoredTable}
    (hInsert : stored.insert now (stored.slotsOf assignments) = .ok (row, after)) {i : Nat}
    {column : Column} (hColumn : table.columns[i]? = some column) :
    table.cell row column.name =
      if stored.rowId = some i then .int row.id
      else column.type.affinity.store
        ((assignments.given? column.name).getD (column.initial.stored.cellAt now)) := by
  obtain ⟨id, -, rfl, -, -⟩ := insert_eq_ok.mp hInsert
  have hFits := stored.fits_newCells now (stored.slotsOf assignments)
  have hId : (stored.showId id (stored.newCells now (stored.slotsOf assignments))).id = id := by
    unfold showId
    split <;> rfl
  rw [hHolds.cell_showId hFits hColumn, hId]
  refine if_ctx_congr Iff.rfl (fun _ => rfl) fun hKey => ?_
  have hCell : (stored.newCells now (stored.slotsOf assignments))[i]? =
      some (table.cell ⟨id, _⟩ column.name) := hHolds.getElem?_cells ⟨id, _⟩ hFits hColumn
  have hLookup := hHolds.lookup_slotsOf hWithin (List.mem_of_getElem? hColumn)
  rw [hHolds.slotOf_name hColumn, if_neg hKey] at hLookup
  refine Option.some.inj (hCell.symm.trans ?_)
  rw [newCells, List.getElem?_map, List.getElem?_zipIdx, hHolds.getElem?_columns hColumn]
  simp only [Option.map_some, Nat.zero_add]
  rw [hLookup]
  rfl

omit hHolds hWithin in
/-- The row id that a value stands for is what a column of integers makes of it. -/
theorem store_of_idOf {value : Cell} {id : Int} (hId : idOf value = .ok id) :
    Affinity.integer.store value = .int id := by
  unfold idOf at hId
  split at hId
  · rename_i hStore
    rw [hStore, Except.ok.inj hId]
  · cases hId

/-- **Changed rows**: a column has the value that is given to it, or else what it had. -/
theorem Holds.cell_of_assign {row changed : StoredRow} (hFits : stored.Fits row.cells)
    (hAssign : stored.assign (stored.slotsOf assignments) row = .ok changed) {column : Column}
    (hColumn : column ∈ table.columns) :
    table.cell changed column.name =
      ((assignments.given? column.name).map column.type.affinity.store).getD
        (table.cell row column.name) := by
  obtain ⟨i, hPlace⟩ := List.mem_iff_getElem?.mp hColumn
  have hLookup := hHolds.lookup_slotsOf hWithin hColumn
  rw [hHolds.slotOf_name hPlace] at hLookup
  have hFitsNew := hFits.reassigned (stored.slotsOf assignments)
  have hNew : ∀ id, table.cell ⟨id, stored.reassigned (stored.slotsOf assignments) row.cells⟩
      column.name = (((stored.slotsOf assignments).lookup (.column i)).map
        column.type.affinity.store).getD (table.cell row column.name) := by
    intro id
    have hCell : (stored.reassigned (stored.slotsOf assignments) row.cells)[i]? =
        some (table.cell ⟨id, _⟩ column.name) := hHolds.getElem?_cells ⟨id, _⟩ hFitsNew hPlace
    refine Option.some.inj (hCell.symm.trans ?_)
    simp only [reassigned, List.getElem?_map, List.getElem?_zipIdx, Nat.zero_add,
      hHolds.getElem?_cells row hFits hPlace, hHolds.getElem?_columns hPlace, Option.map_some]
    cases (stored.slotsOf assignments).lookup (.column i) <;> rfl
  rcases assign_eq_ok.mp hAssign with ⟨hNone, rfl⟩ | ⟨value, id, hSome, hId, rfl⟩
  · rw [hNew]
    split at hLookup
    · rename_i hKey
      rw [← hLookup, hNone, (stored.addressed_slotsOf assignments).lookup hKey]
    · rw [hLookup]
  · rw [hHolds.cell_showId hFitsNew hPlace, hNew]
    split
    · rename_i hKey
      have hInteger : column.type.affinity = .integer :=
        hHolds.rowId_integer hKey (hHolds.getElem?_columns hPlace)
      rw [if_pos hKey, hSome] at hLookup
      rw [← hLookup, Option.map_some, Option.getD_some, hInteger, store_of_idOf hId]
    · rename_i hKey
      rw [if_neg hKey] at hLookup
      rw [hLookup]

end Rows

/-! ## Changes of several rows -/

/-- **Changes**: what stands in a table after a change are the rows that were not chosen, and for
each that was chosen what becomes of it. -/
theorem perm_of_updateRows {values : SlotValues} {chosen : List StoredRow} :
    ∀ {stored after : StoredTable} {changed : List StoredRow},
      (∀ row ∈ chosen, row ∈ stored.rows) → (chosen.map (·.id)).Nodup →
      updateRows values chosen stored = .ok (changed, after) →
      after = { stored with rows := after.rows } ∧
        List.Forall₂ (fun row made => stored.assign values row = .ok made) chosen changed ∧
        after.rows.Perm
          (changed ++ stored.rows.filter fun row => decide (row.id ∉ chosen.map (·.id))) := by
  induction chosen with
  | nil =>
      intro stored after changed _ _ hUpdate
      cases hUpdate
      exact ⟨rfl, .nil, by simp⟩
  | cons row rest ih =>
      intro stored after changed hChosen hIds hUpdate
      obtain ⟨first, between, others, hFirst, hOthers, rfl⟩ := updateRows_cons_eq_ok.mp hUpdate
      obtain ⟨hAssign, hFault, rfl⟩ := updateRow_eq_ok.mp hFirst
      obtain ⟨hRow, hRest⟩ := List.forall_mem_cons.mp hChosen
      obtain ⟨hNew, hIds⟩ := List.nodup_cons.mp hIds
      have hElse : ∀ other ∈ rest, other.id ≠ row.id := fun other hOther hSame =>
        hNew (List.mem_map.mpr ⟨other, hOther, hSame⟩)
      have hStay : ∀ other ∈ rest,
          other ∈ place first (stored.rows.filter (·.id != row.id)) := fun other hOther =>
        mem_place.mpr (.inr (List.mem_filter.mpr
          ⟨hRest other hOther, bne_iff_ne.mpr (hElse other hOther)⟩))
      obtain ⟨hAfter, hMade, hPerm⟩ := ih hStay hIds hOthers
      refine ⟨hAfter, .cons hAssign hMade, hPerm.trans ?_⟩
      -- What was put in has the id of no row that is still to come.
      have hFirstId : first.id ∉ rest.map (·.id) := by
        rw [List.mem_map]
        rintro ⟨other, hOther, hSame⟩
        have hBeside := (fault_eq_none_iff.mp hFault).2 other (hRest other hOther)
          (by simpa using hElse other hOther)
        exact hBeside.1 hSame
      have hPlaced := (place_perm first (stored.rows.filter (·.id != row.id))).filter
        fun row => decide (row.id ∉ rest.map (·.id))
      rw [List.filter_cons_of_pos (by simpa using hFirstId), List.filter_filter] at hPlaced
      refine (hPlaced.append_left others).trans (List.perm_middle.trans ?_)
      rw [List.cons_append]
      refine ((List.Perm.of_eq ?_).append_left others).cons first
      refine List.filter_congr fun other _ => ?_
      rw [List.map_cons, Bool.eq_iff_iff, Bool.and_eq_true, decide_eq_true_iff, bne_iff_ne,
        decide_eq_true_iff, List.mem_cons, not_or, and_comm]

end StoredTable

end ModelStore
