import ModelStore.Proofs.Store.Keeping

/-!
# What the constraints of a table come to

A row is looked at only when it is put into its table, and only against the rows that stand there
at that moment.  That is enough: the rows that are there already were looked at in the same way, so
whatever was put in and taken out, the rows stand in the order of their ids, no column that is
never null holds a null, and no two rows have a value in common in a column of distinct values.

A change of several rows treats them one after another.  It is allowed to pass through states in
which the rows that it has still to reach have their old values; each of these states is as good as
any other, so nothing has to be said about them.

## Main definitions

* `Cell.Apart`, `StoredRow.Apart`: values, and rows, that have nothing in common.
* `StoredTable.Sound`, `Store.Sound`: tables whose rows keep all constraints.

## Main results

* `StoredTable.fault_eq_none_iff`: what is looked at when a row is put into a table.
* `StoredTable.Sound.of_insert`, `StoredTable.Sound.of_updateRows`, `StoredTable.Sound.of_delete`:
  the rows keep all constraints after every operation.
* `Store.sound_of_bootstrap`: they do so where they begin.
-/

namespace ModelStore

/-! ## Values in common -/

namespace Binary64

theorem compareScaled_swap (s : Bool) (m : Nat) (e : Int) (t : Bool) (k : Nat) (f : Int) :
    (compareScaled s m e t k f).swap = compareScaled t k f s m e := by
  unfold compareScaled
  dsimp only
  rw [min_comm f e]
  exact Std.OrientedOrd.eq_swap.symm

theorem compare_swap (x y : Binary64) : (x.compare y).swap = y.compare x := by
  cases x <;> cases y
  · exact compareScaled_swap ..
  · simp only [compare]
    split <;> rfl
  · simp only [compare]
    split <;> rfl
  · exact Std.OrientedOrd.eq_swap.symm

end Binary64

namespace Cell

theorem orderBytes_swap (as bs : List UInt8) : (orderBytes as bs).swap = orderBytes bs as := by
  induction as generalizing bs with
  | nil => cases bs <;> rfl
  | cons a as ih =>
      cases bs with
      | nil => rfl
      | cons b bs =>
          have hHeads : (compare a b).swap = compare b a := Std.OrientedOrd.eq_swap.symm
          simp only [orderBytes]
          rw [← hHeads]
          cases compare a b with
          | lt => rfl
          | gt => rfl
          | eq => exact ih bs

/-- The order of two cells, read from the other side. -/
theorem order_swap (c d : Cell) : (order c d).swap = order d c := by
  cases c <;> cases d <;> first
    | rfl
    | exact Binary64.compare_swap ..
    | exact orderBytes_swap ..
    | exact Ordering.swap_swap
    | exact Std.OrientedOrd.eq_swap.symm

theorem same_comm (c d : Cell) : same c d = same d c := by
  unfold same
  rw [← order_swap c d]
  cases order c d <;> rfl

/-- A cell is the same as itself. -/
theorem same_self (c : Cell) : same c c = true := by
  have hSwap := order_swap c c
  unfold same
  cases hOrder : order c c with
  | eq => rfl
  | lt => rw [hOrder] at hSwap; cases hSwap
  | gt => rw [hOrder] at hSwap; cases hSwap

/-- Two cells that may stand beside each other in a column of distinct values. -/
def Apart (c d : Cell) : Prop := c ≠ .null → same c d = false

instance (c d : Cell) : Decidable (c.Apart d) := inferInstanceAs (Decidable (c ≠ .null → _))

theorem Apart.symm {c d : Cell} (hApart : c.Apart d) : d.Apart c := by
  intro hNull
  by_cases hOther : c = .null
  · subst hOther
    cases d <;> first | rfl | exact absurd rfl hNull
  · rw [same_comm]
    exact hApart hOther

/-- Cells that are apart are different, unless they are null. -/
theorem Apart.ne {c d : Cell} (hApart : c.Apart d) (hNull : c ≠ .null) : c ≠ d := by
  rintro rfl
  have hNot := hApart hNull
  rw [same_self] at hNot
  cases hNot

theorem isNull_eq_false_iff {c : Cell} : c.isNull = false ↔ c ≠ .null := by
  cases c <;> simp [isNull]

end Cell

/-- Two rows that may stand beside each other in a table with distinct values in the column of a
place. -/
def StoredRow.Apart (i : Nat) (a b : StoredRow) : Prop :=
  ∀ c ∈ a.cells[i]?, ∀ d ∈ b.cells[i]?, c.Apart d

instance (i : Nat) (a b : StoredRow) : Decidable (StoredRow.Apart i a b) :=
  inferInstanceAs (Decidable (∀ c ∈ a.cells[i]?, ∀ d ∈ b.cells[i]?, c.Apart d))

theorem StoredRow.Apart.symm {i : Nat} {a b : StoredRow} (hApart : StoredRow.Apart i a b) :
    StoredRow.Apart i b a :=
  fun d hd c hc => (hApart c hc d hd).symm

namespace StoredTable

/-! ## What is looked at -/

theorem taken_eq_false_iff {rows : List StoredRow} {except : Option Int} {row : StoredRow}
    {i : Nat} :
    taken rows except row.cells i = false ↔
      ∀ other ∈ rows, some other.id ≠ except → StoredRow.Apart i row other := by
  unfold taken StoredRow.Apart
  cases hCell : row.cells[i]? with
  | none => simp
  | some c =>
      by_cases hNull : c = .null
      · subst hNull
        simp [Cell.isNull, Cell.Apart]
      · have hSolid : c.isNull = false := Cell.isNull_eq_false_iff.mpr hNull
        simp only [hSolid, Bool.not_false, Bool.true_and, List.any_eq_false, Bool.and_eq_true,
          bne_iff_ne, not_and, Bool.not_eq_true]
        refine forall₃_congr fun other _ _ => ?_
        cases other.cells[i]? with
        | none => simp
        | some d => simp [Cell.Apart, hNull]

/-- No column, other than the row id, is null that must not be. -/
theorem nullFault_eq_none_iff {stored : StoredTable} {cells : List Cell} :
    stored.nullFault cells = none ↔
      ∀ (i : Nat) (column : StoredColumn) (cell : Cell), stored.columns[i]? = some column →
        cells[i]? = some cell → column.notNull = true → stored.rowId ≠ some i → cell ≠ .null := by
  have hIsNull : ∀ c : Cell, c.isNull = true ↔ c = .null := by
    intro c
    cases c <;> simp [Cell.isNull]
  unfold nullFault
  simp only [Option.map_eq_none_iff, List.find?_eq_none, Bool.and_eq_true, bne_iff_ne, not_and,
    Decidable.not_not, hIsNull]
  constructor
  · intro hNone i column cell hColumn hCell hNotNull hKey hNull
    refine hKey (hNone ((column, cell), i) ?_ ⟨hNotNull, hNull⟩)
    rw [List.mem_zipIdx_iff_getElem?, List.getElem?_zip_eq_some]
    exact ⟨hColumn, hCell⟩
  · rintro hFilled ⟨⟨column, cell⟩, i⟩ hMem ⟨hNotNull, hNull⟩
    rw [List.mem_zipIdx_iff_getElem?, List.getElem?_zip_eq_some] at hMem
    by_contra hKey
    exact hFilled i column cell hMem.1 hMem.2 hNotNull hKey hNull

/-- **Constraints**: a row may be put into a table, in the place of the row of an id, if no column
is null that must not be, and if it has neither its id nor a value that has to be distinct in common
with any other row. -/
theorem fault_eq_none_iff {stored : StoredTable} {replaced : Option Int} {row : StoredRow} :
    stored.fault replaced row = none ↔
      stored.nullFault row.cells = none ∧
        ∀ other ∈ stored.rows, some other.id ≠ replaced →
          other.id ≠ row.id ∧ ∀ i ∈ stored.distinct, StoredRow.Apart i row other := by
  unfold fault
  cases stored.nullFault row.cells with
  | some e => simp
  | none =>
      dsimp only
      split
      · rename_i hTaken
        obtain ⟨other, hOther, hSame⟩ := List.any_eq_true.mp hTaken
        rw [Bool.and_eq_true, bne_iff_ne, beq_iff_eq] at hSame
        simp only [reduceCtorEq, true_and, false_iff, not_forall]
        exact ⟨other, hOther, hSame.1, fun hBoth => hBoth.1 hSame.2⟩
      · rename_i hFree
        simp only [List.any_eq_true, Bool.and_eq_true, bne_iff_ne, beq_iff_eq, not_exists,
          not_and] at hFree
        simp only [Option.map_eq_none_iff, List.find?_eq_none, Bool.not_eq_true,
          taken_eq_false_iff, true_and]
        constructor
        · exact fun hApart other hOther hElse =>
            ⟨hFree other hOther hElse, fun i hi => hApart i hi other hOther hElse⟩
        · exact fun hBoth i hi other hOther hElse => (hBoth other hOther hElse).2 i hi

/-! ## Places -/

theorem place_perm (row : StoredRow) (rows : List StoredRow) :
    (place row rows).Perm (row :: rows) := by
  induction rows with
  | nil => exact .refl _
  | cons other rows ih =>
      rw [place]
      split
      · exact .refl _
      · exact (ih.cons other).trans (.swap row other rows)

/-- A row that is put in its place stands there in the order of the ids. -/
theorem pairwise_place {row : StoredRow} {rows : List StoredRow}
    (hOrdered : rows.Pairwise (·.id < ·.id)) (hNew : ∀ other ∈ rows, other.id ≠ row.id) :
    (place row rows).Pairwise (·.id < ·.id) := by
  induction rows with
  | nil => exact List.pairwise_singleton _ _
  | cons first rows ih =>
      obtain ⟨hFirst, hRest⟩ := List.pairwise_cons.mp hOrdered
      obtain ⟨hOther, hOthers⟩ := List.forall_mem_cons.mp hNew
      rw [place]
      split
      · rename_i hLess
        refine List.pairwise_cons.mpr ⟨List.forall_mem_cons.mpr ⟨hLess, fun other hMem => ?_⟩,
          hOrdered⟩
        exact hLess.trans (hFirst other hMem)
      · refine List.pairwise_cons.mpr ⟨fun other hMem => ?_, ih hRest hOthers⟩
        rcases mem_place.mp hMem with rfl | hOld
        · omega
        · exact hFirst other hOld

/-! ## Sound tables -/

/-- A table whose rows keep all constraints: the primary key shows the row id, if it does so at
all; no column is null that must not be; the rows stand in the order of their ids; and no two rows
have a value in common that has to be distinct. -/
structure Sound (stored : StoredTable) : Prop where
  keyed : ∀ i ∈ stored.rowId, i < stored.columns.length
  shown : ∀ row ∈ stored.rows, ∀ i ∈ stored.rowId, row.cells[i]? = some (.int row.id)
  filled : ∀ row ∈ stored.rows, stored.nullFault row.cells = none
  ordered : stored.rows.Pairwise (·.id < ·.id)
  apart : ∀ i ∈ stored.distinct, stored.rows.Pairwise (StoredRow.Apart i)

instance (stored : StoredTable) : Decidable stored.Sound :=
  decidable_of_iff
    ((∀ i ∈ stored.rowId, i < stored.columns.length) ∧
      (∀ row ∈ stored.rows, ∀ i ∈ stored.rowId, row.cells[i]? = some (.int row.id)) ∧
      (∀ row ∈ stored.rows, stored.nullFault row.cells = none) ∧
      stored.rows.Pairwise (·.id < ·.id) ∧
      ∀ i ∈ stored.distinct, stored.rows.Pairwise (StoredRow.Apart i))
    ⟨fun h => ⟨h.1, h.2.1, h.2.2.1, h.2.2.2.1, h.2.2.2.2⟩,
      fun h => ⟨h.keyed, h.shown, h.filled, h.ordered, h.apart⟩⟩

/-- The rows of a sound table have different ids. -/
theorem Sound.nodup_ids {stored : StoredTable} (hSound : stored.Sound) :
    (stored.rows.map (·.id)).Nodup :=
  List.pairwise_map.mpr (hSound.ordered.imp ne_of_lt)

/-- Values for slots of a table: none is for the place of an integer primary key, which is the row
id itself. -/
def Addressed (stored : StoredTable) (values : SlotValues) : Prop :=
  ∀ entry ∈ values, ∀ i ∈ stored.rowId, entry.1 ≠ .column i

theorem Addressed.reverse {stored : StoredTable} {values : SlotValues}
    (hValues : stored.Addressed values) : stored.Addressed values.reverse :=
  fun entry hEntry => hValues entry (List.mem_reverse.mp hEntry)

theorem Addressed.lookup {stored : StoredTable} {values : SlotValues}
    (hValues : stored.Addressed values) {i : Nat} (hKey : stored.rowId = some i) :
    values.lookup (.column i) = none :=
  List.lookup_eq_none_iff.mpr fun entry hEntry =>
    bne_iff_ne.mpr (hValues entry hEntry i hKey).symm

section Operations

variable {stored : StoredTable} {values : SlotValues}

/-- A table keeps its constraints when a row that breaks none is put beside some of its rows. -/
theorem Sound.of_place (hSound : stored.Sound) {rest : List StoredRow} {row : StoredRow}
    (hRest : rest.Sublist stored.rows)
    (hShown : ∀ i ∈ stored.rowId, row.cells[i]? = some (.int row.id))
    (hFilled : stored.nullFault row.cells = none)
    (hBeside : ∀ other ∈ rest,
      other.id ≠ row.id ∧ ∀ i ∈ stored.distinct, StoredRow.Apart i row other) :
    { stored with rows := place row rest }.Sound where
  keyed := hSound.keyed
  shown := fun other hOther => by
    rcases mem_place.mp hOther with rfl | hOld
    · exact hShown
    · exact hSound.shown other (hRest.subset hOld)
  filled := fun other hOther => by
    rcases mem_place.mp hOther with rfl | hOld
    · exact hFilled
    · exact hSound.filled other (hRest.subset hOld)
  ordered := pairwise_place (hSound.ordered.sublist hRest) fun other hOther =>
    (hBeside other hOther).1
  apart := fun i hi => by
    refine (place_perm row rest).symm.pairwise ?_ fun hApart => hApart.symm
    exact List.pairwise_cons.mpr
      ⟨fun other hOther => (hBeside other hOther).2 i hi, (hSound.apart i hi).sublist hRest⟩

/-- The primary key of a row shows the id that it is given. -/
theorem getElem?_showId {cells : List Cell} {i : Nat} (hKey : stored.rowId = some i)
    (hLength : i < cells.length) (id : Int) :
    (stored.showId id cells).cells[i]? = some (.int (stored.showId id cells).id) := by
  unfold showId
  rw [hKey]
  exact List.getElem?_set_self hLength

/-- An insertion: the id and the cells of the new row, and that it breaks no constraint. -/
theorem insert_eq_ok {now : Int} {row : StoredRow} {after : StoredTable} :
    stored.insert now values = .ok (row, after) ↔
      ∃ id, stored.newId values = .ok id ∧ row = stored.showId id (stored.newCells now values) ∧
        stored.fault none row = none ∧ after = { stored with rows := place row stored.rows } := by
  unfold insert
  rw [bind_eq_ok]
  refine exists_congr fun id => and_congr_right fun _ => ?_
  dsimp only
  constructor
  · intro hRest
    split at hRest
    · cases hRest
    · rename_i hFault
      obtain ⟨rfl, rfl⟩ := Prod.mk.inj (pure_eq_ok.mp hRest)
      exact ⟨rfl, hFault, rfl⟩
  · rintro ⟨rfl, hFault, rfl⟩
    rw [hFault]
    rfl

/-- **Insertion**: a table keeps its constraints. -/
theorem Sound.of_insert (hSound : stored.Sound) {now : Int} {row : StoredRow}
    {after : StoredTable} (hInsert : stored.insert now values = .ok (row, after)) :
    after.Sound := by
  obtain ⟨id, -, rfl, hFault, rfl⟩ := insert_eq_ok.mp hInsert
  obtain ⟨hFilled, hBeside⟩ := fault_eq_none_iff.mp hFault
  refine hSound.of_place (List.Sublist.refl _) (fun i hKey => ?_) hFilled
    fun other hOther => hBeside other hOther (by simp)
  refine getElem?_showId hKey ?_ id
  rw [newCells, List.length_map, List.length_zipIdx]
  exact hSound.keyed i hKey

/-- The primary key of a changed row shows its id. -/
theorem shown_of_assign (hValues : stored.Addressed values) {row changed : StoredRow}
    (hShown : ∀ i ∈ stored.rowId, row.cells[i]? = some (.int row.id))
    (hAssign : stored.assign values row = .ok changed) :
    ∀ i ∈ stored.rowId, changed.cells[i]? = some (.int changed.id) := by
  intro i hKey
  have hCell := hShown i hKey
  have hLookup := hValues.lookup hKey
  rcases assign_eq_ok.mp hAssign with ⟨-, rfl⟩ | ⟨_, id, -, -, rfl⟩
  · simp [reassigned, hCell, hLookup]
  · refine getElem?_showId hKey ?_ id
    rw [reassigned, List.length_map, List.length_zipIdx]
    exact (List.getElem?_eq_some_iff.mp hCell).1

/-- A change of one row: what it becomes, and that it breaks no constraint. -/
theorem updateRow_eq_ok {row changed : StoredRow} {after : StoredTable} :
    updateRow values stored row = .ok (changed, after) ↔
      stored.assign values row = .ok changed ∧ stored.fault (some row.id) changed = none ∧
        after = { stored with rows := place changed (stored.rows.filter (·.id != row.id)) } := by
  unfold updateRow
  rw [bind_eq_ok]
  constructor
  · rintro ⟨made, hMade, hRest⟩
    split at hRest
    · cases hRest
    · rename_i hFault
      obtain ⟨rfl, rfl⟩ := Prod.mk.inj (pure_eq_ok.mp hRest)
      exact ⟨hMade, hFault, rfl⟩
  · rintro ⟨hAssign, hFault, rfl⟩
    refine ⟨changed, hAssign, ?_⟩
    rw [hFault]
    rfl

theorem updateRows_cons_eq_ok {row : StoredRow} {rows changed : List StoredRow}
    {after : StoredTable} :
    updateRows values (row :: rows) stored = .ok (changed, after) ↔
      ∃ first between others, updateRow values stored row = .ok (first, between) ∧
        updateRows values rows between = .ok (others, after) ∧ changed = first :: others := by
  rw [updateRows, bind_eq_ok]
  constructor
  · rintro ⟨⟨first, between⟩, hFirst, hRest⟩
    obtain ⟨⟨others, last⟩, hOthers, hPure⟩ := bind_eq_ok.mp hRest
    obtain ⟨rfl, rfl⟩ := Prod.mk.inj (pure_eq_ok.mp hPure)
    exact ⟨first, between, others, hFirst, hOthers, rfl⟩
  · rintro ⟨first, between, others, hFirst, hOthers, rfl⟩
    exact ⟨(first, between), hFirst, bind_eq_ok.mpr ⟨(others, after), hOthers, rfl⟩⟩

/-- A change of one row leaves a table that keeps its constraints. -/
theorem Sound.of_updateRow (hSound : stored.Sound) (hValues : stored.Addressed values)
    {row changed : StoredRow} {after : StoredTable}
    (hShown : ∀ i ∈ stored.rowId, row.cells[i]? = some (.int row.id))
    (hUpdate : updateRow values stored row = .ok (changed, after)) : after.Sound := by
  obtain ⟨hAssign, hFault, rfl⟩ := updateRow_eq_ok.mp hUpdate
  obtain ⟨hFilled, hBeside⟩ := fault_eq_none_iff.mp hFault
  refine hSound.of_place List.filter_sublist (shown_of_assign hValues hShown hAssign) hFilled
    fun other hOther => ?_
  obtain ⟨hMem, hElse⟩ := List.mem_filter.mp hOther
  exact hBeside other hMem (by simpa using hElse)

/-- **Change**: a table keeps its constraints, whatever order the rows are reached in. -/
theorem Sound.of_updateRows {rows : List StoredRow} :
    ∀ {stored after : StoredTable} {changed : List StoredRow}, stored.Sound →
      stored.Addressed values →
      (∀ row ∈ rows, ∀ i ∈ stored.rowId, row.cells[i]? = some (.int row.id)) →
      updateRows values rows stored = .ok (changed, after) → after.Sound := by
  induction rows with
  | nil =>
      intro stored after changed hSound _ _ hUpdate
      cases hUpdate
      exact hSound
  | cons row rows ih =>
      intro stored after changed hSound hValues hShown hUpdate
      obtain ⟨hRow, hRows⟩ := List.forall_mem_cons.mp hShown
      obtain ⟨first, between, others, hFirst, hOthers, rfl⟩ := updateRows_cons_eq_ok.mp hUpdate
      have hBetween := hSound.of_updateRow hValues hRow hFirst
      obtain ⟨-, -, rfl⟩ := updateRow_eq_ok.mp hFirst
      exact ih hBetween hValues hRows hOthers

/-- **Removal**: a table keeps its constraints. -/
theorem Sound.of_delete (hSound : stored.Sound) (chosen : List StoredRow) :
    (stored.delete chosen).Sound where
  keyed := hSound.keyed
  shown := fun row hRow => hSound.shown row (List.mem_filter.mp hRow).1
  filled := fun row hRow => hSound.filled row (List.mem_filter.mp hRow).1
  ordered := hSound.ordered.sublist List.filter_sublist
  apart := fun i hi => (hSound.apart i hi).sublist List.filter_sublist

/-- A table that has just been created keeps its constraints. -/
theorem sound_of_ofTable {ι : Type} {table : Table ι} {created : StoredTable}
    (hCreated : ofTable table = .ok created) : created.Sound := by
  rw [(ofTable_eq_ok hCreated).2.2]
  refine ⟨fun i hKey => ?_, by simp, by simp, .nil, fun _ _ => .nil⟩
  rw [List.length_map]
  exact (List.findIdx?_eq_some_iff_getElem.mp hKey).1

end Operations

end StoredTable

/-! ## Stores -/

namespace Store

variable {ι : Type}

/-- A store whose tables keep their constraints. -/
def Sound (store : Store) : Prop := ∀ stored ∈ store, stored.Sound

instance (store : Store) : Decidable store.Sound :=
  inferInstanceAs (Decidable (∀ stored ∈ store, stored.Sound))

theorem Sound.of_table? {store : Store} (hStore : store.Sound) {name : String}
    {stored : StoredTable} (hFound : store.table? name = some stored) : stored.Sound :=
  hStore stored (List.mem_of_find?_eq_some hFound)

theorem Sound.put {store : Store} (hStore : store.Sound) {stored : StoredTable}
    (hSound : stored.Sound) : (store.put stored).Sound := by
  intro other hOther
  obtain ⟨old, hOld, rfl⟩ := List.mem_map.mp hOther
  split
  · exact hSound
  · exact hStore old hOld

/-- What is true of the tables of a store, and of a table when it is created, is true of all tables
after a creation. -/
theorem forall_of_create {P : StoredTable → Prop} {store next : Store} {table : Table ι}
    (hNew : ∀ created, StoredTable.ofTable table = .ok created → P created)
    (hStore : ∀ stored ∈ store, P stored) (hCreate : store.create table = .ok next) :
    ∀ stored ∈ next, P stored := by
  cases hFound : store.table? table.name with
  | none =>
      obtain ⟨created, hCreated, rfl⟩ := Store.create_of_none hFound hCreate
      exact List.forall_mem_append.mpr
        ⟨hStore, List.forall_mem_singleton.mpr (hNew created hCreated)⟩
  | some found =>
      simp only [Store.create, hFound] at hCreate
      split at hCreate
      · cases hCreate
      · split at hCreate
        · obtain ⟨-, -, rfl⟩ := map_eq_ok.mp hCreate
          exact hStore
        · cases hCreate
          exact hStore

theorem forall_of_foldlM {P : StoredTable → Prop} {schema : Schema ι}
    (hNew : ∀ key created, StoredTable.ofTable (schema.table key) = .ok created → P created)
    {keys : List ι} :
    ∀ {store after : Store}, (∀ stored ∈ store, P stored) →
      keys.foldlM (fun acc key => Store.create acc (schema.table key)) store = .ok after →
      ∀ stored ∈ after, P stored := by
  induction keys with
  | nil =>
      intro store after hStore hSteps
      cases hSteps
      exact hStore
  | cons key keys ih =>
      intro store after hStore hSteps
      obtain ⟨next, hNext, hRest⟩ := bind_eq_ok.mp hSteps
      exact ih (forall_of_create (hNew key) hStore hNext) hRest

/-- What is true of a table when it is created is true of the tables of a store that was created
from a schema. -/
theorem forall_of_bootstrap {P : StoredTable → Prop} {schema : Schema ι} {store : Store}
    (hNew : ∀ key created, StoredTable.ofTable (schema.table key) = .ok created → P created)
    (hCreated : Store.bootstrap [] schema = .ok store) : ∀ stored ∈ store, P stored :=
  forall_of_foldlM hNew (fun _ hNone => absurd hNone List.not_mem_nil) hCreated

/-- **Creation**: a store that was created from a schema keeps its constraints. -/
theorem sound_of_bootstrap {schema : Schema ι} {store : Store}
    (hCreated : Store.bootstrap [] schema = .ok store) : store.Sound :=
  forall_of_bootstrap (fun _ _ hNew => StoredTable.sound_of_ofTable hNew) hCreated

end Store

end ModelStore
