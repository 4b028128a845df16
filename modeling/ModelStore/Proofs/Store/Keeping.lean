import ModelStore.Proofs.Store.Holding

/-!
# What the operations on a table keep

A table that was created from a description goes on to hold it, whatever is inserted, changed or
removed: the operations leave everything but the rows as it is, and a row that they make has a cell
for every column, converted as the column keeps it.  What a column has converted once it does not
convert again, and an integer primary key shows the row id, which is an integer.

## Main results

* `Affinity.keeps_store`: a column keeps what it has converted.
* `StoredTable.Holds.of_insert`, `StoredTable.Holds.of_update`, `StoredTable.Holds.of_delete`: a
  table that holds a description holds it after every operation.
* `Store.Holds.put`: so does a store, when a table is put back.
* `Store.holds_of_bootstrap`: a store that was created from a schema holds it.
-/

namespace ModelStore

/-! ## Values that columns keep -/

/-- The significand of an integer is not rounded to zero. -/
theorem Binary64.isZero_ofRatio {negative : Bool} {num : Nat} (hNum : num ≠ 0) :
    (ofRatio negative num 1).isZero = false := by
  have hOne : 1 ≤ num := Nat.one_le_iff_ne_zero.mpr hNum
  have hExponent : exponentOf num 1 ≤ max (Nat.log2 num : Int) (-1) := by
    unfold exponentOf
    dsimp only
    have hLeast : leastExponent ≤ -2 := by decide
    have hLog : Nat.log2 1 = 0 := by decide
    rw [hLog]
    split <;> omega
  have hBound : 0 < (descale num 1 (exponentOf num 1)).2 ∧
      (descale num 1 (exponentOf num 1)).2 ≤ (descale num 1 (exponentOf num 1)).1 := by
    unfold descale
    split
    · exact ⟨Nat.one_pos, Nat.one_le_iff_ne_zero.mpr
        (Nat.mul_ne_zero hNum (Nat.pos_iff_ne_zero.mp (Nat.pow_pos Nat.two_pos)))⟩
    · rename_i hNonneg
      rw [Nat.one_mul]
      refine ⟨Nat.pow_pos Nat.two_pos, ?_⟩
      have hLe : (exponentOf num 1).natAbs ≤ Nat.log2 num := by omega
      exact (Nat.le_log2 hNum).mp hLe
  have hRound : roundDiv (descale num 1 (exponentOf num 1)).1
      (descale num 1 (exponentOf num 1)).2 ≠ 0 := by
    have hQuotient := Nat.div_pos hBound.2 hBound.1
    unfold roundDiv
    dsimp only
    split <;> omega
  unfold ofRatio
  rw [if_neg hNum]
  dsimp only
  split
  · split
    · rfl
    · rfl
  · split
    · rfl
    · simpa [isZero] using hRound

namespace Affinity

/-- What stands in a text, read as a number: none, an integer or a real number. -/
theorem numberOf_cases (s : String) :
    numberOf s = Option.none ∨ (∃ i, numberOf s = some (.int i)) ∨
      ∃ x, numberOf s = some (.real x) := by
  unfold numberOf
  cases Numeral.parse s with
  | none => exact .inl rfl
  | some parts =>
      right
      simp only [Option.map_some]
      split
      · exact .inl ⟨_, rfl⟩
      · exact .inr ⟨_, rfl⟩

/-- A real number that is an integer has no negative zero. -/
theorem unsigned_ofInt (i : Int) : unsigned (Binary64.ofInt i) = Binary64.ofInt i := by
  by_cases hZero : i = 0
  · subst hZero
    rfl
  · have hNot : (Binary64.ofInt i).isZero = false :=
      Binary64.isZero_ofRatio (Int.natAbs_ne_zero.mpr hZero)
    rw [unsigned, hNot]
    rfl

theorem unsigned_unsigned (x : Binary64) : unsigned (unsigned x) = unsigned x := by
  by_cases hZero : x.isZero = true
  · rw [unsigned, unsigned, if_pos hZero]
    rfl
  · have hStays : unsigned x = x := by rw [unsigned, if_neg hZero]
    rw [hStays, hStays]

/-- A real number that has been made an integer, where it is one, is left as it is. -/
theorem store_integral (x : Binary64) : integer.store (integral x) = integral x := by
  have hStays : integral x = .real x ∨ ∃ i, integral x = .int i := by
    unfold integral
    split
    · split
      · exact .inr ⟨_, rfl⟩
      · exact .inl rfl
    · exact .inl rfl
  rcases hStays with hReal | ⟨i, hInt⟩
  · rw [hReal]
    exact hReal
  · rw [hInt]
    rfl

/-- A text that is read as a number is not read as a text. -/
theorem toNumber_toNumber (cell : Cell) : toNumber (toNumber cell) = toNumber cell := by
  cases cell with
  | text s => rcases numberOf_cases s with h | ⟨i, h⟩ | ⟨x, h⟩ <;> simp [toNumber, h]
  | _ => rfl

/-- **Conversion**: a column keeps what it has converted. -/
theorem keeps_store (affinity : Affinity) (cell : Cell) : affinity.Keeps (affinity.store cell) := by
  unfold Affinity.Keeps
  cases affinity with
  | none =>
      cases cell with
      | real x => exact congrArg Cell.real (unsigned_unsigned x)
      | _ => rfl
  | text => cases cell <;> rfl
  | integer =>
      have hTwice := toNumber_toNumber cell
      cases hNumber : toNumber cell with
      | real x =>
          simp only [store, hNumber]
          exact store_integral x
      | text s =>
          rw [hNumber] at hTwice
          simp only [store, hNumber, hTwice]
      | _ =>
          simp only [store, hNumber]
          rfl
  | real =>
      have hTwice := toNumber_toNumber cell
      cases hNumber : toNumber cell with
      | int i =>
          simp only [store, hNumber]
          exact congrArg Cell.real (unsigned_ofInt i)
      | real x =>
          simp only [store, hNumber]
          exact congrArg Cell.real (unsigned_unsigned x)
      | text s =>
          rw [hNumber] at hTwice
          simp only [store, hNumber, hTwice]
      | _ =>
          simp only [store, hNumber]
          rfl

end Affinity

/-! ## Rows that fit their columns -/

namespace StoredTable

/-- A row has a cell for each column of a table, and the column keeps it. -/
def Fits (stored : StoredTable) (cells : List Cell) : Prop :=
  List.Forall₂ (fun column cell => column.affinity.Keeps cell) stored.columns cells

variable {ι : Type} {stored : StoredTable} {table : Table ι}

/-- The rows of a table that was created fit their columns. -/
theorem Holds.fits (hHolds : stored.Holds table) {row : StoredRow} (hRow : row ∈ stored.rows) :
    stored.Fits row.cells := by
  rw [Fits, hHolds.columns_eq, List.forall₂_map_left_iff]
  exact hHolds.rows_fit row hRow

/-- A table that was created holds its description with any rows that fit. -/
theorem Holds.of_fits (hHolds : stored.Holds table) {rows : List StoredRow}
    (hRows : ∀ row ∈ rows, stored.Fits row.cells) : { stored with rows := rows }.Holds table where
  created := hHolds.created
  rows_fit := by
    intro row hRow
    have hFits := hRows row hRow
    rw [Fits, hHolds.columns_eq, List.forall₂_map_left_iff] at hFits
    exact hFits

/-- An integer primary key is a column of integers. -/
theorem Holds.rowId_integer (hHolds : stored.Holds table) {i : Nat} (hKey : stored.rowId = some i)
    {column : StoredColumn} (hColumn : stored.columns[i]? = some column) :
    column.affinity = .integer := by
  have hRowId : rowIdOf table.columns = some i := hHolds.rowId_eq.symm.trans hKey
  obtain ⟨hLength, hInteger, -⟩ := List.findIdx?_eq_some_iff_getElem.mp hRowId
  rw [hHolds.columns_eq, List.getElem?_map, List.getElem?_eq_getElem hLength] at hColumn
  cases hColumn
  simpa [Column.stored] using (Bool.and_eq_true_iff.mp hInteger).2

/-- A row that is put in its place is among the rows with the others. -/
theorem mem_place {row other : StoredRow} {rows : List StoredRow} :
    other ∈ place row rows ↔ other = row ∨ other ∈ rows := by
  induction rows with
  | nil => simp [place]
  | cons first rows ih =>
      rw [place]
      split
      · simp
      · rw [List.mem_cons, ih, List.mem_cons]
        tauto

theorem forall₂_set {α β : Type} {R : α → β → Prop} {as : List α} {bs : List β}
    (hAll : List.Forall₂ R as bs) {i : Nat} {b : β} (hNew : ∀ a, as[i]? = some a → R a b) :
    List.Forall₂ R as (bs.set i b) := by
  induction hAll generalizing i with
  | nil => exact .nil
  | cons hHead hTail ih =>
      cases i with
      | zero => exact .cons (hNew _ rfl) hTail
      | succ i => exact .cons hHead (ih fun a ha => hNew a ha)

/-- Each item on the right is related to one on the left. -/
theorem exists_left_of_forall₂ {α β : Type} {R : α → β → Prop} {as : List α} {bs : List β}
    (hAll : List.Forall₂ R as bs) {b : β} (hb : b ∈ bs) : ∃ a ∈ as, R a b := by
  induction hAll with
  | nil => cases hb
  | @cons a c as bs hHead hTail ih =>
      rcases List.mem_cons.mp hb with rfl | hRest
      · exact ⟨a, List.mem_cons_self, hHead⟩
      · obtain ⟨other, hOther, hRelated⟩ := ih hRest
        exact ⟨other, List.mem_cons_of_mem a hOther, hRelated⟩

/-- A row still fits when its primary key shows its id. -/
theorem Holds.fits_showId (hHolds : stored.Holds table) {cells : List Cell}
    (hFits : stored.Fits cells) (id : Int) : stored.Fits (stored.showId id cells).cells := by
  unfold showId
  split
  · rename_i i hKey
    refine forall₂_set hFits fun column hColumn => ?_
    rw [hHolds.rowId_integer hKey hColumn]
    rfl
  · exact hFits

/-- The cells of a new row fit. -/
theorem fits_newCells (now : Int) (values : SlotValues) :
    stored.Fits (stored.newCells now values) := by
  rw [Fits, newCells]
  have hZip : stored.columns = stored.columns.zipIdx.map Prod.fst := by simp
  conv => arg 2; rw [hZip]
  rw [List.forall₂_map_left_iff, List.forall₂_map_right_iff, List.forall₂_same]
  exact fun entry _ => Affinity.keeps_store _ _

theorem name_of_insert {now : Int} {values : SlotValues} {row : StoredRow} {after : StoredTable}
    (hInsert : stored.insert now values = .ok (row, after)) : after.name = stored.name := by
  obtain ⟨id, -, hRest⟩ := bind_eq_ok.mp hInsert
  dsimp only at hRest
  split at hRest
  · cases hRest
  · cases pure_eq_ok.mp hRest
    rfl

/-- A table that holds a description holds it after an insertion. -/
theorem Holds.of_insert (hHolds : stored.Holds table) {now : Int} {values : SlotValues}
    {row : StoredRow} {after : StoredTable}
    (hInsert : stored.insert now values = .ok (row, after)) : after.Holds table := by
  obtain ⟨id, -, hRest⟩ := bind_eq_ok.mp hInsert
  dsimp only at hRest
  split at hRest
  · cases hRest
  · obtain ⟨rfl, rfl⟩ := Prod.mk.inj (pure_eq_ok.mp hRest)
    refine hHolds.of_fits fun other hOther => ?_
    rcases mem_place.mp hOther with rfl | hOld
    · exact hHolds.fits_showId (fits_newCells now values) id
    · exact hHolds.fits hOld

/-- Cells that fit still fit when each is replaced by one that its column keeps. -/
theorem Fits.map_zipIdx {cells : List Cell} (hFits : stored.Fits cells) {next : Cell × Nat → Cell}
    (hNext : ∀ (cell : Cell) (i : Nat) (column : StoredColumn), stored.columns[i]? = some column →
      column.affinity.Keeps cell → column.affinity.Keeps (next (cell, i))) :
    stored.Fits (cells.zipIdx.map next) := by
  obtain ⟨hLength, hEach⟩ := List.forall₂_iff_get.mp hFits
  refine List.forall₂_iff_get.mpr ⟨by simpa using hLength, fun i hColumn hCell => ?_⟩
  have hOld : i < cells.length := by simpa using hCell
  have hKeeps := hEach i hColumn hOld
  simp only [List.get_eq_getElem, List.getElem_map, List.getElem_zipIdx, Nat.zero_add]
    at hKeeps ⊢
  exact hNext _ i _ (List.getElem?_eq_getElem hColumn) hKeeps

/-- The cells of a row with values replaced, before a value for the row id is looked at. -/
def reassigned (stored : StoredTable) (values : SlotValues) (cells : List Cell) : List Cell :=
  cells.zipIdx.map fun (cell, i) =>
    match values.lookup (.column i), stored.columns[i]? with
    | some value, some column => column.affinity.store value
    | _, _ => cell

/-- What a row is changed to: a value for the row id gives it another id. -/
theorem assign_eq_ok {values : SlotValues} {row changed : StoredRow} :
    stored.assign values row = .ok changed ↔
      (values.lookup .rowId = none ∧ changed = ⟨row.id, stored.reassigned values row.cells⟩) ∨
        ∃ value id, values.lookup .rowId = some value ∧ idOf value = .ok id ∧
          changed = stored.showId id (stored.reassigned values row.cells) := by
  unfold assign
  cases values.lookup .rowId with
  | none =>
      change (pure (StoredRow.mk row.id (stored.reassigned values row.cells))) = _ ↔ _
      simpa using pure_eq_ok.trans eq_comm
  | some value =>
      change (do return stored.showId (← idOf value) (stored.reassigned values row.cells)) = _ ↔ _
      simpa [bind_eq_ok, pure_eq_ok, map_eq_ok] using
        exists_congr fun id => and_congr_right fun _ => eq_comm

/-- The cells of a row with values replaced fit. -/
theorem Fits.reassigned {cells : List Cell} (hFits : stored.Fits cells) (values : SlotValues) :
    stored.Fits (stored.reassigned values cells) := by
  refine hFits.map_zipIdx fun cell i column hColumn hKeeps => ?_
  dsimp only
  rw [hColumn]
  cases values.lookup (.column i) with
  | none => exact hKeeps
  | some value => exact Affinity.keeps_store _ _

/-- The cells of a changed row fit. -/
theorem Holds.fits_assign (hHolds : stored.Holds table) {values : SlotValues}
    {row changed : StoredRow} (hFits : stored.Fits row.cells)
    (hAssign : stored.assign values row = .ok changed) : stored.Fits changed.cells := by
  rcases assign_eq_ok.mp hAssign with ⟨-, rfl⟩ | ⟨_, id, -, -, rfl⟩
  · exact hFits.reassigned values
  · exact hHolds.fits_showId (hFits.reassigned values) id

theorem name_of_updateRows {values : SlotValues} {rows : List StoredRow} :
    ∀ {stored after : StoredTable} {changed : List StoredRow},
      updateRows values rows stored = .ok (changed, after) → after.name = stored.name := by
  induction rows with
  | nil =>
      intro stored after changed hUpdate
      cases hUpdate
      rfl
  | cons row rows ih =>
      intro stored after changed hUpdate
      obtain ⟨⟨first, between⟩, hFirst, hRest⟩ := bind_eq_ok.mp hUpdate
      obtain ⟨⟨others, last⟩, hOthers, hPure⟩ := bind_eq_ok.mp hRest
      obtain ⟨made, -, hFault⟩ := bind_eq_ok.mp hFirst
      cases pure_eq_ok.mp hPure
      split at hFault
      · cases hFault
      · cases pure_eq_ok.mp hFault
        have hName := ih hOthers
        exact hName

/-- A change of rows that fit leaves a table that holds its description. -/
theorem Holds.of_updateRows {values : SlotValues} {rows : List StoredRow} :
    ∀ {stored after : StoredTable} {changed : List StoredRow}, stored.Holds table →
      (∀ row ∈ rows, stored.Fits row.cells) →
      updateRows values rows stored = .ok (changed, after) → after.Holds table := by
  induction rows with
  | nil =>
      intro stored after changed hHolds _ hUpdate
      cases hUpdate
      exact hHolds
  | cons row rows ih =>
      intro stored after changed hHolds hFits hUpdate
      rw [List.forall_mem_cons] at hFits
      obtain ⟨⟨first, between⟩, hFirst, hRest⟩ := bind_eq_ok.mp hUpdate
      obtain ⟨⟨others, last⟩, hOthers, hPure⟩ := bind_eq_ok.mp hRest
      obtain ⟨-, rfl⟩ := Prod.mk.inj (pure_eq_ok.mp hPure)
      obtain ⟨made, hMade, hFault⟩ := bind_eq_ok.mp hFirst
      split at hFault
      · cases hFault
      · obtain ⟨rfl, rfl⟩ := Prod.mk.inj (pure_eq_ok.mp hFault)
        have hBetween : { stored with
            rows := place made (stored.rows.filter (·.id != row.id)) }.Holds table := by
          refine hHolds.of_fits fun other hOther => ?_
          rcases mem_place.mp hOther with rfl | hOld
          · exact hHolds.fits_assign hFits.1 hMade
          · exact hHolds.fits (List.mem_filter.mp hOld).1
        exact ih hBetween hFits.2 hOthers

/-- A table that holds a description holds it after a change of some of its rows. -/
theorem Holds.of_update (hHolds : stored.Holds table) {values : SlotValues}
    {chosen changed : List StoredRow} {after : StoredTable}
    (hChosen : ∀ row ∈ chosen, row ∈ stored.rows)
    (hUpdate : stored.update values chosen = .ok (changed, after)) : after.Holds table :=
  hHolds.of_updateRows (fun row hRow => hHolds.fits (hChosen row hRow)) hUpdate

/-- A table that holds a description holds it after a removal. -/
theorem Holds.of_delete (hHolds : stored.Holds table) (chosen : List StoredRow) :
    (stored.delete chosen).Holds table :=
  hHolds.of_fits fun _ hRow => hHolds.fits (List.mem_filter.mp hRow).1

end StoredTable

/-! ## Stores -/

section Stores

variable {ι : Type} {schema : Schema ι} {store : Store}

/-- A table that is found has the name it was asked for by, up to case. -/
theorem Store.foldedName_of_table? {name : String} {stored : StoredTable}
    (hFound : store.table? name = some stored) : foldedName stored.name = foldedName name := by
  have hSame := List.find?_some hFound
  exact sameName_iff.mp hSame

/-- A table that is put back under its name, up to case, is found where the old one was. -/
theorem Store.table?_put {after : StoredTable} (name : String) :
    (store.put after).table? name = (store.table? name).map fun old =>
      if sameName old.name after.name then after else old := by
  have hTest : ((sameName · name) ∘ StoredTable.name) ∘
      (fun old : StoredTable => if sameName old.name after.name then after else old) =
      (sameName · name) ∘ StoredTable.name := by
    funext old
    by_cases hSame : sameName old.name after.name = true
    · simp only [Function.comp_apply, if_pos hSame]
      rw [Bool.eq_iff_iff, sameName_iff, sameName_iff, sameName_iff.mp hSame]
    · simp only [Function.comp_apply, if_neg hSame]
  have hFound := List.find?_map (p := (sameName · name) ∘ StoredTable.name)
    (f := fun old : StoredTable => if sameName old.name after.name then after else old) (l := store)
  rw [hTest] at hFound
  exact hFound

/-- A table that is put back under its name is found under it. -/
theorem Store.table?_put_self {store : Store} {stored after : StoredTable} {name : String}
    (hFound : store.table? name = some stored) (hName : after.name = stored.name) :
    (store.put after).table? name = some after := by
  rw [Store.table?_put, hFound, Option.map_some, hName, sameName_self, if_pos rfl]

/-- **Putting a table back**: a store that holds a schema holds it when one of its tables is put
back that still holds all that it held. -/
theorem Store.Holds.put (hStore : store.Holds schema) {name : String}
    {stored after : StoredTable} (hFound : store.table? name = some stored)
    (hName : after.name = stored.name)
    (hAfter : ∀ key, stored.Holds (schema.table key) → after.Holds (schema.table key)) :
    (store.put after).Holds schema := by
  intro key
  obtain ⟨old, hOld, hHolds⟩ := hStore key
  refine ⟨_, by rw [Store.table?_put, hOld]; rfl, ?_⟩
  dsimp only
  split
  · rename_i hSame
    have hKey := Store.foldedName_of_table? hOld
    have hStored := Store.foldedName_of_table? hFound
    rw [hName, sameName_iff] at hSame
    have hIs : old = stored := by
      have hTest : (fun table : StoredTable => sameName table.name (schema.table key).name) =
          fun table => sameName table.name name := by
        funext table
        rw [Bool.eq_iff_iff, sameName_iff, sameName_iff, ← hKey, hSame, hStored]
      have hOld' : store.find? (fun table => sameName table.name name) = some old := hTest ▸ hOld
      exact Option.some.inj (hOld'.symm.trans hFound)
    exact hAfter key (hIs ▸ hHolds)
  · exact hHolds

/-! ## Creation -/

/-- A table that has just been created holds its description. -/
theorem StoredTable.holds_of_ofTable {table : Table ι} {created : StoredTable}
    (hCreated : StoredTable.ofTable table = .ok created) : created.Holds table := by
  have hRows : created.rows = [] := by rw [(ofTable_eq_ok hCreated).2.2]
  have hSame : { created with rows := [] } = created := by rw [← hRows]
  refine ⟨hSame ▸ hCreated, fun row hRow => ?_⟩
  rw [hRows] at hRow
  cases hRow

/-- A table that is created where there is none of its name stands behind the others. -/
theorem Store.create_of_none {table : Table ι} {next : Store}
    (hNone : store.table? table.name = none) (hCreate : store.create table = .ok next) :
    ∃ created, StoredTable.ofTable table = .ok created ∧ next = store ++ [created] := by
  rw [Store.create, hNone] at hCreate
  obtain ⟨created, hCreated, rfl⟩ := map_eq_ok.mp hCreate
  exact ⟨created, hCreated, rfl⟩

/-- Creating tables of names that differ from each other and from those that are there leaves the
old tables in front, and finds each of the new ones under its name. -/
theorem Store.holds_of_foldlM {keys : List ι} :
    ∀ {store after : Store},
      (∀ stored ∈ store, ∀ key ∈ keys, sameName stored.name (schema.table key).name = false) →
      DistinctNames (keys.map fun key => (schema.table key).name) →
      keys.foldlM (fun acc key => Store.create acc (schema.table key)) store = .ok after →
      (∃ rest, after = store ++ rest) ∧
        ∀ key ∈ keys, ∃ stored, after.table? (schema.table key).name = some stored ∧
          stored.Holds (schema.table key) := by
  induction keys with
  | nil =>
      intro store after _ _ hCreate
      cases hCreate
      exact ⟨⟨[], (List.append_nil _).symm⟩, by simp⟩
  | cons key keys ih =>
      intro store after hApart hDistinct hCreate
      obtain ⟨next, hNext, hRest⟩ := bind_eq_ok.mp hCreate
      have hNone : store.table? (schema.table key).name = none :=
        List.find?_eq_none.mpr fun stored hStored => by
          simp [hApart stored hStored key List.mem_cons_self]
      obtain ⟨created, hCreated, rfl⟩ := Store.create_of_none hNone hNext
      have hName : created.name = (schema.table key).name := by
        rw [(StoredTable.ofTable_eq_ok hCreated).2.2]
      obtain ⟨hFirst, hOthers⟩ := List.nodup_cons.mp hDistinct
      have hApart' : ∀ stored ∈ store ++ [created], ∀ other ∈ keys,
          sameName stored.name (schema.table other).name = false := by
        intro stored hStored other hOther
        rcases List.mem_append.mp hStored with hOld | hNew
        · exact hApart stored hOld other (List.mem_cons_of_mem _ hOther)
        · rw [List.mem_singleton.mp hNew, hName, Bool.eq_false_iff, Ne, sameName_iff]
          intro hSame
          rw [hSame, List.map_map] at hFirst
          exact hFirst (List.mem_map_of_mem (f := foldedName ∘ fun key => (schema.table key).name)
            hOther)
      obtain ⟨⟨rest, rfl⟩, hFound⟩ := ih hApart' hOthers hRest
      refine ⟨⟨[created] ++ rest, List.append_assoc _ _ _⟩, List.forall_mem_cons.mpr ⟨?_, hFound⟩⟩
      refine ⟨created, ?_, StoredTable.holds_of_ofTable hCreated⟩
      have hHere : [created].find? (fun table => sameName table.name (schema.table key).name) =
          some created := by
        simp [hName]
      rw [Store.table?, List.find?_append, List.find?_append, hHere]
      rw [Store.table?] at hNone
      rw [hNone]
      rfl

/-- **Creation**: a store that was created from a schema whose tables have distinct names holds the
schema. -/
theorem Store.holds_of_bootstrap (hKeys : ∀ key, key ∈ schema.keys)
    (hNames : DistinctNames (schema.keys.map fun key => (schema.table key).name))
    (hCreated : Store.bootstrap [] schema = .ok store) : store.Holds schema := fun key =>
  (Store.holds_of_foldlM (by simp) hNames hCreated).2 key (hKeys key)

end Stores

end ModelStore
