import ModelStore.Proofs.Query.Writing

/-!
# Changes that are made again

The values of a change do not depend on the row that gets them.  So a row that was changed is left
as it is by the same change, and may stand where it stands: in a sound table, every row breaks no
constraint in its own place.  A change of rows that have been changed before leaves the whole table
as it is, in whatever order the rows are reached.

## Main results

* `StoredTable.assign_of_assign`: a row that was changed is left as it is by the same change.
* `StoredTable.Sound.updateRows_self`: a change of rows that it leaves as they are.
* `StoredTable.Sound.updateRows_again`: a change that is made again.
* `Store.put_put`: a table that is put back twice.
-/

namespace ModelStore

instance (i : Nat) : Std.Symm (StoredRow.Apart i) := ⟨fun _ _ hApart => hApart.symm⟩

namespace StoredTable

variable {stored : StoredTable} {values : SlotValues}

/-! ## One row -/

theorem length_reassigned (cells : List Cell) :
    (stored.reassigned values cells).length = cells.length := by
  simp [reassigned]

/-- The cell in a place after values were replaced. -/
theorem getElem?_reassigned (cells : List Cell) (i : Nat) :
    (stored.reassigned values cells)[i]? = cells[i]?.map fun cell =>
      match values.lookup (.column i), stored.columns[i]? with
      | some value, some column => column.affinity.store value
      | _, _ => cell := by
  simp [reassigned, List.getElem?_zipIdx]
  rfl

/-- Values that were replaced are replaced by the same values. -/
theorem reassigned_reassigned (cells : List Cell) :
    stored.reassigned values (stored.reassigned values cells) = stored.reassigned values cells := by
  apply List.ext_getElem?
  intro i
  rw [getElem?_reassigned, getElem?_reassigned]
  cases cells[i]? with
  | none => rfl
  | some cell => cases values.lookup (.column i) <;> cases stored.columns[i]? <;> rfl

/-- The same with one place set afterwards. -/
theorem set_reassigned_set (cells : List Cell) (i : Nat) (cell : Cell) :
    (stored.reassigned values ((stored.reassigned values cells).set i cell)).set i cell =
      (stored.reassigned values cells).set i cell := by
  apply List.ext_getElem?
  intro j
  by_cases hPlace : i = j
  · subst hPlace
    simp [List.getElem?_set, length_reassigned]
  · rw [List.getElem?_set_ne hPlace, getElem?_reassigned, List.getElem?_set_ne hPlace,
      ← getElem?_reassigned, reassigned_reassigned]

/-- **Changed rows**: a row that was changed is left as it is by the same change. -/
theorem assign_of_assign {row made : StoredRow} (hAssign : stored.assign values row = .ok made) :
    stored.assign values made = .ok made := by
  rcases assign_eq_ok.mp hAssign with ⟨hNone, rfl⟩ | ⟨value, id, hSome, hId, rfl⟩
  · apply assign_eq_ok.mpr
    exact .inl ⟨hNone, by rw [reassigned_reassigned]⟩
  · apply assign_eq_ok.mpr
    refine .inr ⟨value, id, hSome, hId, ?_⟩
    unfold showId
    cases stored.rowId with
    | none => dsimp only; rw [reassigned_reassigned]
    | some i => dsimp only; rw [set_reassigned_set]

/-! ## Rows in their places -/

/-- A row that is taken out of the order of the ids and put back stands where it stood. -/
theorem place_filter_self {row : StoredRow} :
    ∀ {rows : List StoredRow}, rows.Pairwise (·.id < ·.id) → row ∈ rows →
      place row (rows.filter (·.id != row.id)) = rows := by
  intro rows
  induction rows with
  | nil => simp
  | cons first rows ih =>
      intro hOrdered hRow
      obtain ⟨hFirst, hRest⟩ := List.pairwise_cons.mp hOrdered
      rcases List.mem_cons.mp hRow with rfl | hLater
      · -- The rows behind it have other ids, and the first of them comes later.
        have hOthers : rows.filter (·.id != row.id) = rows := by
          apply List.filter_eq_self.mpr
          intro other hOther
          have hLess := hFirst other hOther
          simp only [bne_iff_ne]
          omega
        rw [List.filter_cons_of_neg (by simp), hOthers]
        cases rows with
        | nil => rfl
        | cons next rows => rw [place, if_pos (hFirst next List.mem_cons_self)]
      · have hLess := hFirst row hLater
        rw [List.filter_cons_of_pos (by simp only [bne_iff_ne]; omega), place, if_neg (by omega),
          ih hRest hLater]

/-- **Places**: a row of a sound table breaks no constraint in its own place. -/
theorem Sound.fault_self (hSound : stored.Sound) {row : StoredRow} (hRow : row ∈ stored.rows) :
    stored.fault (some row.id) row = none := by
  apply fault_eq_none_iff.mpr
  refine ⟨hSound.filled row hRow, ?_⟩
  intro other hOther hElse
  have hId : other.id ≠ row.id := fun hSame => hElse (congrArg some hSame)
  refine ⟨hId, fun i hi => ?_⟩
  have hNe : row ≠ other := fun hSame => hId (hSame ▸ rfl)
  exact (hSound.apart i hi).forall hRow hOther hNe

/-! ## Several rows -/

/-- A change of rows that it leaves as they are leaves the table as it is. -/
theorem Sound.updateRows_self (hSound : stored.Sound) {rows : List StoredRow}
    (hRows : ∀ row ∈ rows, row ∈ stored.rows ∧ stored.assign values row = .ok row) :
    updateRows values rows stored = .ok (rows, stored) := by
  induction rows with
  | nil => rfl
  | cons row rows ih =>
      obtain ⟨⟨hRow, hAssign⟩, hRest⟩ := List.forall_mem_cons.mp hRows
      apply updateRows_cons_eq_ok.mpr
      refine ⟨row, stored, rows, ?_, ih hRest, rfl⟩
      apply updateRow_eq_ok.mpr
      refine ⟨hAssign, hSound.fault_self hRow, ?_⟩
      rw [place_filter_self hSound.ordered hRow]

/-- **Changes**: rows that were changed stand in the table and are left as they are by the same
change, which leaves the table as it is. -/
theorem Sound.updateRows_again (hSound : stored.Sound) (hValues : stored.Addressed values)
    {chosen made : List StoredRow} {after : StoredTable}
    (hChosen : ∀ row ∈ chosen, row ∈ stored.rows) (hIds : (chosen.map (·.id)).Nodup)
    (hUpdate : updateRows values chosen stored = .ok (made, after)) {rows : List StoredRow}
    (hRows : ∀ row ∈ rows, row ∈ made) :
    updateRows values rows after = .ok (rows, after) := by
  have hShown : ∀ row ∈ chosen, ∀ i ∈ stored.rowId, row.cells[i]? = some (.int row.id) :=
    fun row hRow => hSound.shown row (hChosen row hRow)
  have hAfterSound : after.Sound := hSound.of_updateRows hValues hShown hUpdate
  obtain ⟨hAfter, hMade, hPerm⟩ := perm_of_updateRows hChosen hIds hUpdate
  apply hAfterSound.updateRows_self
  intro row hRow
  obtain ⟨old, -, hAssign⟩ := exists_left_of_forall₂ hMade (hRows row hRow)
  refine ⟨hPerm.mem_iff.mpr (List.mem_append_left _ (hRows row hRow)), ?_⟩
  rw [hAfter]
  exact assign_of_assign hAssign

end StoredTable

/-- Putting a table back twice is putting it back once. -/
theorem Store.put_put (store : Store) (after : StoredTable) :
    (store.put after).put after = store.put after := by
  unfold Store.put
  rw [List.map_map]
  apply List.map_congr_left
  intro old _
  by_cases hName : sameName old.name after.name = true
  · simp [hName]
  · simp [hName]

end ModelStore
