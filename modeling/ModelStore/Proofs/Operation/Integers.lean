import ModelStore.Proofs.Operation.Creating
import ModelStore.Proofs.Query.Integers

/-!
# Integers given to operations

The payloads of creations, changes and upserts are compiled alike, and so are the operands of all
filters: an integer is accepted wherever it stands, and bound as the value that it is bound as
anywhere else.  So what is bound, which integers are told apart and which come back does not depend
on the operation.

## Main results

* `Payload.compile_int`: an integer in a payload is accepted.
* `Session.create_int_iff`: which integers come back from a creation.
* `Session.integers_bound`: what becomes of an integer in a payload, a filter or a column.
-/

namespace ModelStore

open Sql (ColumnRef Comparison)

variable {ι : Type}

/-- An integer in a payload is accepted, whatever stands behind it. -/
theorem Payload.compile_int {table : Table ι} {column : Column}
    (hColumn : table.column? column.name = some column) (i : Int) (data : Payload) :
    Payload.compile table ((column.name, .int i) :: data) =
      (Payload.compile table data).map ((column, (Json.int i).bound) :: ·) := by
  rw [Payload.compile, hColumn]
  dsimp only
  rw [Cell.ofJson_eq_ite]
  cases Payload.compile table data <;> rfl

namespace Session

variable {schema : Schema ι} {session : Session} {key : ι} {column : Column} {i : Int}

/-- **Creations**: an integer for a column of integers comes back as it was given just if a cell can
hold it. -/
theorem create_int_iff (hStore : session.store.Holds schema)
    (hColumn : column ∈ (schema.table key).columns)
    (hType : column.type = .integer ∨ column.type = .timestamp) (hKey : column.primaryKey = false)
    (hCarried : Json.IsCarried i) {world : World} {data : Payload}
    (hGiven : data.get? column.name = some (.int i)) {outcome : Outcome} {after : Session}
    (hPerform : session.perform schema world key (.create ⟨data⟩) = (.ok outcome, after)) :
    ∃ record : Record, outcome = .row (some record) ∧
      (record.get? column.name = some (.int i) ↔ i < 2 ^ 63) := by
  obtain ⟨stored, hFound, hHolds⟩ := hStore key
  obtain ⟨values, row, left, hValues, hInsert, -, rfl⟩ :=
    exists_of_create hFound hHolds hPerform
  obtain ⟨place, hPlace⟩ := List.mem_iff_getElem?.mp hColumn
  -- The column is not the row id, since it is no primary key.
  have hOther : stored.rowId ≠ some place := by
    rw [hHolds.rowId_eq]
    intro hRowId
    obtain ⟨hLength, hPrimary, -⟩ := List.findIdx?_eq_some_iff_getElem.mp hRowId
    rw [(List.getElem?_eq_some_iff.mp hPlace).2, hKey] at hPrimary
    cases hPrimary
  have hCell := hHolds.cell_of_insert (Table.within_created hValues) hInsert hPlace
  rw [if_neg hOther, Table.given?_created hValues hGiven, Option.getD_some] at hCell
  refine ⟨_, rfl, ?_⟩
  rw [hHolds.get?_record row hColumn, hCell, Option.some.injEq, shown_int_iff hType hCarried]

/-- **Integers**: in a payload and as an operand of a filter, an integer is accepted and bound as
one and the same value.  The value is the integer just if a cell can hold it; it equals the integer
just if, besides, it is a multiple of 2048; it is also that of other integers just if no cell can
hold them and the same multiple is nearest.  A column of integers shows the integer just if a cell
can hold it. -/
theorem integers_bound (hStore : session.store.Holds schema)
    (hColumn : column ∈ (schema.table key).columns) (hCarried : Json.IsCarried i) :
    (∀ data, Payload.compile (schema.table key) ((column.name, .int i) :: data) =
      (Payload.compile (schema.table key) data).map ((column, (Json.int i).bound) :: ·)) ∧
    (∀ qualifier, let ref : ColumnRef := ⟨qualifier, column.name⟩
      compileEq ref (.int i) = .ok (.compare (.column ref) .eq (Json.int i).bound) ∧
      compileNe ref (.int i) = .ok (.compare (.column ref) .ne (Json.int i).bound) ∧
      (∀ op, compileOrder ref op (.int i) =
        .ok (.compare (.column ref) op (Json.int i).bound)) ∧
      ∀ values, (∀ value ∈ values, value.isCompound = false) →
        compileAmong ref values = .ok (.member (.column ref) (values.map Json.bound))) ∧
    ((Json.int i).bound = .int i ↔ i < 2 ^ 63) ∧
    (Cell.same (Json.int i).bound (.int i) = true ↔ i < 2 ^ 63 ∨ 2048 ∣ i) ∧
    (∀ j, Json.IsCarried j → ((Json.int i).bound = (Json.int j).bound ↔
      i = j ∨ 2 ^ 63 ≤ i ∧ 2 ^ 63 ≤ j ∧
        Binary64.roundDiv i.natAbs 2048 = Binary64.roundDiv j.natAbs 2048)) ∧
    (column.type = .integer ∨ column.type = .timestamp →
      ((column.type.affinity.store (Json.int i).bound).toJson column.type = .int i ↔
        i < 2 ^ 63) ∧
      (column.primaryKey = false → ∀ world data outcome after,
        data.get? column.name = some (.int i) →
        session.perform schema world key (.create ⟨data⟩) = (.ok outcome, after) →
        ∃ record : Record, outcome = .row (some record) ∧
          (record.get? column.name = some (.int i) ↔ i < 2 ^ 63))) := by
  obtain ⟨stored, hFound, hHolds⟩ := hStore key
  refine ⟨Payload.compile_int (hHolds.column?_name hColumn) i, fun qualifier => ⟨rfl, rfl,
    fun op => rfl, fun values hValues => ?_⟩, ?_, bound_int_same_iff hCarried,
    fun j hOther => bound_int_inj_iff hCarried hOther, fun hType =>
      ⟨shown_int_iff hType hCarried, fun hKey world data outcome after hGiven hPerform =>
        create_int_iff hStore hColumn hType hKey hCarried hGiven hPerform⟩⟩
  · have hNone : values.any Json.isCompound = false := by simpa using hValues
    rw [compileAmong, Cell.ofJsons_eq_ite, hNone]
    rfl
  · rw [bound_int hCarried]
    split_ifs with hFits
    · exact iff_of_true rfl hFits
    · exact iff_of_false (by simp) hFits

/-- A time beyond the integers of a cell: it does not come back, and the next integer is bound as
the same value. -/
theorem integers_bound_lateUser :
    (Json.int (2 ^ 63 + 1)).bound ≠ .int (2 ^ 63 + 1) ∧
      (Json.int (2 ^ 63 + 1)).bound = (Json.int (2 ^ 63 + 2)).bound ∧
      ∃ (record : Record) (after : Session),
        (start emptyDesk none .deny).perform builtIn deskWorld .users
          (.create ⟨[("id", .text "u1"), ("name", .text "Ada"), ("email", .text "a@x"),
            ("createdAt", .int (2 ^ 63 + 1))]⟩) = (.ok (.row (some record)), after) ∧
        record.get? "createdAt" ≠ some (.int (2 ^ 63 + 1)) := by
  have hReachable : builtIn.Reachable (start emptyDesk none .deny).store :=
    .created bootstrap_builtIn
  have hStore := hReachable.holds builtIn_distinct
  obtain ⟨column, hColumn, hName, hType, hKey⟩ : ∃ column ∈ (builtIn.table .users).columns,
      column.name = "createdAt" ∧ column.type = .timestamp ∧ column.primaryKey = false := by
    decide +kernel
  obtain ⟨-, -, hOwn, -, hSame, hShown⟩ :=
    integers_bound hStore hColumn (i := 2 ^ 63 + 1) (by decide)
  obtain ⟨outcome, after, hPerform⟩ := exists_of_isOk
    (show ((start emptyDesk none .deny).perform builtIn deskWorld .users
      (.create ⟨[("id", .text "u1"), ("name", .text "Ada"), ("email", .text "a@x"),
        ("createdAt", .int (2 ^ 63 + 1))]⟩)).1.isOk = true by decide +kernel)
  obtain ⟨record, rfl, hRecord⟩ :=
    (hShown (.inr hType)).2 hKey _ _ _ _ (by rw [hName]; rfl) hPerform
  refine ⟨mt hOwn.mp (by decide), (hSame (2 ^ 63 + 2) (by decide)).mpr (.inr (by decide)), record,
    after, hPerform, ?_⟩
  rw [hName] at hRecord
  exact mt hRecord.mp (by decide)

end Session

end ModelStore
