import ModelStore.Proofs.Operation.Accepting
import ModelStore.Seed

/-!
# The sample data

The sample data is created row by row, and every creation is on its own: what was created before a
failure stays.  A store that takes changes, in which no user has one of the addresses of the sample
data, comes out with ten more users, printers and templates.  Otherwise the first address that is
taken ends it, and the users before it are all that was added.  A store that refuses changes refuses
the first user.

The run over a list of payloads is described by what one creation preserves: the store holds its
tables and takes changes, and the identifiers to come are fresh.

## Main definitions

* `Schema.Grows`: stores that have gained rows and are otherwise as they were.
* `Session.Ready`: sessions that can go on creating rows.
* `Store.HasEmail`: addresses that are taken.
* `Session.Seeded`: what the sample data adds.

## Main results

* `Session.Ready.create`, `Session.Ready.createAll`: what one creation does, and what several do.
* `Session.Ready.seed`, `Session.Ready.seed_of_taken`, `Session.seed_of_barred`: the sample data
  where no address is taken, where one is, and where the store refuses changes.
* `Session.seed_outcome`: what comes of the sample data in any store.
-/

namespace ModelStore

variable {ι : Type}

/-! ## Stores that grow -/

/-- One store is another one with rows behind those of the tables of a schema, and is otherwise as
it was. -/
structure Schema.Grows (schema : Schema ι) (before after : Store) (added : ι → List StoredRow) :
    Prop where
  gained : ∀ key stored, before.table? (schema.table key).name = some stored →
    after.table? (schema.table key).name = some { stored with rows := stored.rows ++ added key }
  spared : ∀ name, (∀ key, sameName name (schema.table key).name = false) →
    after.table? name = before.table? name
  tables : after.map (foldedName ·.name) = before.map (foldedName ·.name)

section Grows

variable {schema : Schema ι} {before between after : Store}

theorem Schema.Grows.refl (schema : Schema ι) (store : Store) :
    schema.Grows store store fun _ => [] where
  gained key stored hFound := by rw [hFound, List.append_nil]
  spared _ _ := rfl
  tables := rfl

/-- What is gained in two steps is gained together. -/
theorem Schema.Grows.trans {first second : ι → List StoredRow}
    (hFirst : schema.Grows before between first) (hSecond : schema.Grows between after second) :
    schema.Grows before after fun key => first key ++ second key where
  gained key stored hFound := by
    rw [hSecond.gained key _ (hFirst.gained key stored hFound), List.append_assoc]
  spared name hOther := (hSecond.spared name hOther).trans (hFirst.spared name hOther)
  tables := hSecond.tables.trans hFirst.tables

/-- A table that is put back with more rows. -/
theorem Schema.Grows.of_put [DecidableEq ι] (hDistinct : schema.Distinct) {store : Store}
    {key : ι} {stored : StoredTable}
    (hFound : store.table? (schema.table key).name = some stored) (rows : List StoredRow) :
    schema.Grows store (store.put { stored with rows := stored.rows ++ rows })
      (Function.update (fun _ => []) key rows) where
  gained other old hOld := by
    by_cases hKey : other = key
    · subst hKey
      rw [Option.some.inj (hOld.symm.trans hFound), Function.update_self]
      exact Store.table?_put_self hFound rfl
    · have hNe : sameName (schema.table other).name stored.name = false := by
        rw [Bool.eq_false_iff, Ne, sameName_iff, Store.foldedName_of_table? hFound,
          ← sameName_iff]
        exact fun hSame => hKey (hDistinct.eq_of_sameName hSame)
      have hLeft : (store.put { stored with rows := stored.rows ++ rows }).table?
          (schema.table other).name = store.table? (schema.table other).name :=
        Store.table?_put_of_ne hNe
      rw [Function.update_of_ne hKey, List.append_nil, hLeft, hOld]
  spared name hOther := by
    refine Store.table?_put_of_ne ?_
    have hNe := hOther key
    rw [Bool.eq_false_iff, Ne, sameName_iff] at hNe ⊢
    rwa [Store.foldedName_of_table? hFound]
  tables := by
    rw [Store.put, List.map_map]
    refine List.map_congr_left fun old _ => ?_
    by_cases hSame : sameName old.name stored.name = true
    · simpa [hSame] using (sameName_iff.mp hSame).symm
    · simp [hSame]

end Grows

/-! ## Sessions that go on -/

/-- Some identifiers, in the order in which they are issued. -/
def World.idsFrom (world : World) (issued count : Nat) : List String :=
  (List.range count).map fun k => world.freshId (issued + k)

@[simp] theorem World.length_idsFrom (world : World) (issued count : Nat) :
    (world.idsFrom issued count).length = count := by
  simp [idsFrom]

theorem World.idsFrom_succ (world : World) (issued count : Nat) :
    world.idsFrom issued (count + 1) =
      world.freshId issued :: world.idsFrom (issued + 1) count := by
  rw [idsFrom, List.range_succ_eq_map, List.map_cons, List.map_map, idsFrom]
  refine congrArg (_ :: ·) (List.map_congr_left fun k _ => congrArg world.freshId ?_)
  omega

/-- The identifiers to come are fresh, as many as are asked for: they differ from each other, and
from all that the tables of the application have. -/
structure Session.IdsFresh (session : Session) (world : World) (count : Nat) : Prop where
  distinct : ∀ j < count, ∀ k < count,
    world.freshId (session.issued + j) = world.freshId (session.issued + k) → j = k
  unused : ∀ key stored, session.store.table? (builtIn.table key).name = some stored →
    ∀ row ∈ stored.rows, ∀ k < count, Cell.same (.text (world.freshId (session.issued + k)))
      ((builtIn.table key).cell row "id") = false

/-- A session that can go on creating rows: its store holds the tables of the application and takes
changes, and the identifiers to come are fresh. -/
structure Session.Ready (session : Session) (world : World) (count : Nat) : Prop where
  holds : session.store.Holds builtIn
  takes : session.barred = none
  fresh : session.IdsFresh world count

/-- The tables of the application have one identifier, which is made, and no other column that may
not share its values but the address of a user. -/
theorem builtIn_identified (key : BuiltIn) :
    ((builtIn.table key).columns.filter (·.initial == .uuid)).length = 1 ∧
      (∃ column ∈ (builtIn.table key).columns, column.name = "id" ∧ column.initial = .uuid) ∧
      ∀ column ∈ (builtIn.table key).columns, (column.initial = .uuid ↔ column.name = "id") ∧
        (column.primaryKey = true ∨ column.unique = true →
          column.nullable = false ∧ (column.name = "id" ∨ key = .users ∧ column.name = "email" ∧
            column.type = .text)) := by
  cases key <;> decide +kernel

theorem builtIn_generates (key : BuiltIn) : (builtIn.table key).Generates where
  keyless := (Session.builtIn_columns key).1
  once := (Session.builtIn_columns key).2.1
  suits column hColumn := ((Session.builtIn_columns key).2.2 column hColumn).1
  solid column hColumn hDeclared := (((builtIn_identified key).2.2 column hColumn).2 hDeclared).1

theorem Cell.same_text_eq_false_iff {s t : String} :
    Cell.same (.text s) (.text t) = false ↔ s ≠ t := by
  simp [Cell.same, Cell.order]

/-! ## Payloads beside each other -/

/-- Payloads that give no value in common to a column of distinct values. -/
def Table.Compatible (table : Table ι) (data other : Payload) : Prop :=
  ∀ column ∈ table.columns, column.primaryKey = true ∨ column.unique = true →
    ∀ u v, data.get? column.name = some u → other.get? column.name = some v →
      (column.type.affinity.store v.bound).Apart (column.type.affinity.store u.bound)

/-- What a payload claims stays vacant when one that is compatible with it has made its row. -/
theorem Table.Vacant.append {table : Table ι} {stored : StoredTable} {data other : Payload}
    (hVacant : table.Vacant stored.rows other) (hHolds : stored.Holds table)
    (hGenerates : table.Generates) (hData : table.Complete data) (hOther : table.Complete other)
    (hCompatible : table.Compatible data other) (now : Int) (fresh : String) :
    table.Vacant (stored.rows ++ [table.rowFor stored.rows now fresh data]) other := by
  intro column hColumn hDeclared v hGiven row hRow
  rcases List.mem_append.mp hRow with hOld | hNew
  · exact hVacant column hColumn hDeclared v hGiven row hOld
  · have hAsks : column.initial ≠ .uuid := by
      intro hUuid
      rw [Fields.get?_eq_none_iff.mpr (hOther.unnamed column hColumn hUuid)] at hGiven
      cases hGiven
    obtain ⟨u, hOwn⟩ := hData.exists_given hColumn (hGenerates.solid column hColumn hDeclared) hAsks
    rw [List.mem_singleton.mp hNew, hHolds.cell_rowFor hColumn, Column.kept, hOwn,
      Option.map_some, Option.getD_some]
    exact hCompatible column hColumn hDeclared u v hOwn hGiven

/-! ## One creation after another -/

namespace Session

section Several

variable {α : Type} {read : Outcome → Except Error α} {key : BuiltIn} {world : World}
  {session : Session} {data : Payload} {datas : List Payload}

/-- Where the first creation succeeds, the others follow. -/
theorem createAll_cons {outcome : Outcome} {next : Session} {a : α}
    (hPerform : session.perform builtIn world key (.create ⟨data⟩) = (.ok outcome, next))
    (hRead : read outcome = .ok a) :
    session.createAll world key read (data :: datas) =
      ((next.createAll world key read datas).1.map (a :: ·),
        (next.createAll world key read datas).2) := by
  rw [createAll, hPerform]
  dsimp only
  rw [hRead]

/-- Where the first creation fails, nothing follows. -/
theorem createAll_cons_of_error {e : Error} {next : Session}
    (hPerform : session.perform builtIn world key (.create ⟨data⟩) = (.error e, next)) :
    session.createAll world key read (data :: datas) = (.error e, next) := by
  rw [createAll, hPerform]

/-- Creations that all succeed are a first one and the others. -/
theorem exists_of_createAll_cons {made : List α} {after : Session}
    (hAll : session.createAll world key read (data :: datas) = (.ok made, after)) :
    ∃ outcome next a rest,
      session.perform builtIn world key (.create ⟨data⟩) = (.ok outcome, next) ∧
      read outcome = .ok a ∧ next.createAll world key read datas = (.ok rest, after) ∧
      made = a :: rest := by
  rcases hPerform : session.perform builtIn world key (.create ⟨data⟩) with ⟨e | outcome, next⟩
  · rw [createAll_cons_of_error hPerform] at hAll
    cases hAll
  · cases hRead : read outcome with
    | error e =>
        rw [createAll, hPerform] at hAll
        dsimp only at hAll
        rw [hRead] at hAll
        cases hAll
    | ok a =>
        rw [createAll_cons hPerform hRead] at hAll
        rcases hRest : next.createAll world key read datas with ⟨e | rest, last⟩
        · rw [hRest] at hAll
          cases hAll
        · rw [hRest] at hAll
          obtain ⟨hMade, rfl⟩ := Prod.mk.inj hAll
          exact ⟨outcome, next, a, rest, rfl, hRead, hRest, (Except.ok.inj hMade).symm⟩

/-- Creations of which the first ones succeed go on with the others. -/
theorem createAll_append (others : List Payload) {between : Session} {made : List α}
    (hFirst : session.createAll world key read datas = (.ok made, between)) :
    session.createAll world key read (datas ++ others) =
      ((between.createAll world key read others).1.map (made ++ ·),
        (between.createAll world key read others).2) := by
  induction datas generalizing session made with
  | nil =>
      obtain ⟨hMade, rfl⟩ := Prod.mk.inj hFirst
      obtain rfl := Except.ok.inj hMade
      rw [List.nil_append]
      rcases session.createAll world key read others with ⟨_ | _, _⟩ <;> rfl
  | cons data datas ih =>
      obtain ⟨outcome, next, a, rest, hPerform, hRead, hRest, rfl⟩ :=
        exists_of_createAll_cons hFirst
      rw [List.cons_append, createAll_cons hPerform hRead, ih hRest]
      cases (between.createAll world key read others).1 <;> rfl

end Several

section Creating

variable {session : Session} {world : World} {key : BuiltIn} {count : Nat}

/-- The creation of a complete payload issues one identifier. -/
theorem issued_create (session : Session) (world : World) {data : Payload}
    (hComplete : (builtIn.table key).Complete data) :
    (session.perform builtIn world key (.create ⟨data⟩)).2.issued = session.issued + 1 := by
  have hAll : (builtIn.table key).identified data =
      (builtIn.table key).columns.filter (·.initial == .uuid) := by
    refine List.filter_congr fun column hColumn => ?_
    by_cases hAsks : column.initial = .uuid
    · have hOut : data.contains column.name = false := by
        rw [Fields.contains, List.any_eq_false]
        intro entry hEntry hName
        exact hComplete.unnamed column hColumn hAsks
          (List.mem_map.mpr ⟨entry, hEntry, beq_iff_eq.mp hName⟩)
      rw [hOut, Bool.not_false, Bool.and_true]
    · rw [beq_false_of_ne hAsks, Bool.false_and]
  rw [issued_perform, Operation.idCount, hAll, (builtIn_identified key).1]

/-- **One creation**: a complete payload whose values are vacant makes a row, and the session can go
on with one identifier less. -/
theorem Ready.create (hReady : session.Ready world (count + 1)) {stored : StoredTable}
    (hFound : session.store.table? (builtIn.table key).name = some stored) {data : Payload}
    (hComplete : (builtIn.table key).Complete data)
    (hVacant : (builtIn.table key).Vacant stored.rows data) :
    ∃ row after, row = (builtIn.table key).rowFor stored.rows world.now
        (world.freshId session.issued) data ∧
      session.perform builtIn world key (.create ⟨data⟩) =
        (.ok (.row (some ((builtIn.table key).record row))), after) ∧
      builtIn.Grows session.store after.store (Function.update (fun _ => []) key [row]) ∧
      after.issued = session.issued + 1 ∧ after.Ready world count := by
  have hHolds := hReady.holds.of_table? hFound
  have hGenerates := builtIn_generates key
  have hNames := (builtIn_identified key).2.2
  obtain ⟨idColumn, hIdColumn, hIdName, hIdAsks⟩ := (builtIn_identified key).2.1
  have hIds : ∀ column ∈ (builtIn.table key).columns, column.initial = .uuid →
      ∀ old ∈ stored.rows, (Cell.text (world.freshId session.issued)).Apart
        ((builtIn.table key).cell old column.name) := by
    intro column hColumn hAsks old hOld _
    rw [(hNames column hColumn).1.mp hAsks]
    exact hReady.fresh.unused key stored hFound old hOld 0 (Nat.succ_pos count)
  obtain ⟨row, after, hRow, hPerform, hLeft⟩ := perform_create_of_vacant hReady.holds hGenerates
    hComplete hFound hHolds hReady.takes hVacant hIds
  have hGrows : builtIn.Grows session.store after.store (Function.update (fun _ => []) key [row]) :=
    hLeft ▸ .of_put builtIn_distinct hFound [row]
  have hAfter : (session.perform builtIn world key (.create ⟨data⟩)).2 = after := by rw [hPerform]
  have hIssued : after.issued = session.issued + 1 := hAfter ▸ issued_create session world hComplete
  refine ⟨row, after, hRow, hPerform, hGrows, hIssued, ?_, ?_, ?_, ?_⟩
  · exact hAfter ▸ perform_keeps Statement.keep_holds world key _ hReady.holds
  · exact hAfter ▸ (barred_perform session world key _).trans hReady.takes
  · intro j hj k hk hSame
    have hNext := hReady.fresh.distinct (j + 1) (by omega) (k + 1) (by omega)
    rw [hIssued, Nat.add_right_comm, Nat.add_right_comm _ 1 k] at hSame
    exact Nat.succ.inj (hNext hSame)
  · intro other old hOld made hMade k hk
    obtain ⟨before, hBefore, -⟩ := hReady.holds other
    have hGained := hGrows.gained other before hBefore
    rw [Option.some.inj (hOld.symm.trans hGained), List.mem_append] at hMade
    have hPlace : after.issued + k = session.issued + (k + 1) := by omega
    rw [hPlace]
    rcases hMade with hOld | hNew
    · exact hReady.fresh.unused other before hBefore made hOld (k + 1) (by omega)
    · by_cases hKey : other = key
      · -- The new row has the identifier that was issued for it.
        subst hKey
        rw [Function.update_self, List.mem_singleton] at hNew
        rw [hNew, hRow, ← hIdName, hHolds.cell_rowFor hIdColumn,
          hComplete.kept_uuid hGenerates hIdColumn hIdAsks, Cell.same_text_eq_false_iff]
        intro hSame
        exact absurd (hReady.fresh.distinct (k + 1) (by omega) 0 (by omega) hSame)
          (Nat.succ_ne_zero k)
      · rw [Function.update_of_ne hKey] at hNew
        cases hNew

/-- **Creations one after another**: complete payloads whose values are vacant, and which have no
value in common, make a row each, in their order, with the identifiers to come. -/
theorem Ready.createAll {α : Type} {read : Outcome → Except Error α} {value : Payload → String → α}
    (hClock : Affinity.fitsCell world.now = true) {datas : List Payload}
    (hRead : ∀ data ∈ datas, ∀ fresh, read
      (.row (some ((builtIn.table key).creation world.now fresh data))) = .ok (value data fresh))
    (hComplete : ∀ data ∈ datas, (builtIn.table key).Complete data)
    (hCompatible : datas.Pairwise (builtIn.table key).Compatible)
    (hReady : session.Ready world (datas.length + count)) {stored : StoredTable}
    (hFound : session.store.table? (builtIn.table key).name = some stored)
    (hVacant : ∀ data ∈ datas, (builtIn.table key).Vacant stored.rows data) :
    ∃ rows after, session.createAll world key read datas =
        (.ok (List.zipWith value datas (world.idsFrom session.issued datas.length)), after) ∧
      builtIn.Grows session.store after.store (Function.update (fun _ => []) key rows) ∧
      after.issued = session.issued + datas.length ∧ after.Ready world count ∧
      rows.map (builtIn.table key).record =
        List.zipWith (fun data fresh => (builtIn.table key).creation world.now fresh data) datas
          (world.idsFrom session.issued datas.length) := by
  induction datas generalizing session stored with
  | nil =>
      refine ⟨[], session, rfl, ?_, rfl, ?_, rfl⟩
      · rw [Function.update_eq_self]
        exact .refl builtIn session.store
      · simpa using hReady
  | cons data datas ih =>
      obtain ⟨hFirst, hRest⟩ := List.forall_mem_cons.mp hComplete
      obtain ⟨hApart, hOthers⟩ := List.pairwise_cons.mp hCompatible
      obtain ⟨hFree, hFreeRest⟩ := List.forall_mem_cons.mp hVacant
      obtain ⟨hReadFirst, hReadRest⟩ := List.forall_mem_cons.mp hRead
      have hHolds := hReady.holds.of_table? hFound
      have hCount : (data :: datas).length + count = datas.length + count + 1 := by
        rw [List.length_cons]
        omega
      rw [hCount] at hReady
      obtain ⟨row, between, hRow, hPerform, hGrows, hIssued, hBetween⟩ :=
        hReady.create hFound hFirst hFree
      have hSeen : (builtIn.table key).record row =
          (builtIn.table key).creation world.now (world.freshId session.issued) data := by
        rw [hRow, hHolds.record_rowFor (builtIn_generates key) hFirst hClock]
      have hNext := hGrows.gained key stored hFound
      rw [Function.update_self] at hNext
      obtain ⟨rows, after, hAll, hGrowsRest, hIssuedRest, hAfter, hRecords⟩ :=
        ih hReadRest hRest hOthers hBetween hNext fun other hOther => hRow ▸
          (hFreeRest other hOther).append hHolds (builtIn_generates key) hFirst
            (hRest other hOther) (hApart other hOther) world.now (world.freshId session.issued)
      refine ⟨row :: rows, after, ?_, ?_, ?_, hAfter, ?_⟩
      · rw [createAll_cons hPerform (hSeen ▸ hReadFirst _), hAll, List.length_cons,
          World.idsFrom_succ, List.zipWith_cons_cons, hIssued]
        rfl
      · have hBoth := hGrows.trans hGrowsRest
        convert hBoth using 1
        funext other
        by_cases hKey : other = key
        · subst hKey
          simp
        · simp [hKey]
      · rw [hIssuedRest, hIssued, List.length_cons]
        omega
      · rw [List.map_cons, hSeen, hRecords, List.length_cons, World.idsFrom_succ,
          List.zipWith_cons_cons, hIssued]

end Creating

end Session

/-! ## The payloads of the sample data -/

/-- A payload under names that say all that has to be said, of which each value is of the semantic
type of its column, is complete. -/
theorem Table.Complete.of_names {table : Table ι} {data : Payload} (names : List String)
    (hNames : data.map (·.1) = names)
    (hColumns : names.length < Sql.placeholderLimit ∧ ∀ column ∈ table.columns,
      (column.nullable = false → column.initial = .uuid ∨ column.name ∈ names) ∧
        (column.initial = .uuid → column.name ∉ names))
    (hTakes : ∀ entry ∈ data, ∃ column, table.column? entry.1 = some column ∧
      column.Takes entry.2) : table.Complete data where
  takes := hTakes
  filled column hColumn := hNames ▸ (hColumns.2 column hColumn).1
  unnamed column hColumn := hNames ▸ (hColumns.2 column hColumn).2
  short := by
    rw [← List.length_map (fun entry : String × Json => entry.1), hNames]
    exact hColumns.1

/-- A complete payload claims nothing but the address of a user. -/
theorem Table.Complete.claims {key : BuiltIn} {data : Payload}
    (hComplete : (builtIn.table key).Complete data) {column : Column}
    (hColumn : column ∈ (builtIn.table key).columns)
    (hDeclared : column.primaryKey = true ∨ column.unique = true) {value : Json}
    (hGiven : data.get? column.name = some value) :
    key = .users ∧ column.name = "email" ∧ column.type = .text := by
  obtain ⟨hId, hKind⟩ := (builtIn_identified key).2.2 column hColumn
  refine (hKind hDeclared).2.resolve_left fun hName => ?_
  rw [Fields.get?_eq_none_iff.mpr (hComplete.unnamed column hColumn (hId.mpr hName))] at hGiven
  cases hGiven

/-- Whether a user has an address, as a store compares texts. -/
def Store.HasEmail (store : Store) (email : String) : Prop :=
  ∃ stored ∈ store.table? BuiltIn.usersTable.name, ∃ row ∈ stored.rows,
    Cell.same (.text email) (BuiltIn.usersTable.cell row "email") = true

instance (store : Store) (email : String) : Decidable (store.HasEmail email) :=
  inferInstanceAs (Decidable (∃ stored ∈ store.table? BuiltIn.usersTable.name,
    ∃ row ∈ stored.rows, Cell.same (.text email) (BuiltIn.usersTable.cell row "email") = true))

namespace Seed

/-- The numbers of the rows of each kind. -/
def numbers : List Nat := (List.range seedCount).map (· + 1)

/-- The address of the i-th user. -/
def email (i : Nat) : String := "user" ++ toString i ++ "@example.com"

/-- The numbers are those up to one of them, this one, and those behind it. -/
theorem numbers_eq {n : Nat} (hLess : n < seedCount) :
    numbers = (List.range n).map (· + 1) ++ (n + 1) :: numbers.drop (n + 1) := by
  have hTake : numbers.take n = (List.range n).map (· + 1) := by
    rw [numbers, ← List.map_take, List.take_range, Nat.min_eq_left hLess.le]
  have hPlace : n < numbers.length := by simpa [numbers] using hLess
  have hNumber : numbers[n] = n + 1 := by simp [numbers]
  have hDrop := List.drop_eq_getElem_cons hPlace
  rw [hNumber] at hDrop
  rw [← hTake, ← hDrop, List.take_append_drop]

theorem nodup_email : (numbers.map email).Nodup := by decide +kernel

theorem complete_user (i : Nat) : (builtIn.table .users).Complete (user i) :=
  .of_names ["name", "email", "role"] rfl (by decide +kernel) <|
    List.forall_mem_cons.mpr ⟨⟨_, rfl, rfl⟩, List.forall_mem_cons.mpr ⟨⟨_, rfl, rfl⟩,
      List.forall_mem_singleton.mpr ⟨_, rfl, rfl⟩⟩⟩

theorem complete_printer (i : Nat) (owner : String) :
    (builtIn.table .printers).Complete (printer i owner) :=
  .of_names ["name", "isDefault", "userId"] rfl (by decide +kernel) <|
    List.forall_mem_cons.mpr ⟨⟨_, rfl, rfl⟩, List.forall_mem_cons.mpr ⟨⟨_, rfl, rfl⟩,
      List.forall_mem_singleton.mpr ⟨_, rfl, rfl⟩⟩⟩

theorem complete_template (i : Nat) (author : String) :
    (builtIn.table .invoiceTemplates).Complete (template i author) :=
  .of_names ["name", "content", "userId"] rfl (by decide +kernel) <|
    List.forall_mem_cons.mpr ⟨⟨_, rfl, rfl⟩, List.forall_mem_cons.mpr ⟨⟨_, rfl, rfl⟩,
      List.forall_mem_singleton.mpr ⟨_, rfl, rfl⟩⟩⟩

/-- What a user claims is vacant where no user has the address. -/
theorem vacant_user {i : Nat} {rows : List StoredRow}
    (hFree : ∀ row ∈ rows,
      Cell.same (.text (email i)) (BuiltIn.usersTable.cell row "email") = false) :
    (builtIn.table .users).Vacant rows (user i) := by
  intro column hColumn hDeclared value hGiven row hRow _
  obtain ⟨-, hName, hType⟩ := (complete_user i).claims hColumn hDeclared hGiven
  rw [hName] at hGiven ⊢
  obtain rfl : Json.text (email i) = value := Option.some.inj hGiven
  rw [hType]
  exact hFree row hRow

/-- Users of different addresses have no value in common. -/
theorem compatible_user {i j : Nat} (hEmails : email i ≠ email j) :
    (builtIn.table .users).Compatible (user i) (user j) := by
  intro column hColumn hDeclared u v hFirst hSecond _
  obtain ⟨-, hName, hType⟩ := (complete_user i).claims hColumn hDeclared hFirst
  rw [hName] at hFirst hSecond
  obtain rfl : Json.text (email i) = u := Option.some.inj hFirst
  obtain rfl : Json.text (email j) = v := Option.some.inj hSecond
  rw [hType]
  exact Cell.same_text_eq_false_iff.mpr hEmails.symm

end Seed

/-- What is seen of the rows of the sample data, whose identifiers follow those that were issued
before: of all users first, then of all printers, then of all templates. -/
def Seed.records (world : World) (issued : Nat) : BuiltIn → List Record
  | .users => (List.range seedCount).map fun k =>
      BuiltIn.usersTable.creation world.now (world.freshId (issued + k)) (Seed.user (k + 1))
  | .printers => (List.range seedCount).map fun k =>
      BuiltIn.printersTable.creation world.now (world.freshId (issued + seedCount + k))
        (Seed.printer (k + 1) (world.freshId (issued + k)))
  | .invoiceTemplates => (List.range seedCount).map fun k =>
      BuiltIn.invoiceTemplatesTable.creation world.now
        (world.freshId (issued + 2 * seedCount + k))
        (Seed.template (k + 1) (world.freshId (issued + k)))

/-- What the sample data adds to a store: ten rows in each table, and nothing else.  Each printer
and each template belongs to the user in its place; the first user and no other is an administrator,
and the first printer and no other is a default. -/
structure Session.Seeded (session : Session) (world : World) (after : Session)
    (added : BuiltIn → List StoredRow) : Prop where
  grows : builtIn.Grows session.store after.store added
  ten : ∀ key, (added key).length = seedCount
  records : ∀ key,
    (added key).map (builtIn.table key).record = Seed.records world session.issued key
  owner : ∀ (i : Nat) user printer, (added .users)[i]? = some user →
    (added .printers)[i]? = some printer →
    (BuiltIn.printersTable.record printer).get? "userId" =
      (BuiltIn.usersTable.record user).get? "id"
  author : ∀ (i : Nat) user template, (added .users)[i]? = some user →
    (added .invoiceTemplates)[i]? = some template →
    (BuiltIn.invoiceTemplatesTable.record template).get? "userId" =
      (BuiltIn.usersTable.record user).get? "id"
  administrator : ∀ (i : Nat) user, (added .users)[i]? = some user →
    ((BuiltIn.usersTable.record user).get? "role" = some (.text "ADMIN") ↔ i = 0)
  standard : ∀ (i : Nat) printer, (added .printers)[i]? = some printer →
    ((BuiltIn.printersTable.record printer).get? "isDefault" = some (.bool true) ↔ i = 0)

namespace Session

section Sample

variable {session : Session} {world : World} {count : Nat}
  (hClock : Affinity.fitsCell world.now = true)

include hClock

/-- Users whose addresses differ, and are not taken, are created. -/
theorem Ready.createUsers {places : List Nat} (hEmails : (places.map Seed.email).Nodup)
    (hReady : session.Ready world (places.length + count))
    (hFree : ∀ i ∈ places, ¬session.store.HasEmail (Seed.email i)) :
    ∃ rows after, session.createAll world .users Seed.identifier (places.map Seed.user) =
        (.ok (world.idsFrom session.issued places.length), after) ∧
      builtIn.Grows session.store after.store (Function.update (fun _ => []) .users rows) ∧
      after.issued = session.issued + places.length ∧ after.Ready world count ∧
      rows.map BuiltIn.usersTable.record =
        List.zipWith (fun i fresh => BuiltIn.usersTable.creation world.now fresh (Seed.user i))
          places (world.idsFrom session.issued places.length) := by
  obtain ⟨stored, hFound, -⟩ := hReady.holds .users
  have hLength : (places.map Seed.user).length = places.length := List.length_map _
  have hVacant : ∀ data ∈ places.map Seed.user,
      (builtIn.table .users).Vacant stored.rows data := by
    rw [List.forall_mem_map]
    intro i hi
    refine Seed.vacant_user fun row hRow => ?_
    rw [← Bool.not_eq_true]
    exact fun hSame => hFree i hi ⟨stored, hFound, row, hRow, hSame⟩
  have hRead : ∀ data ∈ places.map Seed.user, ∀ fresh, Seed.identifier
      (.row (some ((builtIn.table .users).creation world.now fresh data))) = .ok fresh :=
    List.forall_mem_map.mpr fun i _ fresh => rfl
  have hCompatible : (places.map Seed.user).Pairwise (builtIn.table .users).Compatible :=
    List.pairwise_map.mpr ((List.pairwise_map.mp hEmails).imp Seed.compatible_user)
  obtain ⟨rows, after, hAll, hGrows, hIssued, hAfter, hRecords⟩ :=
    Ready.createAll hClock hRead (List.forall_mem_map.mpr fun i _ => Seed.complete_user i)
      hCompatible (hLength.symm ▸ hReady) hFound hVacant
  rw [hLength] at hAll hIssued hRecords
  rw [List.zipWith_map_left] at hRecords
  rw [← List.map_uncurry_zip_eq_zipWith] at hAll
  have hIds : ((places.map Seed.user).zip (world.idsFrom session.issued places.length)).map
      Prod.snd = world.idsFrom session.issued places.length :=
    List.map_snd_zip (by simp)
  exact ⟨rows, after, hIds ▸ hAll, hGrows, hIssued, hAfter, hRecords⟩

/-- Rows with an owner, which claim nothing, are created in any store. -/
theorem Ready.createOwned {key : BuiltIn} (hKey : key ≠ .users) {make : Nat → String → Payload}
    (hComplete : ∀ i owner, (builtIn.table key).Complete (make i owner))
    (owned : List (Nat × String)) (hReady : session.Ready world (owned.length + count)) :
    ∃ made rows after, session.createAll world key .ok
        (owned.map fun (i, owner) => make i owner) = (.ok made, after) ∧
      builtIn.Grows session.store after.store (Function.update (fun _ => []) key rows) ∧
      after.issued = session.issued + owned.length ∧ after.Ready world count ∧
      rows.map (builtIn.table key).record =
        List.zipWith (fun entry fresh =>
            (builtIn.table key).creation world.now fresh (make entry.1 entry.2))
          owned (world.idsFrom session.issued owned.length) := by
  obtain ⟨stored, hFound, -⟩ := hReady.holds key
  have hAll : ∀ data ∈ owned.map (fun (i, owner) => make i owner),
      (builtIn.table key).Complete data :=
    List.forall_mem_map.mpr fun entry _ => hComplete entry.1 entry.2
  have hVacant : ∀ data ∈ owned.map (fun (i, owner) => make i owner),
      (builtIn.table key).Vacant stored.rows data :=
    fun data hData column hColumn hDeclared value hGiven =>
      absurd ((hAll data hData).claims hColumn hDeclared hGiven).1 hKey
  have hCompatible : (owned.map fun (i, owner) => make i owner).Pairwise
      (builtIn.table key).Compatible :=
    List.pairwise_of_forall_mem_list fun data hData other _ column hColumn hDeclared u v hGiven _ =>
      absurd ((hAll data hData).claims hColumn hDeclared hGiven).1 hKey
  have hLength : (owned.map fun (i, owner) => make i owner).length = owned.length :=
    List.length_map _
  obtain ⟨rows, after, hMade, hGrows, hIssued, hAfter, hRecords⟩ := Ready.createAll hClock
    (fun data _ fresh => rfl) hAll hCompatible (hLength.symm ▸ hReady) hFound hVacant
  rw [hLength] at hIssued hRecords
  rw [List.zipWith_map_left] at hRecords
  exact ⟨_, rows, after, hMade, hGrows, hIssued, hAfter, hRecords⟩

omit hClock in
/-- Rows with the records of the sample data are the sample data. -/
theorem seeded_of_records {after : Session} {added : BuiltIn → List StoredRow}
    (hGrows : builtIn.Grows session.store after.store added)
    (hRecords : ∀ key,
      (added key).map (builtIn.table key).record = Seed.records world session.issued key) :
    session.Seeded world after added := by
  have hPlace : ∀ {key} {f : Nat → Record},
      Seed.records world session.issued key = (List.range seedCount).map f →
      ∀ (i : Nat) row, (added key)[i]? = some row → (builtIn.table key).record row = f i := by
    intro key f hAll i row hRow
    have hRecord := congrArg (·[i]?) ((hRecords key).trans hAll)
    simp only [List.getElem?_map, hRow, Option.map_some] at hRecord
    obtain ⟨k, hk, hSeen⟩ := Option.map_eq_some_iff.mp hRecord.symm
    obtain ⟨hLess, rfl⟩ := List.getElem?_eq_some_iff.mp hk
    rw [← hSeen, List.getElem_range]
  have hUser : ∀ (i : Nat) user, (added .users)[i]? = some user →
      BuiltIn.usersTable.record user = BuiltIn.usersTable.creation world.now
        (world.freshId (session.issued + i)) (Seed.user (i + 1)) := hPlace rfl
  have hPrinter : ∀ (i : Nat) printer, (added .printers)[i]? = some printer →
      BuiltIn.printersTable.record printer = BuiltIn.printersTable.creation world.now
        (world.freshId (session.issued + seedCount + i))
        (Seed.printer (i + 1) (world.freshId (session.issued + i))) := hPlace rfl
  have hTemplate : ∀ (i : Nat) template, (added .invoiceTemplates)[i]? = some template →
      BuiltIn.invoiceTemplatesTable.record template = BuiltIn.invoiceTemplatesTable.creation
        world.now (world.freshId (session.issued + 2 * seedCount + i))
        (Seed.template (i + 1) (world.freshId (session.issued + i))) := hPlace rfl
  exact
    { grows := hGrows
      ten := fun key => by
        rw [← List.length_map (builtIn.table key).record, hRecords key]
        cases key <;> simp [Seed.records]
      records := hRecords
      owner := fun i user printer hOne hOther => by
        rw [hUser i user hOne, hPrinter i printer hOther]
        rfl
      author := fun i user template hOne hOther => by
        rw [hUser i user hOne, hTemplate i template hOther]
        rfl
      administrator := fun i user hRow => by
        rw [hUser i user hRow]
        change some (Json.text (if i + 1 = 1 then "ADMIN" else "USER")) = _ ↔ _
        split <;> simp_all
      standard := fun i printer hRow => by
        rw [hPrinter i printer hRow]
        change some (Json.bool (i + 1 = 1)) = _ ↔ _
        simp }

omit hClock in
/-- Where all rows are created, the sample data is there. -/
theorem seed_of_created {ids : List String} {first second after : Session}
    {made others : List Outcome}
    (hUsers : session.createAll world .users Seed.identifier (Seed.numbers.map Seed.user) =
      (.ok ids, first))
    (hPrinters : first.createAll world .printers .ok
      ((Seed.numbers.zip ids).map fun (i, owner) => Seed.printer i owner) = (.ok made, second))
    (hTemplates : second.createAll world .invoiceTemplates .ok
      ((Seed.numbers.zip ids).map fun (i, author) => Seed.template i author) =
        (.ok others, after)) :
    session.seed world = (.ok ⟨seedCount, seedCount, seedCount⟩, after) := by
  unfold Seed.numbers at hUsers hPrinters hTemplates
  unfold seed
  simp only [hUsers, hPrinters, hTemplates]

omit hClock in
/-- Where a user is refused, nothing follows. -/
theorem seed_of_refused {e : Error} {after : Session}
    (hUsers : session.createAll world .users Seed.identifier (Seed.numbers.map Seed.user) =
      (.error e, after)) : session.seed world = (.error e, after) := by
  unfold Seed.numbers at hUsers
  unfold seed
  simp only [hUsers]

/-- Where no address is taken, the sample data is there. -/
theorem Ready.seed (hReady : session.Ready world (3 * seedCount))
    (hFree : ∀ i ∈ Seed.numbers, ¬session.store.HasEmail (Seed.email i)) :
    ∃ after added, session.seed world = (.ok ⟨seedCount, seedCount, seedCount⟩, after) ∧
      session.Seeded world after added := by
  have hStart : session.Ready world (Seed.numbers.length + 2 * seedCount) := hReady
  obtain ⟨users, first, hUsers, hGrows, hIssued, hFirst, hUserRecords⟩ :=
    hStart.createUsers hClock Seed.nodup_email hFree
  let owned := Seed.numbers.zip (world.idsFrom session.issued Seed.numbers.length)
  have hSecond : first.Ready world (owned.length + seedCount) := hFirst
  obtain ⟨_, printers, second, hPrinters, hGrowsPrinters, hIssuedPrinters, hReadySecond,
      hPrinterRecords⟩ :=
    hSecond.createOwned hClock (show BuiltIn.printers ≠ .users by decide) Seed.complete_printer
      owned
  have hThird : second.Ready world (owned.length + 0) := hReadySecond
  obtain ⟨_, templates, after, hTemplates, hGrowsTemplates, -, -, hTemplateRecords⟩ :=
    hThird.createOwned hClock (show BuiltIn.invoiceTemplates ≠ .users by decide)
      Seed.complete_template owned
  rw [hIssued] at hIssuedPrinters hPrinterRecords
  rw [hIssuedPrinters] at hTemplateRecords
  let added : BuiltIn → List StoredRow
    | .users => users
    | .printers => printers
    | .invoiceTemplates => templates
  have hGrowsAll : builtIn.Grows session.store after.store added := by
    convert (hGrows.trans hGrowsPrinters).trans hGrowsTemplates using 1
    funext key
    cases key <;> simp [added]
  refine ⟨after, added, seed_of_created hUsers hPrinters hTemplates,
    seeded_of_records hGrowsAll fun key => ?_⟩
  cases key with
  | users => exact hUserRecords
  | printers => exact hPrinterRecords
  | invoiceTemplates => exact hTemplateRecords

/-- Where an address is taken, the users before it are created, and nothing else. -/
theorem Ready.seed_of_taken (hReady : session.Ready world (3 * seedCount)) {n : Nat}
    (hLess : n < seedCount) (hTaken : session.store.HasEmail (Seed.email (n + 1)))
    (hFree : ∀ j, 1 ≤ j → j < n + 1 → ¬session.store.HasEmail (Seed.email j)) :
    ∃ after users, session.seed world = (.error (.storage (.unique "users" "email")), after) ∧
      builtIn.Grows session.store after.store (Function.update (fun _ => []) .users users) ∧
      users.map BuiltIn.usersTable.record =
        (Seed.records world session.issued .users).take n := by
  have hLength : ((List.range n).map (· + 1)).length = n := by simp
  have hStart : session.Ready world
      (((List.range n).map (· + 1)).length + (3 * seedCount - n)) := by
    rwa [hLength, Nat.add_sub_cancel' (by omega)]
  have hFirst : ∀ j ∈ (List.range n).map (· + 1), ¬session.store.HasEmail (Seed.email j) := by
    rw [List.forall_mem_map]
    intro j hj
    have hBefore := List.mem_range.mp hj
    exact hFree (j + 1) (by omega) (by omega)
  have hEmails : (((List.range n).map (· + 1)).map Seed.email).Nodup := by
    refine Seed.nodup_email.sublist (List.Sublist.map _ ?_)
    rw [Seed.numbers_eq hLess]
    exact List.sublist_append_left _ _
  obtain ⟨users, between, hUsers, hGrows, -, hBetween, hRecords⟩ :=
    hStart.createUsers hClock hEmails hFirst
  -- The address is still taken when the users before it are there.
  obtain ⟨stored, hFound, row, hRow, hSame⟩ := hTaken
  have hNext := hGrows.gained .users stored hFound
  have hGiven : (Seed.user (n + 1)).get? "email" = some (.text (Seed.email (n + 1))) := rfl
  obtain ⟨last, hFails, hLeft⟩ := perform_create_of_taken hBetween.holds (builtIn_generates .users)
    (Seed.complete_user (n + 1)) hNext (hBetween.holds.of_table? hNext) world hBetween.takes rfl rfl
    hGiven (List.mem_append_left _ hRow) hSame
  have hAll : session.createAll world .users Seed.identifier (Seed.numbers.map Seed.user) =
      (.error (.storage (.unique "users" "email")), last) := by
    rw [Seed.numbers_eq hLess, List.map_append, List.map_cons, createAll_append _ hUsers,
      createAll_cons_of_error hFails]
    rfl
  refine ⟨last, users, seed_of_refused hAll, hLeft ▸ hGrows, ?_⟩
  rw [hRecords, hLength, World.idsFrom, Seed.records, List.zipWith_map, List.zipWith_self,
    ← List.map_take, List.take_range, Nat.min_eq_left hLess.le]

omit hClock in
/-- Where the store refuses changes, the first user is refused. -/
theorem seed_of_barred (hStore : session.store.Holds builtIn) {refusal : StoreError}
    (hBarred : session.barred = some refusal) :
    ∃ after, session.seed world = (.error (.storage refusal), after) ∧
      after.store = session.store := by
  obtain ⟨stored, hFound, hHolds⟩ := hStore .users
  obtain ⟨last, hFails, hLeft⟩ := perform_create_of_barred hStore (builtIn_generates .users)
    (Seed.complete_user 1) hFound hHolds world hBarred
  have hFirst : Seed.numbers.map Seed.user =
      Seed.user 1 :: (Seed.numbers.drop 1).map Seed.user := rfl
  refine ⟨last, seed_of_refused ?_, hLeft⟩
  rw [hFirst, createAll_cons_of_error hFails]

end Sample

/-- **The sample data**: a store that takes changes, in which no user has one of the addresses,
comes out with the sample data added.  Where the i-th address is the first one that is taken, the
sample data fails, and the users before the i-th are all that was added.  A store that refuses
changes refuses the sample data, and is as it was. -/
theorem seed_outcome {session : Session} {world : World} (hStore : session.store.Holds builtIn)
    (hFresh : session.IdsFresh world (3 * seedCount))
    (hClock : Affinity.fitsCell world.now = true) :
    (session.barred = none →
      (∀ i, 1 ≤ i → i ≤ seedCount → ¬session.store.HasEmail (Seed.email i)) →
      ∃ after added, session.seed world = (.ok ⟨seedCount, seedCount, seedCount⟩, after) ∧
        session.Seeded world after added) ∧
    (session.barred = none → ∀ i, 1 ≤ i → i ≤ seedCount → session.store.HasEmail (Seed.email i) →
      (∀ j, 1 ≤ j → j < i → ¬session.store.HasEmail (Seed.email j)) →
      ∃ after users, session.seed world = (.error (.storage (.unique "users" "email")), after) ∧
        builtIn.Grows session.store after.store (Function.update (fun _ => []) .users users) ∧
        users.map BuiltIn.usersTable.record =
          (Seed.records world session.issued .users).take (i - 1)) ∧
    ∀ refusal, session.barred = some refusal →
      ∃ after, session.seed world = (.error (.storage refusal), after) ∧
        after.store = session.store := by
  refine ⟨fun hOpen hFree => ?_, fun hOpen i hLow hHigh hTaken hFree => ?_,
    fun refusal hBarred => seed_of_barred hStore hBarred⟩
  · refine Ready.seed hClock ⟨hStore, hOpen, hFresh⟩ ?_
    rw [Seed.numbers, List.forall_mem_map]
    intro k hk
    have hLess := List.mem_range.mp hk
    exact hFree (k + 1) (by omega) (by omega)
  · obtain ⟨n, rfl⟩ : ∃ n, i = n + 1 := ⟨i - 1, by omega⟩
    exact Ready.seed_of_taken hClock ⟨hStore, hOpen, hFresh⟩ (by omega) hTaken hFree

/-! ## Small stores -/

/-- The numbers are fresh in a store whose tables do not have them as identifiers. -/
theorem idsFresh_deskWorld {store : Store} (barred : Option StoreError)
    (hUnused : ∀ key, ∀ stored ∈ store, ∀ row ∈ stored.rows, ∀ k < 3 * seedCount,
      Cell.same (.text (deskWorld.freshId (0 + k))) ((builtIn.table key).cell row "id") = false) :
    (start store barred .deny).IdsFresh deskWorld (3 * seedCount) where
  distinct := by
    change ∀ j < 3 * seedCount, ∀ k < 3 * seedCount,
      deskWorld.freshId (0 + j) = deskWorld.freshId (0 + k) → j = k
    decide +kernel
  unused key stored hFound := hUnused key stored (List.mem_of_find?_eq_some hFound)

theorem holds_emptyDesk : emptyDesk.Holds builtIn :=
  have hReachable : builtIn.Reachable emptyDesk := .created bootstrap_builtIn
  hReachable.holds builtIn_distinct

/-- The tables of the application with one user, who has the third address of the sample data. -/
def takenDesk : Store :=
  [ { storedUsers with
      rows := [⟨1, [.text "x", .text "X", .text "user3@example.com", .text "USER", .int 100,
        .int 200]⟩] }
  , { storedPrinters with rows := [] }, storedTemplates ]

/-- Empty tables take the sample data.  Where the third address is taken, two users are added. -/
theorem seed_outcome_takenDesk :
    (∃ after added, (start emptyDesk none .deny).seed deskWorld =
        (.ok ⟨seedCount, seedCount, seedCount⟩, after) ∧
      (start emptyDesk none .deny).Seeded deskWorld after added) ∧
    ∃ after users, (start takenDesk none .deny).seed deskWorld =
        (.error (.storage (.unique "users" "email")), after) ∧
      builtIn.Grows takenDesk after.store (Function.update (fun _ => []) .users users) ∧
      users.map BuiltIn.usersTable.record = (Seed.records deskWorld 0 .users).take 2 := by
  have hHolds : takenDesk.Holds builtIn
    | .users => ⟨_, rfl, by decide +kernel⟩
    | .printers => ⟨_, rfl, by decide +kernel⟩
    | .invoiceTemplates => ⟨storedTemplates, by decide +kernel, by decide +kernel⟩
  have hEmpty : (start emptyDesk none .deny).IdsFresh deskWorld (3 * seedCount) :=
    idsFresh_deskWorld none fun key => by cases key <;> decide +kernel
  have hTaken : (start takenDesk none .deny).IdsFresh deskWorld (3 * seedCount) :=
    idsFresh_deskWorld none fun key => by cases key <;> decide +kernel
  refine ⟨(seed_outcome holds_emptyDesk hEmpty (by decide)).1 rfl (by decide +kernel), ?_⟩
  exact (seed_outcome hHolds hTaken (by decide)).2.1 rfl 3 (by decide) (by decide)
    (by decide +kernel) (by decide +kernel)

/-- The tables of the application, without rows, in a store that is only read. -/
def readOnlyDesk : Session := start emptyDesk (some .readOnly) .deny

/-- A store that refuses changes gets no sample data, although no user has one of the addresses. -/
theorem seed_refused_readOnlyDesk :
    readOnlyDesk.store.Holds builtIn ∧ readOnlyDesk.IdsFresh deskWorld (3 * seedCount) ∧
      (∀ i, 1 ≤ i → i ≤ seedCount → ¬readOnlyDesk.store.HasEmail (Seed.email i)) ∧
      ∃ after, readOnlyDesk.seed deskWorld = (.error (.storage .readOnly), after) ∧
        after.store = emptyDesk :=
  ⟨holds_emptyDesk, idsFresh_deskWorld _ fun key => by cases key <;> decide +kernel,
    by decide +kernel, seed_of_barred holds_emptyDesk rfl⟩

end Session

end ModelStore
