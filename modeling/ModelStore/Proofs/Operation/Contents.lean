import ModelStore.Proofs.Operation.Failure
import ModelStore.Proofs.Operation.Invariance
import ModelStore.Proofs.Query.Writing

/-!
# What the columns of a store hold

A value comes into a column in one of three ways: a payload gives it, an insertion makes an
identifier for a column that asks for one, or the store itself puts a default or a row id there.
Whatever is true of all of these, once the column has converted them, is true of everything that a
store ever holds, if it is true at the beginning.

Which values these are is left open here, so the argument is made only once: for texts in columns
of text, for the constraints of the tables, and for the numbers in which booleans are stored.

## Main definitions

* `Operation.Sends`: the statements that an operation on a table can come to.
* `Table.Provides`, `Operation.Offers`: what a table and the payloads of an operation put into
  columns.
* `Store.Contains`: stores whose columns hold what is good for them.

## Main results

* `sends_of_prepare`: what is sent for an operation comes from its payloads and conditions.
* `Operation.Offers.keeps`: an operation whose payloads offer what is good keeps what is good.
-/

namespace ModelStore

variable {ι : Type}

/-! ## The statements of an operation -/

/-- The payloads of an operation. -/
def Operation.payloads : Operation → List Payload
  | .create options => [options.data]
  | .update options => [options.data]
  | .updateMany options => [options.data]
  | .updateAll options => [options.data]
  | .upsert options => [options.update, options.create]
  | .findFirst _ | .findMany _ | .delete _ | .deleteMany _ | .deleteAll | .count _ => []

/-- The statements that an operation on a table can come to, given the identifiers to use. -/
inductive Operation.Sends (table : Table ι) (ids : Nat → String) (operation : Operation) :
    Statement → Prop where
  | search (plan : Plan) : Sends table ids operation (.find plan)
  | lookup {filter : Option Conditions} {statement : Statement}
      (hLookup : table.lookup filter = .ok statement) : Sends table ids operation statement
  | insertion {data : Payload} {statement : Statement} (hData : data ∈ operation.payloads)
      (hInsertion : table.insertion ids data = .ok statement) : Sends table ids operation statement
  | change {filter : Option Conditions} {data : Payload} {asked : Bool} {statement : Statement}
      (hData : data ∈ operation.payloads) (hChange : table.change filter data asked = .ok statement) :
      Sends table ids operation statement
  | removal {filter : Option Conditions} {asked : Bool} {statement : Statement}
      (hRemoval : table.removal filter asked = .ok statement) : Sends table ids operation statement
  | counting {filter : Option Conditions} {statement : Statement}
      (hCounting : table.counting filter = .ok statement) : Sends table ids operation statement

/-- **Preparation**: what is sent for an operation comes from its payloads and conditions. -/
theorem sends_of_prepare {schema : Schema ι} {key : ι} {policy : BulkPolicy}
    {ids : Nat → String} {operation : Operation} {work : Work}
    (hPrepared : Yields (operation.prepare schema key policy ids) work) :
    ∀ statement ∈ work.statements, operation.Sends (schema.table key) ids statement := by
  have hSingle : ∀ {operation : Operation} {statement : Statement},
      operation.Sends (schema.table key) ids statement →
      ∀ other ∈ [statement], operation.Sends (schema.table key) ids other :=
    fun hSends => List.forall_mem_singleton.mpr hSends
  cases operation with
  | findFirst options | findMany options =>
      obtain ⟨plan, -, hPure⟩ := hPrepared.of_bind
      rw [← hPure.of_pure]
      exact hSingle (.search _)
  | create options =>
      obtain ⟨statement, hStatement, hPure⟩ := hPrepared.of_bind
      rw [← hPure.of_pure]
      exact hSingle (.insertion (List.mem_singleton_self _) hStatement.of_liftExcept)
  | update options | updateAll options =>
      obtain ⟨statement, hStatement, hPure⟩ := hPrepared.of_bind
      rw [← hPure.of_pure]
      exact hSingle (.change (List.mem_singleton_self _) hStatement.of_liftExcept)
  | updateMany options =>
      obtain ⟨statement, hStatement, hRest⟩ := hPrepared.of_bind
      obtain ⟨-, -, hPure⟩ := hRest.of_bind
      rw [← hPure.of_pure]
      exact hSingle (.change (List.mem_singleton_self _) hStatement.of_liftExcept)
  | upsert options =>
      obtain ⟨conditions, lookup, change, insertion, rfl, hLookup, hChange, hInsertion⟩ :=
        Operation.prepareUpsert_eq_ok hPrepared.of_liftExcept
      rw [Work.statements, List.forall_mem_cons, List.forall_mem_append, List.forall_mem_singleton]
      refine ⟨.lookup hLookup, fun statement hMem => ?_,
        .insertion (by simp [Operation.payloads]) hInsertion⟩
      exact .change (by simp [Operation.payloads]) (hChange statement (Option.mem_toList.mp hMem))
  | delete options | deleteAll =>
      obtain ⟨statement, hStatement, hPure⟩ := hPrepared.of_bind
      rw [← hPure.of_pure]
      exact hSingle (.removal hStatement.of_liftExcept)
  | deleteMany options =>
      obtain ⟨statement, hStatement, hRest⟩ := hPrepared.of_bind
      obtain ⟨-, -, hPure⟩ := hRest.of_bind
      rw [← hPure.of_pure]
      exact hSingle (.removal hStatement.of_liftExcept)
  | count options =>
      obtain ⟨statement, hStatement, hPure⟩ := hPrepared.of_bind
      rw [← hPure.of_pure]
      exact hSingle (.counting hStatement.of_liftExcept)

/-! ## Values that are good for columns -/

/-- Rows whose columns hold what is good for them. -/
def Table.Contains (table : Table ι) (good : Column → Cell → Prop) (rows : List StoredRow) :
    Prop :=
  ∀ row ∈ rows, ∀ column ∈ table.columns, good column (table.cell row column.name)

/-- A table that puts only what is good into its columns by itself: defaults, row ids, and
identifiers that are made for an insertion. -/
structure Table.Provides (table : Table ι) (good : Column → Cell → Prop) : Prop where
  initial : ∀ column ∈ table.columns, ∀ now,
    good column (column.type.affinity.store (column.initial.stored.cellAt now))
  rowId : ∀ i column, StoredTable.rowIdOf table.columns = some i →
    table.columns[i]? = some column → ∀ id, good column (.int id)
  identifier : ∀ column ∈ table.columns, column.initial = .uuid → ∀ text,
    good column (column.type.affinity.store (.text text))

/-- Assignments of what is good, once the columns have converted it. -/
def Assignments.Offer (assignments : Assignments) (table : Table ι)
    (good : Column → Cell → Prop) : Prop :=
  ∀ entry ∈ assignments, entry.1 ∈ table.columns ∧
    good entry.1 (entry.1.type.affinity.store entry.2)

/-- A payload whose values are good, once the columns have converted them. -/
def Payload.Offers (table : Table ι) (good : Column → Cell → Prop) (data : Payload) : Prop :=
  ∀ entry ∈ data, ∀ column, table.column? entry.1 = some column →
    good column (column.type.affinity.store entry.2.bound)

/-- An operation whose payloads hold what is good. -/
def Operation.Offers (table : Table ι) (good : Column → Cell → Prop) (operation : Operation) :
    Prop :=
  ∀ data ∈ operation.payloads, data.Offers table good

section Assignments

variable {table : Table ι} {good : Column → Cell → Prop} {assignments : Assignments}

theorem Assignments.Offer.within (hOffer : assignments.Offer table good) :
    assignments.Within table := fun entry hEntry => (hOffer entry hEntry).1

theorem Assignments.Offer.reverse (hOffer : assignments.Offer table good) :
    Assignments.Offer assignments.reverse table good :=
  fun entry hEntry => hOffer entry (List.mem_reverse.mp hEntry)

/-- What is given to a column is good for it. -/
theorem Assignments.Offer.given (hNames : DistinctNames table.columnNames)
    (hOffer : assignments.Offer table good) {column : Column} (hColumn : column ∈ table.columns)
    {value : Cell} (hGiven : assignments.given? column.name = some value) :
    good column (column.type.affinity.store value) := by
  obtain ⟨entry, hEntry, hName, rfl⟩ := Assignments.exists_of_given? hGiven
  obtain ⟨hMem, hGood⟩ := hOffer entry hEntry
  have hSame : entry.1 = column :=
    DistinctNames.eq_of_sameName (f := Column.name) hNames hMem hColumn (by simp [hName])
  rwa [hSame] at hGood

/-- The values of a payload that is compiled are good if those of the payload are. -/
theorem Payload.Offers.compile {data : Payload} :
    ∀ {values : Assignments}, data.Offers table good →
      Payload.compile table data = .ok values → values.Offer table good := by
  induction data with
  | nil =>
      intro values _ hValues
      cases hValues
      exact fun _ hEntry => absurd hEntry List.not_mem_nil
  | cons entry data ih =>
      intro values hOffers hValues
      obtain ⟨name, value⟩ := entry
      obtain ⟨hOwn, hRest⟩ := List.forall_mem_cons.mp hOffers
      rw [Payload.compile] at hValues
      split at hValues
      · cases hValues
      · rename_i column hColumn
        obtain ⟨cell, hCell, hSteps⟩ := bind_eq_ok.mp hValues
        obtain ⟨others, hOthers, hPure⟩ := bind_eq_ok.mp hSteps
        rw [← pure_eq_ok.mp hPure]
        refine List.forall_mem_cons.mpr ⟨⟨(Table.mem_of_column? hColumn).1, ?_⟩,
          ih hRest hOthers⟩
        have hGood := hOwn column hColumn
        rwa [bound_of_ofJson hCell] at hGood

/-- The values of an insertion are good if those of the payload are. -/
theorem Payload.Offers.insertion (hProvides : table.Provides good) {data : Payload}
    (hOffers : data.Offers table good) {values : Assignments}
    (hValues : Payload.compile table data = .ok values) (ids : Nat → String) :
    Assignments.Offer (values ++
      (table.identified data).zipIdx.map fun (column, k) => (column, Cell.text (ids k)))
      table good := by
  refine List.forall_mem_append.mpr ⟨hOffers.compile hValues, List.forall_mem_map.mpr ?_⟩
  rintro ⟨column, k⟩ hMem
  obtain ⟨hColumn, hMade⟩ := List.mem_filter.mp (List.fst_mem_of_mem_zipIdx hMem)
  rw [Bool.and_eq_true, beq_iff_eq] at hMade
  exact ⟨hColumn, hProvides.identifier column hColumn hMade.1 _⟩

end Assignments

/-! ## Tables -/

section Tables

variable {stored : StoredTable} {table : Table ι} {good : Column → Cell → Prop}
  {assignments : Assignments}

/-- **Insertion**: a table that contains what is good gets a row that does. -/
theorem Table.Contains.of_insert (hHolds : stored.Holds table) (hProvides : table.Provides good)
    (hContains : table.Contains good stored.rows) (hOffer : assignments.Offer table good)
    {now : Int} {row : StoredRow} {after : StoredTable}
    (hInsert : stored.insert now (stored.slotsOf assignments) = .ok (row, after)) :
    table.Contains good after.rows := by
  obtain ⟨_, -, -, -, rfl⟩ := StoredTable.insert_eq_ok.mp hInsert
  intro other hOther column hColumn
  rcases StoredTable.mem_place.mp hOther with rfl | hOld
  · obtain ⟨i, hPlace⟩ := List.mem_iff_getElem?.mp hColumn
    rw [hHolds.cell_of_insert hOffer.within hInsert hPlace]
    split
    · rename_i hKey
      exact hProvides.rowId i column (hHolds.rowId_eq ▸ hKey) hPlace _
    · cases hGiven : assignments.given? column.name with
      | none => exact hProvides.initial column hColumn now
      | some value => exact hOffer.given hHolds.distinctNames hColumn hGiven
  · exact hContains other hOld column hColumn

/-- **Change**: a table that contains what is good gets rows that do. -/
theorem Table.Contains.of_update (hHolds : stored.Holds table) (hSound : stored.Sound)
    (hContains : table.Contains good stored.rows) (hOffer : assignments.Offer table good)
    {predicate : List Sql.Expr} {changed : List StoredRow} {after : StoredTable}
    (hUpdate : stored.update (stored.slotsOf assignments) (stored.choose predicate) =
      .ok (changed, after)) :
    table.Contains good after.rows := by
  have hChosen : ∀ row ∈ stored.choose predicate, row ∈ stored.rows :=
    fun row hRow => (List.mem_filter.mp hRow).1
  obtain ⟨-, hMade, hPerm⟩ := StoredTable.perm_of_updateRows hChosen
    (hSound.nodup_ids.sublist (List.filter_sublist.map _)) hUpdate
  intro other hOther column hColumn
  rcases List.mem_append.mp (hPerm.mem_iff.mp hOther) with hNew | hOld
  · obtain ⟨row, hRow, hAssign⟩ := StoredTable.exists_left_of_forall₂ hMade hNew
    rw [hHolds.cell_of_assign hOffer.within (hHolds.fits (hChosen row hRow)) hAssign hColumn]
    cases hGiven : assignments.given? column.name with
    | none => exact hContains row (hChosen row hRow) column hColumn
    | some value => exact hOffer.given hHolds.distinctNames hColumn hGiven
  · exact hContains other (List.mem_filter.mp hOld).1 column hColumn

/-- **Removal**: what is left in a table that contains what is good is good. -/
theorem Table.Contains.of_delete (hContains : table.Contains good stored.rows)
    (chosen : List StoredRow) : table.Contains good (stored.delete chosen).rows :=
  fun row hRow => hContains row (List.mem_filter.mp hRow).1

end Tables

/-! ## Stores -/

/-- A schema all of whose tables are created, under names that are distinct up to case. -/
structure Schema.Distinct (schema : Schema ι) : Prop where
  keys : ∀ key, key ∈ schema.keys
  names : DistinctNames (schema.keys.map fun key => (schema.table key).name)

/-- Tables of one name, up to case, are one table. -/
theorem Schema.Distinct.eq_of_sameName {schema : Schema ι} (hDistinct : schema.Distinct)
    {key other : ι} (hSame : sameName (schema.table key).name (schema.table other).name = true) :
    key = other :=
  DistinctNames.eq_of_sameName (f := fun key => (schema.table key).name) hDistinct.names
    (hDistinct.keys key) (hDistinct.keys other) hSame

/-- A store whose columns hold what is good for them. -/
def Store.Contains (store : Store) (schema : Schema ι) (good : Column → Cell → Prop) : Prop :=
  ∀ key stored, store.table? (schema.table key).name = some stored →
    (schema.table key).Contains good stored.rows

/-- A store that holds a schema, keeps the constraints and contains what is good. -/
structure Store.IsGood (store : Store) (schema : Schema ι) (good : Column → Cell → Prop) : Prop where
  holds : store.Holds schema
  sound : store.Sound
  contains : store.Contains schema good

section Stores

variable {schema : Schema ι} {good : Column → Cell → Prop} {store : Store}

/-- The constraints of the tables are kept by every statement. -/
theorem Statement.keep_sound : Statement.Keep Store.Sound := by
  intro now store left statement answer hStore hAnswer
  cases Statement.effect_of_answer hAnswer with
  | found | looked | counted => exact hStore
  | inserted hFound hInsert => exact hStore.put ((hStore.of_table? hFound).of_insert hInsert)
  | @changed _ _ _ _ stored _ _ hFound hUpdate =>
      have hSound := hStore.of_table? hFound
      exact hStore.put (hSound.of_updateRows (stored.addressed_slotsOf _)
        (fun row hRow => hSound.shown row (List.mem_filter.mp hRow).1) hUpdate)
  | removed hFound => exact hStore.put ((hStore.of_table? hFound).of_delete _)

/-- The table of a key, in a store that holds the schema. -/
theorem Store.Holds.of_table? (hStore : store.Holds schema) {key : ι} {stored : StoredTable}
    (hFound : store.table? (schema.table key).name = some stored) :
    stored.Holds (schema.table key) := by
  obtain ⟨found, hFound', hHolds⟩ := hStore key
  obtain rfl : stored = found := Option.some.inj (hFound.symm.trans hFound')
  exact hHolds

/-- A store contains what is good after one of its tables is put back, if that does. -/
theorem Store.Contains.put (hDistinct : schema.Distinct) (hContains : store.Contains schema good)
    {key : ι} {stored after : StoredTable}
    (hFound : store.table? (schema.table key).name = some stored) (hName : after.name = stored.name)
    (hAfter : (schema.table key).Contains good after.rows) :
    (store.put after).Contains schema good := by
  intro other found hOther
  rw [Store.table?_put, Option.map_eq_some_iff] at hOther
  obtain ⟨old, hOld, rfl⟩ := hOther
  split
  · rename_i hSame
    have hIs : key = other := by
      refine hDistinct.eq_of_sameName (sameName_iff.mpr ?_)
      rw [hName, sameName_iff] at hSame
      rw [← Store.foldedName_of_table? hFound, ← Store.foldedName_of_table? hOld, hSame]
    subst hIs
    exact hAfter
  · exact hContains other old hOld

/-- **Statements**: what an operation sends keeps what is good, if its payloads offer it. -/
theorem Operation.Sends.keeps (hDistinct : schema.Distinct) {key : ι}
    (hProvides : (schema.table key).Provides good) {operation : Operation}
    (hOffers : operation.Offers (schema.table key) good) {ids : Nat → String}
    {statement : Statement} (hSends : operation.Sends (schema.table key) ids statement) :
    statement.Keeps fun store => store.IsGood schema good := by
  intro now store left answer hGood hAnswer
  refine ⟨Statement.keep_holds hGood.holds hAnswer, Statement.keep_sound hGood.sound hAnswer, ?_⟩
  have hEffect := Statement.effect_of_answer hAnswer
  cases hSends with
  | search plan =>
      cases hEffect
      exact hGood.contains
  | lookup hLookup =>
      obtain ⟨predicate, -, hIs⟩ := bind_eq_ok.mp hLookup
      obtain rfl := pure_eq_ok.mp hIs
      cases hEffect
      exact hGood.contains
  | counting hCounting =>
      obtain ⟨predicate, -, hIs⟩ := bind_eq_ok.mp hCounting
      obtain rfl := pure_eq_ok.mp hIs
      cases hEffect
      exact hGood.contains
  | insertion hData hInsertion =>
      obtain ⟨values, hValues, hIs⟩ := bind_eq_ok.mp hInsertion
      obtain rfl := pure_eq_ok.mp hIs
      cases hEffect with
      | @inserted _ _ _ stored _ _ hFound hInsert =>
          have hOffer := (hOffers _ hData).insertion hProvides hValues ids
          exact hGood.contains.put hDistinct hFound (StoredTable.name_of_insert hInsert)
            ((hGood.contains key stored hFound).of_insert (hGood.holds.of_table? hFound) hProvides
              hOffer hInsert)
  | change hData hChange =>
      rw [Table.change] at hChange
      split at hChange
      · cases hChange
      · obtain ⟨values, hValues, hSteps⟩ := bind_eq_ok.mp hChange
        obtain ⟨predicate, -, hIs⟩ := bind_eq_ok.mp hSteps
        obtain rfl := pure_eq_ok.mp hIs
        cases hEffect with
        | @changed _ _ _ _ stored _ _ hFound hUpdate =>
            have hOffer := ((hOffers _ hData).compile hValues).reverse
            exact hGood.contains.put hDistinct hFound (StoredTable.name_of_updateRows hUpdate)
              ((hGood.contains key stored hFound).of_update (hGood.holds.of_table? hFound)
                (hGood.sound.of_table? hFound) hOffer hUpdate)
  | removal hRemoval =>
      obtain ⟨predicate, -, hIs⟩ := bind_eq_ok.mp hRemoval
      obtain rfl := pure_eq_ok.mp hIs
      cases hEffect with
      | @removed _ _ _ stored hFound =>
          exact hGood.contains.put hDistinct hFound rfl
            ((hGood.contains key stored hFound).of_delete _)

/-- **Operations**: an operation whose payloads offer what is good keeps what is good. -/
theorem Operation.Offers.keeps (hDistinct : schema.Distinct) {key : ι}
    (hProvides : (schema.table key).Provides good) {operation : Operation}
    (hOffers : operation.Offers (schema.table key) good) (world : World) {session : Session}
    (hGood : session.store.IsGood schema good) :
    (session.perform schema world key operation).2.store.IsGood schema good :=
  Session.perform_keeps_of world key operation
    (fun _ _ hPrepared statement hMem =>
      (sends_of_prepare ⟨[], _, hPrepared⟩ statement hMem).keeps hDistinct hProvides hOffers)
    hGood

end Stores

end ModelStore
