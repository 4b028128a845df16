import ModelStore.Proofs.Query.Naming
import ModelStore.Proofs.Query.Scanning

/-!
# Running a plan finds what its search finds

The rows of a plan and the findings of its search are the same, level by level.  A plan returns
more than is found of its table: it goes on with the hidden columns, which only the plan that joins
it looks at.

The invariant that carries the induction says of the result of a plan under which names it has its
columns, and that a row of it is a row found, continued by the hidden cells of the row of the table
that it comes from.  Names in scope are distinct, so a reference to a relation is one to its row,
whatever other relations are joined.

## Main definitions

* `Represents`: results of plans that hold what a search finds.
* `Joint`: a joined plan with what the search for its relation finds.

## Main results

* `Joint.combine_eq`: the join of a row is the choice of one partner from each relation.
* `Query.PlannedAs.represents_foundIn`: the result of a plan holds what its search finds in the rows
  that the plan reads.
-/

namespace ModelStore

open Sql (Expr ColumnRef)

variable {ι : Type}

/-! ## Rows in scope -/

/-- In a row whose columns have distinct names, the name of a column means the cell that stands with
it. -/
theorem Binding.cell?_of_mem {columns : List ResultColumn} {cells : List Cell}
    (hDistinct : DistinctNames (columns.map (·.name))) (hLength : columns.length ≤ cells.length)
    {column : ResultColumn} {cell : Cell} (hMem : (column, cell) ∈ columns.zip cells)
    (label : String) (rowId : Option Int) :
    Binding.cell? column.name ⟨label, columns, cells, rowId⟩ = some (cell, column.affinity) := by
  have hNames : DistinctNames ((columns.zip cells).map fun entry => entry.1.name) := by
    have hFirst : (columns.zip cells).map Prod.fst = columns := List.map_fst_zip hLength
    rw [← hFirst, List.map_map] at hDistinct
    exact hDistinct
  have hFound := hNames.find?_sameName hMem (sameName_self _)
  rw [Binding.cell?, hFound]
  rfl

/-- Where the names in scope are distinct, a reference under one of them is to that row. -/
theorem Bindings.lookup_of_mem {bindings : Bindings}
    (hDistinct : DistinctNames (bindings.map (·.name))) {binding : Binding}
    (hMem : binding ∈ bindings) {name : String} {value : Cell × Affinity}
    (hCell : binding.cell? name = some value) :
    Bindings.lookup bindings ⟨some binding.name, name⟩ = value := by
  have hOne : bindings.filter (fun b => sameName b.name binding.name) = [binding] :=
    hDistinct.filter_eq hMem (sameName_self _) fun other _ hOther => hOther
  simp [Bindings.lookup, hOne, Bindings.cell?, hCell]

/-! ## Results that hold findings -/

/-- The column of a result in which a column of an answer stands. -/
def OutputColumn.result (column : OutputColumn) : ResultColumn :=
  ⟨column.name, column.type.affinity⟩

/-- The column of a result in which a fetched column stands. -/
def Column.result (column : Column) : ResultColumn := ⟨column.name, column.type.affinity⟩

/-- The row of a result that holds a row found: the values shown, and the hidden cells. -/
def Plan.rowOf (plan : Plan) (table : Table ι) (found : Found) : List Cell :=
  found.values ++ plan.core.hidden.map fun column => table.cell found.source column.name

/-- The result of a plan on a table holds what was found. -/
structure Represents (table : Table ι) (plan : Plan) (result : ResultSet) (findings : Findings) :
    Prop where
  outputs_eq : plan.outputs = findings.columns
  columns_eq : result.columns =
    findings.columns.map OutputColumn.result ++ plan.core.hidden.map Column.result
  columns_distinct : DistinctNames (result.columns.map (·.name))
  rows_eq : result.rows = findings.found.map (plan.rowOf table)
  values_length : ∀ found ∈ findings.found, found.values.length = findings.columns.length
  fetched : ∀ found ∈ findings.found, ∀ name, plan.Fetches name → ∀ label,
    Binding.cell? name ⟨label, result.columns, plan.rowOf table found, none⟩ =
      some (table.value found.source name)

/-- A joined plan, its result, and what the search for its relation finds. -/
structure Joint (ι : Type) where
  relation : Relation ι
  target : Table ι
  plan : Plan
  result : ResultSet
  findings : Findings

namespace Joint

/-- The joined plan. -/
def join (joint : Joint ι) : Link × Plan := (joint.relation.link, joint.plan)

/-- The joined result. -/
def joined (joint : Joint ι) : Link × ResultSet := (joint.relation.link, joint.result)

/-- What was found of the relation. -/
def related (joint : Joint ι) : Related ι := ⟨joint.relation, joint.target, joint.findings⟩

/-- The cells of the joined row for a partner, or the nulls for nothing. -/
def cells (joint : Joint ι) : Option Found → List Cell
  | some found => joint.plan.rowOf joint.target found
  | none => joint.result.columns.map fun _ => .null

/-- The joined row for a partner, or for nothing, under the name of the relation. -/
def bind (joint : Joint ι) (pick : Option Found) : Binding :=
  ⟨joint.relation.name, joint.result.columns, joint.cells pick, none⟩

/-- A joined plan that can be joined to a table: its result holds what was found, and the fields of
the relation are there on both sides. -/
structure Fits (table : Table ι) (joint : Joint ι) : Prop where
  represents : Represents joint.target joint.plan joint.result joint.findings
  local_known : (table.column? joint.relation.localField).isSome = true
  fetches : joint.plan.Fetches joint.relation.referencedField

end Joint

/-! ## Joining -/

/-- Going on with each item found, or with nothing where none is. -/
theorem map_or_nothing {α β : Type} (found : List α) (next : Option α → β) :
    (if (found.map fun item => next (some item)).isEmpty then [next none]
      else found.map fun item => next (some item)) =
      (if found.isEmpty then [none] else found.map some).map next := by
  cases found with
  | nil => rfl
  | cons first rest => simp

section Joining

variable {table : Table ι} {stored : StoredTable} (hHolds : stored.Holds table) {row : StoredRow}
  (hRow : row ∈ stored.rows)

include hHolds hRow

/-- Where the row of the table is in scope, a column of the table means the value in it. -/
theorem lookup_own {bindings : Bindings} (hDistinct : DistinctNames (bindings.map (·.name)))
    (hMem : stored.bind table.name row ∈ bindings) {name : String}
    (hKnown : (table.column? name).isSome = true) :
    Bindings.lookup bindings ⟨some table.name, name⟩ = table.value row name := by
  obtain ⟨column, hColumn⟩ := Option.isSome_iff_exists.mp hKnown
  exact Bindings.lookup_of_mem hDistinct hMem (hHolds.cell?_bind hRow hColumn table.name)

/-- Joining one relation: a combination continues with the partners of its row. -/
theorem Joint.matching_eq {joint : Joint ι} (hFits : joint.Fits table) {bindings : Bindings}
    (hMem : stored.bind table.name row ∈ bindings)
    (hDistinct : DistinctNames (bindings.map (·.name) ++ [joint.relation.name])) :
    matching table.name joint.relation.link joint.result bindings =
      (joint.related.partners table row).map fun pick => bindings ++ [joint.bind pick] := by
  have hAgree : ∀ found ∈ joint.findings.found,
      agree
        (Bindings.lookup (bindings ++ [joint.bind (some found)])
          (joint.relation.link.localRef table.name))
        (Bindings.lookup (bindings ++ [joint.bind (some found)])
          joint.relation.link.referencedRef) =
      agree (table.value row joint.relation.localField)
        (joint.target.value found.source joint.relation.referencedField) := by
    intro found hFound
    have hNames : DistinctNames ((bindings ++ [joint.bind (some found)]).map (·.name)) := by
      simpa [Joint.bind] using hDistinct
    have hLocal := lookup_own hHolds hRow hNames (List.mem_append_left _ hMem) hFits.local_known
    have hReferenced := Bindings.lookup_of_mem hNames
      (List.mem_append_right bindings (List.mem_singleton_self (joint.bind (some found))))
      (hFits.represents.fetched found hFound _ hFits.fetches joint.relation.name)
    rw [← hLocal, ← hReferenced]
    rfl
  have hFound : (joint.result.rows.map fun cells =>
      bindings ++ [⟨joint.relation.name, joint.result.columns, cells, none⟩]).filter (fun bs =>
        agree (Bindings.lookup bs (joint.relation.link.localRef table.name))
          (Bindings.lookup bs joint.relation.link.referencedRef)) =
      (joint.findings.found.filter fun found =>
        agree (table.value row joint.relation.localField)
          (joint.target.value found.source joint.relation.referencedField)).map fun found =>
        bindings ++ [joint.bind (some found)] := by
    rw [hFits.represents.rows_eq, List.map_map, List.filter_map]
    exact congrArg (List.map _) (List.filter_congr hAgree)
  unfold matching Related.partners
  simp only [Relation.link_name, Joint.related, hFound]
  exact map_or_nothing _ fun pick => bindings ++ [joint.bind pick]

/-- **Joining**: a combination continues with every choice of one partner from each relation. -/
theorem Joint.combine_eq {joints : List (Joint ι)} :
    ∀ {bindings : Bindings}, (∀ joint ∈ joints, joint.Fits table) →
      stored.bind table.name row ∈ bindings →
      DistinctNames (bindings.map (·.name) ++ joints.map (·.relation.name)) →
      combine table.name (joints.map Joint.joined) bindings =
        (choices (joints.map fun joint => joint.related.partners table row)).map fun picks =>
          bindings ++ List.zipWith Joint.bind joints picks := by
  induction joints with
  | nil =>
      intro bindings _ _ _
      simp [combine, choices]
  | cons joint joints ih =>
      intro bindings hFits hMem hDistinct
      obtain ⟨hFirst, hRest⟩ := List.forall_mem_cons.mp hFits
      have hSplit : bindings.map (·.name) ++ (joint :: joints).map (·.relation.name) =
          (bindings.map (·.name) ++ [joint.relation.name]) ++ joints.map (·.relation.name) := by
        simp
      rw [hSplit] at hDistinct
      have hOne := Joint.matching_eq hHolds hRow hFirst hMem
        (hDistinct.sublist (List.sublist_append_left _ _))
      have hNext : ∀ pick,
          combine table.name (joints.map Joint.joined) (bindings ++ [joint.bind pick]) =
            (choices (joints.map fun joint => joint.related.partners table row)).map fun picks =>
              (bindings ++ [joint.bind pick]) ++ List.zipWith Joint.bind joints picks := by
        intro pick
        refine ih hRest (List.mem_append_left _ hMem) ?_
        simpa [Joint.bind] using hDistinct
      rw [List.map_cons, Joint.joined, combine, hOne, List.map_cons, choices, List.map_flatMap,
        List.flatMap_map]
      refine List.flatMap_congr fun pick _ => ?_
      rw [hNext, List.map_map]
      simp [Function.comp_def]

end Joining

/-! ## Combinations -/

/-- A list is mapped to another if the items that stand together agree. -/
theorem map_eq_of_zip {α β : Type} {l : List α} {others : List β} {f : α → β}
    (hLength : l.length = others.length) (hEach : ∀ entry ∈ l.zip others, f entry.1 = entry.2) :
    l.map f = others := by
  have hFirst : (l.zip others).map Prod.fst = l := List.map_fst_zip (Nat.le_of_eq hLength)
  have hSecond : (l.zip others).map Prod.snd = others :=
    List.map_snd_zip (Nat.le_of_eq hLength.symm)
  rw [← hSecond]
  conv_lhs => rw [← hFirst]
  rw [List.map_map]
  exact List.map_congr_left hEach

/-- A choice takes one item from each list. -/
theorem mem_choices {α : Type} {lists : List (List α)} :
    ∀ {picks : List α},
      picks ∈ choices lists ↔ List.Forall₂ (fun pick l => pick ∈ l) picks lists := by
  induction lists with
  | nil => simp [choices]
  | cons items lists ih =>
      intro picks
      rw [choices, List.forall₂_cons_right_iff]
      simp only [List.mem_flatMap, List.mem_map, ih]
      constructor
      · rintro ⟨pick, hPick, others, hOthers, rfl⟩
        exact ⟨pick, others, hPick, hOthers, rfl⟩
      · rintro ⟨pick, others, hPick, hOthers, rfl⟩
        exact ⟨pick, hPick, others, hOthers, rfl⟩

/-- What a row can go together with: something found of the relation, or nothing. -/
def Related.Offers (related : Related ι) (pick : Option Found) : Prop :=
  ∀ found ∈ pick, found ∈ related.findings.found

theorem Related.offers_of_mem_partners {related : Related ι} {table : Table ι} {row : StoredRow}
    {pick : Option Found} (hPick : pick ∈ related.partners table row) : related.Offers pick := by
  intro found hFound
  unfold Related.partners at hPick
  dsimp only at hPick
  split at hPick
  · rw [List.mem_singleton.mp hPick] at hFound
    cases hFound
  · obtain ⟨other, hOther, rfl⟩ := List.mem_map.mp hPick
    rw [← Option.mem_some_iff.mp hFound]
    exact List.mem_of_mem_filter hOther

namespace Joint

/-- What a row can go together with: something found, or nothing. -/
def IsPick (joint : Joint ι) (pick : Option Found) : Prop := joint.related.Offers pick

variable {joint : Joint ι}
  (hRepresents : Represents joint.target joint.plan joint.result joint.findings)
  {pick : Option Found} (hPick : joint.IsPick pick)

include hRepresents hPick

/-- The values shown of a relation are as many as its columns. -/
theorem length_shown : (joint.related.shown pick).length = joint.findings.columns.length := by
  cases pick with
  | none => simp [Related.shown, Joint.related]
  | some found => exact hRepresents.values_length found (hPick found rfl)

/-- A joined row begins with the values that are shown of the relation. -/
theorem cells_eq : ∃ rest, joint.cells pick = joint.related.shown pick ++ rest ∧
    rest.length = joint.plan.core.hidden.length := by
  cases pick with
  | none =>
      refine ⟨joint.plan.core.hidden.map fun _ => .null, ?_, by simp⟩
      rw [Joint.cells, hRepresents.columns_eq, List.map_append, List.map_map, List.map_map]
      rfl
  | some found => exact ⟨_, rfl, by simp⟩

/-- Under the name of a relation, the columns that are shown of it mean the values that are
shown. -/
theorem lookup_shown {bindings : Bindings} (hDistinct : DistinctNames (bindings.map (·.name)))
    (hMem : joint.bind pick ∈ bindings) :
    (joint.plan.outputs.map fun column =>
      (Bindings.lookup bindings ⟨some joint.relation.name, column.name⟩).1) =
      joint.related.shown pick := by
  have hLength := length_shown hRepresents hPick
  obtain ⟨rest, hCells, hRest⟩ := cells_eq hRepresents hPick
  rw [hRepresents.outputs_eq]
  refine map_eq_of_zip hLength.symm ?_
  rintro ⟨column, cell⟩ hEntry
  have hInRow : (column.result, cell) ∈ joint.result.columns.zip (joint.cells pick) := by
    rw [hCells, hRepresents.columns_eq, List.zip_append (by simp [hLength])]
    refine List.mem_append_left _ ?_
    rw [List.zip_map_left]
    exact List.mem_map_of_mem hEntry
  have hAll : joint.result.columns.length ≤ (joint.cells pick).length := by
    rw [hCells, hRepresents.columns_eq]
    simp [hLength, hRest]
  have hCell := Binding.cell?_of_mem hRepresents.columns_distinct hAll hInRow
    joint.relation.name none
  have hLookup := Bindings.lookup_of_mem hDistinct hMem hCell
  exact congrArg Prod.fst hLookup

end Joint

/-- A row of a table with a partner from each relation, all in scope. -/
def combination (stored : StoredTable) (table : Table ι) (joints : List (Joint ι))
    (entry : StoredRow × List (Option Found)) : Bindings :=
  stored.bind table.name entry.1 :: List.zipWith Joint.bind joints entry.2

theorem names_zipWith_bind (joints : List (Joint ι)) :
    ∀ picks : List (Option Found),
      ((List.zipWith Joint.bind joints picks).map (·.name)).Sublist
        (joints.map (·.relation.name)) := by
  induction joints with
  | nil => simp
  | cons joint joints ih =>
      intro picks
      cases picks with
      | nil => simp
      | cons pick picks => exact (ih picks).cons_cons _

/-- The values shown of some relations, one after another. -/
theorem flatMap_eq_flatten_zipWith {α β γ : Type} {f : α → List γ} {g : α → β → List γ}
    {items : List α} :
    ∀ {others : List β}, items.length = others.length →
      (∀ entry ∈ items.zip others, f entry.1 = g entry.1 entry.2) →
      items.flatMap f = (List.zipWith g items others).flatten := by
  induction items with
  | nil => simp
  | cons item items ih =>
      intro others hLength hEach
      cases others with
      | nil => simp at hLength
      | cons other others =>
          rw [List.zip_cons_cons, List.forall_mem_cons] at hEach
          rw [List.flatMap_cons, List.zipWith_cons_cons, List.flatten_cons, hEach.1,
            ih (by simpa using hLength) hEach.2]

section Combination

variable {table : Table ι} {stored : StoredTable} (hHolds : stored.Holds table)
  {joints : List (Joint ι)} (hFits : ∀ joint ∈ joints, joint.Fits table)
  (hScope : DistinctNames (table.name :: joints.map (·.relation.name)))

include hScope in
/-- The names in scope are distinct. -/
theorem distinct_combination (entry : StoredRow × List (Option Found)) :
    DistinctNames ((combination stored table joints entry).map (·.name)) :=
  hScope.sublist ((names_zipWith_bind joints entry.2).cons_cons _)

include hHolds hScope in
/-- In a combination, a column of the table means the value in its row. -/
theorem lookup_combination {entry : StoredRow × List (Option Found)} (hRow : entry.1 ∈ stored.rows)
    {name : String} (hKnown : (table.column? name).isSome = true) :
    Bindings.lookup (combination stored table joints entry) ⟨some table.name, name⟩ =
      table.value entry.1 name :=
  lookup_own hHolds hRow (distinct_combination hScope entry) List.mem_cons_self hKnown

include hHolds hScope in
/-- Combinations stand in the order of their rows. -/
theorem compareBy_combination {orderBy : List (String × Direction)}
    (hKnown : ∀ key ∈ orderBy, (table.column? key.1).isSome = true)
    {a b : StoredRow × List (Option Found)} (ha : a.1 ∈ stored.rows) (hb : b.1 ∈ stored.rows) :
    compareBy (orderBy.map table.sortKey) (combination stored table joints a)
        (combination stored table joints b) =
      table.compareRows orderBy a.1 b.1 := by
  induction orderBy with
  | nil => rfl
  | cons key orderBy ih =>
      obtain ⟨hKey, hRest⟩ := List.forall_mem_cons.mp hKnown
      obtain ⟨name, direction⟩ := key
      rw [List.map_cons, compareBy, Table.compareRows, ih hRest]
      simp only [Table.sortKey]
      rw [lookup_combination hHolds hScope ha hKey, lookup_combination hHolds hScope hb hKey]
      unfold Table.cell
      cases direction <;> simp only [Direction.orient] <;> split <;> simp_all [Ordering.then]

include hHolds hFits hScope in
/-- The select list of a combination: the columns selected, the values shown of the relations, and
the hidden columns. -/
theorem items_combination {own : SearchOptions} {core : PlanCore} (hCore : core.PlannedAs table own)
    {entry : StoredRow × List (Option Found)} (hRow : entry.1 ∈ stored.rows)
    (hPicks : List.Forall₂ Joint.IsPick joints entry.2) :
    ((selectItems core (joints.map Joint.join)).map fun item =>
        (Bindings.lookup (combination stored table joints entry) item.ref).1) =
      core.projection.map (fun column => table.cell entry.1 column.name)
        ++ (List.zipWith Related.shown (joints.map Joint.related) entry.2).flatten
        ++ core.hidden.map (fun column => table.cell entry.1 column.name) := by
  have hOwn : ∀ column ∈ core.projection ++ core.hidden,
      (Bindings.lookup (combination stored table joints entry)
        (SelectItem.own core.table column).ref).1 = table.cell entry.1 column.name := by
    intro column hColumn
    have hKnown := Table.column?_isSome (hCore.fetched_mem column hColumn)
    have hLookup := lookup_combination hHolds hScope hRow hKnown
    rw [SelectItem.own, hCore.table_eq, hLookup]
    rfl
  rw [List.forall_mem_append] at hOwn
  have hJoined : ((joints.map Joint.join).flatMap SelectItem.joined).map (fun item =>
      (Bindings.lookup (combination stored table joints entry) item.ref).1) =
      (List.zipWith Related.shown (joints.map Joint.related) entry.2).flatten := by
    rw [List.flatMap_map, List.map_flatMap, List.zipWith_map_left]
    refine flatMap_eq_flatten_zipWith hPicks.length_eq ?_
    rintro ⟨joint, pick⟩ hEntry
    have hJoint : joint ∈ joints := (List.of_mem_zip hEntry).1
    have hMem : joint.bind pick ∈ combination stored table joints entry := by
      refine List.mem_cons_of_mem _ ?_
      rw [← List.map_uncurry_zip_eq_zipWith]
      exact List.mem_map_of_mem (f := Function.uncurry Joint.bind) hEntry
    have hShown := Joint.lookup_shown (hFits joint hJoint).represents
      (List.forall₂_zip hPicks hEntry) (distinct_combination hScope entry) hMem
    rw [← hShown, SelectItem.joined, List.map_map]
    rfl
  rw [selectItems, List.map_append, List.map_append, List.map_map, List.map_map, hJoined]
  simp only [Function.comp_def]
  rw [List.map_congr_left hOwn.1, List.map_congr_left hOwn.2]

end Combination

/-! ## One plan -/

/-- Rows are read in some order, none left out and none twice. -/
theorem StoredTable.read_perm (stored : StoredTable) (access : Access) :
    (stored.read access).Perm stored.rows := by
  have hBy : ∀ i, (stored.rowsBy i).Perm stored.rows := fun i => List.mergeSort_perm _ _
  unfold StoredTable.read
  split
  · exact List.Perm.refl _
  · split
    · exact (List.reverse_perm _).trans (hBy _)
    · exact hBy _

/-- What a window leaves was there before. -/
theorem mem_of_mem_cut {α : Type} {own : SearchOptions} {rows : List α} {row : α}
    (hRow : row ∈ own.cut rows) : row ∈ rows := by
  unfold SearchOptions.cut at hRow
  cases hTake : own.take with
  | none =>
      rw [hTake] at hRow
      exact List.mem_of_mem_drop hRow
  | some limit =>
      rw [hTake] at hRow
      exact List.mem_of_mem_drop (List.mem_of_mem_take hRow)

/-- Going on with what passes a test is going on with what is left of it. -/
theorem filterMap_ite {α β : Type} {p : α → Bool} {q : α → Prop} [DecidablePred q] {f : α → β}
    {l : List α} (hTest : ∀ a ∈ l, p a = true ↔ q a) :
    (l.filterMap fun a => if p a then some (f a) else none) =
      (l.filter fun a => decide (q a)).map f := by
  induction l with
  | nil => rfl
  | cons a l ih =>
      obtain ⟨ha, hl⟩ := List.forall_mem_cons.mp hTest
      by_cases hq : q a
      · simp [hq, ha.mpr hq, ih hl]
      · have hp : p a = false := by simpa [hq] using ha
        simp [hq, hp, ih hl]

/-- Without sort keys, sorting changes nothing. -/
theorem mergeSort_of_all {α : Type} {le : α → α → Bool} {l : List α}
    (hAll : ∀ a b, le a b = true) : l.mergeSort le = l :=
  List.mergeSort_of_pairwise (List.pairwise_of_forall hAll)

/-- A window leaves the same of rows and of what stands for them. -/
theorem Window.apply_map {α β : Type} (own : SearchOptions) (f : α → β) (rows : List α) :
    Window.apply ⟨own.take, own.skip⟩ (rows.map f) = (own.cut rows).map f := by
  unfold Window.apply SearchOptions.cut
  cases own.take <;> simp [List.map_drop, List.map_take]

/-- Where the names in scope are distinct, and those of the columns under one of them, a reference
has the affinity of the column that it names. -/
theorem affinityOf_of_mem {sources : List (String × List ResultColumn)}
    (hDistinct : DistinctNames (sources.map Prod.fst)) {source : String × List ResultColumn}
    (hMem : source ∈ sources) (hColumns : DistinctNames (source.2.map (·.name)))
    {column : ResultColumn} (hColumn : column ∈ source.2) :
    affinityOf sources ⟨some source.1, column.name⟩ = column.affinity := by
  have hOne : sources.filter (fun other => sameName other.1 source.1) = [source] :=
    hDistinct.filter_eq hMem (sameName_self _) fun other _ hOther => hOther
  have hFound := hColumns.find?_sameName hColumn (sameName_self _)
  simp [affinityOf, hOne, hFound]

section Node

variable {table : Table ι} {stored : StoredTable} (hHolds : stored.Holds table)
  {own : SearchOptions} {core : PlanCore} (hCore : core.PlannedAs table own)
  {joints : List (Joint ι)} (hFits : ∀ joint ∈ joints, joint.Fits table)
  (hScope : DistinctNames (table.name :: joints.map (·.relation.name)))

include hHolds hCore in
/-- The condition of a plan lets pass what the condition of its search accepts. -/
theorem PlanCore.PlannedAs.allHold_iff {row : StoredRow} (hRow : row ∈ stored.rows) :
    Sql.allHold (Bindings.lookup [stored.bind core.table row]) core.predicate = true ↔
      own.Accepts table row := by
  have hPredicate := hCore.predicate_eq
  unfold SearchOptions.Accepts
  cases hFilter : own.filter with
  | none =>
      rw [hFilter] at hPredicate
      rw [← Except.ok.inj hPredicate]
      simp [Sql.allHold]
  | some conditions =>
      rw [hFilter] at hPredicate
      have hLabel : ∀ q ∈ some table.name, sameName core.table q = true := by
        rintro q hq
        rw [← Option.mem_some_iff.mp hq, hCore.table_eq]
        exact sameName_self _
      rw [Conditions.allHold_iff hHolds hRow hLabel hPredicate]
      simp

/-- The combinations that a search goes through: every row that is accepted with every choice of
partners. -/
def combinations (table : Table ι) (own : SearchOptions) (rows : List StoredRow)
    (related : List (Related ι)) : List (StoredRow × List (Option Found)) :=
  (rows.filter fun row => own.Accepts table row).flatMap fun row =>
    (choices (related.map (Related.partners table row))).map fun picks => (row, picks)

/-- Combinations are made of rows that are read, and of what can go together with them. -/
theorem offers_of_mem_combinations {rows : List StoredRow} {related : List (Related ι)}
    {entry : StoredRow × List (Option Found)}
    (hEntry : entry ∈ combinations table own rows related) :
    entry.1 ∈ rows ∧ List.Forall₂ Related.Offers related entry.2 := by
  obtain ⟨row, hRow, hMem⟩ := List.mem_flatMap.mp hEntry
  obtain ⟨picks, hPicks, rfl⟩ := List.mem_map.mp hMem
  refine ⟨List.mem_of_mem_filter hRow, ?_⟩
  rw [mem_choices, List.forall₂_map_right_iff] at hPicks
  exact (hPicks.imp fun pick related h => Related.offers_of_mem_partners h).flip

theorem mem_combinations {rows : List StoredRow} {entry : StoredRow × List (Option Found)}
    (hEntry : entry ∈ combinations table own rows (joints.map Joint.related)) :
    entry.1 ∈ rows ∧ List.Forall₂ Joint.IsPick joints entry.2 := by
  obtain ⟨hRow, hPicks⟩ := offers_of_mem_combinations hEntry
  rw [List.forall₂_map_left_iff] at hPicks
  exact ⟨hRow, hPicks⟩

include hHolds hCore hFits hScope in
/-- What a plan combines is what its search goes through. -/
theorem combined_eq {rows : List StoredRow} (hRows : ∀ row ∈ rows, row ∈ stored.rows) :
    (rows.filterMap fun row =>
        if Sql.allHold (Bindings.lookup [stored.bind core.table row]) core.predicate then
          some [stored.bind core.table row] else none).flatMap
      (combine core.table (joints.map Joint.joined)) =
      (combinations table own rows (joints.map Joint.related)).map
        (combination stored table joints) := by
  rw [filterMap_ite fun row hRow => hCore.allHold_iff hHolds (hRows row hRow), List.flatMap_map,
    combinations, List.map_flatMap, hCore.table_eq]
  refine List.flatMap_congr fun row hRow => ?_
  have hStored : row ∈ stored.rows := hRows row (List.mem_of_mem_filter hRow)
  have hCombine := Joint.combine_eq hHolds hStored hFits
    (List.mem_singleton_self (stored.bind table.name row)) hScope
  rw [hCombine, List.map_map, List.map_map]
  rfl

include hHolds hCore hScope in
/-- Combinations are sorted as their rows are. -/
theorem sortBy_combination {entries : List (StoredRow × List (Option Found))}
    (hEntries : ∀ entry ∈ entries, entry.1 ∈ stored.rows) :
    sortBy core.order (entries.map (combination stored table joints)) =
      (entries.mergeSort fun a b =>
        table.compareRows (own.orderBy.getD []) a.1 b.1 != .gt).map
        (combination stored table joints) := by
  have hOrder : ∀ a ∈ entries, ∀ b ∈ entries,
      (table.compareRows (own.orderBy.getD []) a.1 b.1 != .gt) =
        (compareBy core.order (combination stored table joints a)
          (combination stored table joints b) != .gt) := by
    intro a ha b hb
    rw [hCore.order_eq, compareBy_combination hHolds hScope hCore.order_known (hEntries a ha)
      (hEntries b hb)]
  have hSorted : (entries.mergeSort fun a b =>
        table.compareRows (own.orderBy.getD []) a.1 b.1 != .gt).map
        (combination stored table joints) =
      (entries.map (combination stored table joints)).mergeSort fun a b =>
        compareBy core.order a b != .gt :=
    List.map_mergeSort hOrder
  rw [hSorted, sortBy]
  split
  · rename_i hNone
    rw [List.isEmpty_iff.mp hNone]
    exact (mergeSort_of_all fun _ _ => rfl).symm
  · rfl

/-- What a plan selects from, with the columns of each. -/
def sourcesOf (stored : StoredTable) (core : PlanCore) (joints : List (Joint ι)) :
    List (String × List ResultColumn) :=
  (core.table, stored.columns.map fun column => ⟨column.name, column.affinity⟩) ::
    (joints.map Joint.joined).map fun entry => (entry.1.name, entry.2.columns)

/-- The column of a result that an item of a select list makes. -/
def SelectItem.column (sources : List (String × List ResultColumn)) (item : SelectItem) :
    ResultColumn :=
  ⟨item.name, affinityOf sources item.ref⟩

include hCore hScope in
theorem distinct_sourcesOf : DistinctNames ((sourcesOf stored core joints).map Prod.fst) := by
  rw [sourcesOf, hCore.table_eq]
  simpa [Joint.joined, Function.comp_def] using hScope

include hHolds hCore hScope in
/-- Selected columns of the table keep their names and their affinities. -/
theorem columns_own {columns : List Column}
    (hColumns : ∀ column ∈ columns, column ∈ core.projection ++ core.hidden) :
    (columns.map (SelectItem.own core.table)).map
        (SelectItem.column (sourcesOf stored core joints)) =
      columns.map Column.result := by
  have hNames : DistinctNames ((table.columns.map Column.result).map (·.name)) := by
    simpa [Column.result, Table.columnNames, Function.comp_def] using hHolds.distinctNames
  have hSource : (core.table, table.columns.map Column.result) ∈ sourcesOf stored core joints := by
    rw [sourcesOf, hHolds.columns_eq, List.map_map]
    exact List.mem_cons_self
  rw [List.map_map]
  refine List.map_congr_left fun column hColumn => ?_
  have hResult : column.result ∈ table.columns.map Column.result :=
    List.mem_map_of_mem (hCore.fetched_mem column (hColumns column hColumn))
  have hAffinity := affinityOf_of_mem (distinct_sourcesOf hCore hScope) hSource hNames hResult
  exact congrArg (ResultColumn.mk column.name) hAffinity

include hCore hFits hScope in
/-- Selected columns of joined results keep their affinities, and are shown under the names of their
relations. -/
theorem columns_joined :
    ((joints.map Joint.join).flatMap SelectItem.joined).map
        (SelectItem.column (sourcesOf stored core joints)) =
      ((joints.map Joint.related).flatMap Related.columns).map OutputColumn.result := by
  rw [List.flatMap_map, List.flatMap_map, List.map_flatMap, List.map_flatMap]
  refine List.flatMap_congr fun joint hJoint => ?_
  have hRepresents := (hFits joint hJoint).represents
  have hSource : (joint.relation.name, joint.result.columns) ∈ sourcesOf stored core joints := by
    rw [sourcesOf, List.map_map]
    exact List.mem_cons_of_mem _ (List.mem_map_of_mem hJoint)
  have hOutputs : joint.plan.outputs = joint.findings.columns := hRepresents.outputs_eq
  rw [SelectItem.joined, Related.columns, List.map_map, List.map_map]
  refine (List.map_congr_left fun column hColumn => ?_).trans (congrArg (List.map _) hOutputs)
  have hResult : column.result ∈ joint.result.columns := by
    rw [hRepresents.columns_eq, ← hRepresents.outputs_eq]
    exact List.mem_append_left _ (List.mem_map_of_mem hColumn)
  have hAffinity := affinityOf_of_mem (distinct_sourcesOf hCore hScope) hSource
    hRepresents.columns_distinct hResult
  exact congrArg (ResultColumn.mk _) hAffinity

include hHolds hCore hFits hScope in
/-- The columns of the result of a plan: those that its search shows, and the hidden ones. -/
theorem columns_node :
    (selectItems core (joints.map Joint.join)).map
        (SelectItem.column (sourcesOf stored core joints)) =
      ((table.selected own.select).map OutputColumn.of ++
        (joints.map Joint.related).flatMap Related.columns).map OutputColumn.result
        ++ core.hidden.map Column.result := by
  have hProjection := columns_own hHolds hCore hScope
    fun column (hColumn : column ∈ core.projection) => List.mem_append_left _ hColumn
  have hHidden := columns_own hHolds hCore hScope
    fun column (hColumn : column ∈ core.hidden) => List.mem_append_right _ hColumn
  rw [selectItems, List.map_append, List.map_append, hProjection, hHidden,
    columns_joined hCore hFits hScope, hCore.projection_eq, List.map_append, List.map_map]
  rfl

/-- The rows that are found, as combinations: sorted, and cut to the window. -/
def keptOf (table : Table ι) (own : SearchOptions) (rows : List StoredRow)
    (related : List (Related ι)) : List (StoredRow × List (Option Found)) :=
  own.cut ((combinations table own rows related).mergeSort fun a b =>
    table.compareRows (own.orderBy.getD []) a.1 b.1 != .gt)

theorem mem_combinations_of_mem_keptOf {rows : List StoredRow} {related : List (Related ι)}
    {entry : StoredRow × List (Option Found)} (hEntry : entry ∈ keptOf table own rows related) :
    entry ∈ combinations table own rows related :=
  List.mem_mergeSort.mp (mem_of_mem_cut hEntry)

/-- The rows that a plan reads, in the order in which it reads them. -/
def rowsRead (stored : StoredTable) (core : PlanCore) (joints : List (Joint ι)) : List StoredRow :=
  stored.read (accessOf core (selectItems core (joints.map Joint.join))
    ((joints.map Joint.joined).map (·.1)))

theorem mem_rowsRead {row : StoredRow} (hRow : row ∈ rowsRead stored core joints) :
    row ∈ stored.rows :=
  (stored.read_perm _).mem_iff.mp hRow

/-- What is found for a combination. -/
def foundOf (table : Table ι) (own : SearchOptions) (related : List (Related ι))
    (entry : StoredRow × List (Option Found)) : Found :=
  { source := entry.1
    values := (table.selected own.select).map (fun column => table.cell entry.1 column.name)
      ++ (List.zipWith Related.shown related entry.2).flatten }

theorem found_gather (rows : List StoredRow) (related : List (Related ι)) :
    (Findings.gather table own rows related).found =
      (keptOf table own rows related).map (foundOf table own related) :=
  rfl

theorem mem_keptOf {rows : List StoredRow} (hRows : ∀ row ∈ rows, row ∈ stored.rows)
    {entry : StoredRow × List (Option Found)}
    (hEntry : entry ∈ keptOf table own rows (joints.map Joint.related)) :
    entry.1 ∈ stored.rows ∧ List.Forall₂ Joint.IsPick joints entry.2 := by
  obtain ⟨hRow, hPicks⟩ := mem_combinations (mem_combinations_of_mem_keptOf hEntry)
  exact ⟨hRows entry.1 hRow, hPicks⟩

include hHolds hCore hFits hScope

/-- A row of a plan holds the row found, continued by the hidden cells. -/
theorem items_foundOf {entry : StoredRow × List (Option Found)} (hRow : entry.1 ∈ stored.rows)
    (hPicks : List.Forall₂ Joint.IsPick joints entry.2) :
    ((selectItems core (joints.map Joint.join)).map fun item =>
        (Bindings.lookup (combination stored table joints entry) item.ref).1) =
      (Plan.node core (joints.map Joint.join)).rowOf table
        (foundOf table own (joints.map Joint.related) entry) := by
  rw [items_combination hHolds hFits hScope hCore hRow hPicks, hCore.projection_eq]
  rfl

/-- The rows of a plan: those found, continued by the hidden cells. -/
theorem rows_node :
    (runCore stored core (selectItems core (joints.map Joint.join))
        (joints.map Joint.joined)).rows =
      (Findings.gather table own (rowsRead stored core joints)
        (joints.map Joint.related)).found.map
        ((Plan.node core (joints.map Joint.join)).rowOf table) := by
  have hRows : ∀ row ∈ rowsRead stored core joints, row ∈ stored.rows :=
    fun _ => mem_rowsRead
  have hEntries : ∀ entry ∈ combinations table own (rowsRead stored core joints)
      (joints.map Joint.related), entry.1 ∈ stored.rows :=
    fun entry hEntry => hRows entry.1 (mem_combinations hEntry).1
  have hCombined := combined_eq hHolds hCore hFits hScope hRows
  unfold rowsRead at hCombined
  unfold runCore
  dsimp only
  rw [hCombined]
  rw [← rowsRead, sortBy_combination hHolds hCore hScope hEntries, hCore.window_eq,
    Window.apply_map, found_gather, List.map_map, List.map_map]
  refine List.map_congr_left fun entry hEntry => ?_
  obtain ⟨hRow, hPicks⟩ := mem_keptOf hRows hEntry
  exact items_foundOf hHolds hCore hFits hScope hRow hPicks

/-- What is found comes from a stored row, and shows as many values as there are columns. -/
theorem found_node {found : Found}
    (hFound : found ∈ (Findings.gather table own (rowsRead stored core joints)
      (joints.map Joint.related)).found) :
    found.source ∈ stored.rows ∧ ∃ joined,
      found.values =
        (table.selected own.select).map (fun column => table.cell found.source column.name)
          ++ joined ∧
      joined.length = ((joints.map Joint.related).flatMap Related.columns).length := by
  rw [found_gather] at hFound
  obtain ⟨entry, hEntry, rfl⟩ := List.mem_map.mp hFound
  obtain ⟨hRow, hPicks⟩ := mem_keptOf (fun row => mem_rowsRead) hEntry
  refine ⟨hRow, _, rfl, ?_⟩
  -- Rows and columns of the select list are equally long, and so are their other parts.
  have hRowLength := congrArg List.length (items_foundOf hHolds hCore hFits hScope hRow hPicks)
  have hColumnsLength := congrArg List.length (columns_node hHolds hCore hFits hScope)
  simp only [Plan.rowOf, foundOf, Plan.core, List.length_map, List.length_append]
    at hRowLength hColumnsLength
  omega

omit hHolds hScope in
/-- A plan shows what its search shows. -/
theorem outputs_node :
    (Plan.node core (joints.map Joint.join)).outputs =
      (table.selected own.select).map OutputColumn.of ++
        (joints.map Joint.related).flatMap Related.columns := by
  rw [Plan.outputs, Plan.outputsOfJoins_eq, hCore.projection_eq]
  refine congrArg _ ?_
  rw [List.flatMap_map, List.flatMap_map]
  refine List.flatMap_congr fun joint hJoint => ?_
  have hOutputs : joint.plan.outputs = joint.findings.columns :=
    (hFits joint hJoint).represents.outputs_eq
  simp only [Joint.join, hOutputs]
  rfl

section Row

variable {found : Found} (hFound : found ∈ (Findings.gather table own
  (rowsRead stored core joints) (joints.map Joint.related)).found)

include hFound

/-- The columns of a row of a plan with their cells: those of the table stand with what the row
holds under their names. -/
theorem zip_rowOf : ∃ shown,
    (runCore stored core (selectItems core (joints.map Joint.join))
        (joints.map Joint.joined)).columns.zip
        ((Plan.node core (joints.map Joint.join)).rowOf table found) =
      (core.projection.map fun column => (column.result, table.cell found.source column.name))
        ++ shown
        ++ (core.hidden.map fun column =>
          (column.result, table.cell found.source column.name)) := by
  obtain ⟨-, joined, hValues, hJoined⟩ := found_node hHolds hCore hFits hScope hFound
  have hColumns : (runCore stored core (selectItems core (joints.map Joint.join))
      (joints.map Joint.joined)).columns = _ := columns_node hHolds hCore hFits hScope
  refine ⟨(((joints.map Joint.related).flatMap Related.columns).map OutputColumn.result).zip joined,
    ?_⟩
  rw [hColumns, Plan.rowOf, hValues, hCore.projection_eq, List.zip_append (by simp [hJoined]),
    List.map_append, List.zip_append (by simp), List.map_map, List.zip_map', Plan.core,
    List.zip_map']
  rfl

/-- A row of a plan has a cell for each column. -/
theorem length_rowOf :
    (runCore stored core (selectItems core (joints.map Joint.join))
        (joints.map Joint.joined)).columns.length =
      ((Plan.node core (joints.map Joint.join)).rowOf table found).length := by
  obtain ⟨-, joined, hValues, hJoined⟩ := found_node hHolds hCore hFits hScope hFound
  have hColumns : (runCore stored core (selectItems core (joints.map Joint.join))
      (joints.map Joint.joined)).columns = _ := columns_node hHolds hCore hFits hScope
  rw [hColumns, Plan.rowOf, hValues]
  simp [hJoined, Plan.core]

/-- A column that a plan fetches means, in a row of the plan, what the row found holds. -/
theorem cell?_rowOf
    (hNames : DistinctNames ((selectItems core (joints.map Joint.join)).map (·.name)))
    {name : String} (hFetches : (Plan.node core (joints.map Joint.join)).Fetches name)
    (label : String) :
    Binding.cell? name ⟨label, (runCore stored core (selectItems core (joints.map Joint.join))
        (joints.map Joint.joined)).columns,
      (Plan.node core (joints.map Joint.join)).rowOf table found, none⟩ =
      some (table.value found.source name) := by
  obtain ⟨column, hColumn, rfl⟩ := hFetches
  have hRow := (found_node hHolds hCore hFits hScope hFound).1
  have hMem : column ∈ table.columns := hCore.fetched_mem column hColumn
  have hDistinct : DistinctNames ((runCore stored core (selectItems core (joints.map Joint.join))
      (joints.map Joint.joined)).columns.map (·.name)) := by
    simpa [runCore, Function.comp_def] using hNames
  obtain ⟨shown, hZip⟩ := zip_rowOf hHolds hCore hFits hScope hFound
  have hPair : ∀ {columns : List Column}, column ∈ columns →
      (column.result, table.cell found.source column.name) ∈
        columns.map fun column => (column.result, table.cell found.source column.name) :=
    fun hIn => List.mem_map_of_mem
      (f := fun column : Column => (column.result, table.cell found.source column.name)) hIn
  have hStands : (column.result, table.cell found.source column.name) ∈
      (runCore stored core (selectItems core (joints.map Joint.join))
        (joints.map Joint.joined)).columns.zip
        ((Plan.node core (joints.map Joint.join)).rowOf table found) := by
    rw [hZip, List.mem_append, List.mem_append]
    rcases List.mem_append.mp hColumn with h | h
    · exact .inl (.inl (hPair h))
    · exact .inr (hPair h)
  rw [(hHolds.value_of_column? hRow (hHolds.column?_name hMem)).1]
  exact Binding.cell?_of_mem hDistinct
    (length_rowOf hHolds hCore hFits hScope hFound).le hStands label none

end Row

/-- **One plan**: its result holds what its search finds of its table, if the results of the plans
that it joins hold what is found of the relations. -/
theorem represents_node
    (hNames : DistinctNames ((selectItems core (joints.map Joint.join)).map (·.name))) :
    Represents table (.node core (joints.map Joint.join))
      (runCore stored core (selectItems core (joints.map Joint.join)) (joints.map Joint.joined))
      (Findings.gather table own (rowsRead stored core joints) (joints.map Joint.related)) where
  outputs_eq := outputs_node hCore hFits
  columns_eq := columns_node hHolds hCore hFits hScope
  columns_distinct := by simpa [runCore, Function.comp_def] using hNames
  rows_eq := rows_node hHolds hCore hFits hScope
  values_length := by
    intro found hFound
    obtain ⟨-, joined, hValues, hJoined⟩ := found_node hHolds hCore hFits hScope hFound
    rw [hValues, List.length_append, hJoined, Findings.gather]
    simp
  fetched := by
    intro found hFound name hFetches label
    exact cell?_rowOf hHolds hCore hFits hScope hFound hNames hFetches label

end Node

/-! ## All levels -/

section Levels

variable {schema : Schema ι} (hNamed : schema.WellNamed) {store : Store}
  (hStore : store.Holds schema)

include hNamed in
/-- Joined plans can be joined to the table whose relations they are plans of, if their results hold
what the searches for the relations find. -/
theorem Query.AllPlannedAs.exists_joints {key : ι} {related : List (Relation ι × Query ι)}
    {joins : List (Link × Plan)} (hJoins : Query.AllPlannedAs schema key related joins)
    (hEach : ∀ entry ∈ related, ∀ plan, entry.2.PlannedAs schema entry.1.target plan →
      let findings := entry.2.foundIn schema entry.1.target (plan.scan store)
      entry.2.Finds schema store entry.1.target findings ∧
        Represents (schema.table entry.1.target) plan (plan.eval store) findings) :
    ∃ joints : List (Joint ι), joints.map Joint.join = joins ∧
      joints.map Joint.joined = Plan.evalJoins store joins ∧
      joints.map Joint.related =
        Query.allFoundIn schema related (Plan.scanJoins store joins) ∧
      Query.AllFind schema store related (joints.map Joint.related) ∧
      ∀ joint ∈ joints, joint.Fits (schema.table key) := by
  rw [Query.allPlannedAs_iff] at hJoins
  induction hJoins with
  | nil => exact ⟨[], rfl, rfl, rfl, rfl, by simp⟩
  | @cons entry join related joins hJoin hJoins ih =>
      obtain ⟨hFirst, hRest⟩ := List.forall_mem_cons.mp hEach
      obtain ⟨hFinds, hRepresents⟩ := hFirst join.2 hJoin.planned
      obtain ⟨joints, hMap, hJoined, hFound, hAll, hFits⟩ := ih hRest
      obtain ⟨link, plan⟩ := join
      have hLink : link = entry.1.link := hJoin.link_eq
      subst hLink
      refine ⟨⟨entry.1, schema.table entry.1.target, plan, plan.eval store,
        entry.2.foundIn schema entry.1.target (plan.scan store)⟩ :: joints, ?_, ?_, ?_, ?_, ?_⟩
      · rw [List.map_cons, hMap]
        rfl
      · rw [List.map_cons, hJoined]
        rfl
      · rw [List.map_cons, hFound]
        rfl
      · exact ⟨_, _, hFinds, hAll, rfl⟩
      · rw [List.forall_mem_cons]
        exact ⟨⟨hRepresents, (hNamed key).fields_exist entry.1 hJoin.relation_mem, hJoin.fetches⟩,
          hFits⟩

include hNamed hStore

/-- **Fixed scans**: the result of a plan holds what its search finds in the rows that the plan
reads. -/
theorem Query.PlannedAs.represents_foundIn {query : Query ι} :
    ∀ {key : ι} {plan : Plan}, query.PlannedAs schema key plan → query.AsksOnce →
      query.Finds schema store key (query.foundIn schema key (plan.scan store)) ∧
        Represents (schema.table key) plan (plan.eval store)
          (query.foundIn schema key (plan.scan store)) := by
  induction query using Query.induction with
  | node own related ih =>
      intro key plan hPlanned hOnce
      have hNames := hPlanned.distinctNames hNamed hOnce
      obtain ⟨core, joins⟩ := plan
      obtain ⟨hCore, hJoins⟩ := hPlanned
      simp only [Plan.core, Plan.joins] at hCore hJoins hNames
      rw [Query.AsksOnce, Query.allAskOnce_iff] at hOnce
      have hScope := hJoins.distinct_scope hNamed hCore hOnce.1
      obtain ⟨joints, rfl, hJoined, hFound, hFinds, hFits⟩ := hJoins.exists_joints hNamed
        fun entry hEntry plan hPlan => ih entry hEntry hPlan (hOnce.2 entry hEntry)
      obtain ⟨stored, hStored, hHolds⟩ := hStore key
      have hScope' : DistinctNames
          ((schema.table key).name :: joints.map (·.relation.name)) := by
        rw [← hCore.table_eq]
        simpa [Joint.join, Function.comp_def] using hScope
      have hScan : Query.foundIn schema key (.node own related)
            (Plan.scan store (.node core (joints.map Joint.join))) =
          Findings.gather (schema.table key) own (rowsRead stored core joints)
            (joints.map Joint.related) := by
        rw [Plan.scan, Query.foundIn, ← hFound, hCore.table_eq, hStored, rowsRead, List.map_map,
          List.map_map]
        rfl
      rw [hScan]
      constructor
      · refine ⟨_, _, hFinds, ?_, rfl⟩
        rw [Store.rowsOf, hStored]
        exact stored.read_perm _
      · have hNode := represents_node hHolds hCore hFits hScope' hNames
        rw [Plan.eval, ← hJoined, hCore.table_eq, hStored]
        exact hNode

/-- **All levels**: the result of a plan holds what its search finds. -/
theorem Query.PlannedAs.represents {query : Query ι} {key : ι} {plan : Plan}
    (hPlanned : query.PlannedAs schema key plan) (hOnce : query.AsksOnce) :
    ∃ findings, query.Finds schema store key findings ∧
      Represents (schema.table key) plan (plan.eval store) findings :=
  ⟨_, hPlanned.represents_foundIn hNamed hStore hOnce⟩

end Levels

end ModelStore
