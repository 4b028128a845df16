import ModelStore.Proofs.Query.Rendering
import ModelStore.Query.Statement

/-!
# The texts of statements, in pieces

The text of every statement is put together from pieces, as that of a plan is.  Each placeholder
stands where its value belongs: in a change behind the column that gets the value, in an insertion
in the same place among the values as the column among the columns, in a condition behind the
column that is compared.

## Main definitions

* `Statement.pieces`: the pieces of a statement.
* `Statement.NamesHave`: the names that a statement uses have some property.

## Main results

* `Statement.textOf_pieces`, `Statement.valuesOf_pieces`: the text of a statement is that of its
  pieces, and its parameters are the values of their placeholders.
* `Statement.readingFault_eq_none_iff`: a statement is read unless it has too many parameters.
* `Statement.NamesHave.uses_pieces`: besides words and placeholders, the pieces of a statement are
  the names that it uses.
-/

namespace ModelStore

open Sql (Expr Piece WellSpaced textOf valuesOf quoteName)

namespace Statement

/-! ## Pieces -/

/-- The pieces of the names of some columns. -/
def namePieces (columns : List Column) : List Piece :=
  [Piece.plain ", "].intercalate (columns.map fun column => [.name column.name])

/-- The pieces of the clause of the columns that are returned. -/
def returningPieces : Option (List Column) → List Piece
  | some columns => .plain " RETURNING " :: namePieces columns
  | none => []

/-- The pieces of what stands behind the table of an insertion. -/
def insertPieces (values : Assignments) : List Piece :=
  if values.isEmpty then [.plain " DEFAULT VALUES"]
  else
    .plain " (" :: (namePieces (values.map (·.1)) ++ .plain ") VALUES (" ::
      ([Piece.plain ", "].intercalate ((values.map (·.2)).map fun value => [.hole value]) ++
        [.plain ")"]))

/-- The pieces of a new value for a column. -/
def assignmentPiece (entry : Column × Cell) : List Piece :=
  [.name entry.1.name, .plain " = ", .hole entry.2]

/-- The pieces of the new values of a change. -/
def assignmentPieces (values : Assignments) : List Piece :=
  [Piece.plain ", "].intercalate (values.map assignmentPiece)

/-- The pieces of a statement. -/
def pieces : Statement → List Piece
  | find plan => plan.pieces
  | first table columns predicate =>
    .plain "SELECT " :: (namePieces columns ++ .plain " FROM " :: .name table ::
      (Sql.wherePieces predicate ++ [.plain " LIMIT 1"]))
  | insert table values returned =>
    .plain "INSERT INTO " :: .name table ::
      (insertPieces values ++ returningPieces (some returned))
  | update table values predicate returned =>
    .plain "UPDATE " :: .name table :: .plain " SET " ::
      (assignmentPieces values ++ (Sql.wherePieces predicate ++ returningPieces returned))
  | delete table predicate returned =>
    .plain "DELETE FROM " :: .name table ::
      (Sql.wherePieces predicate ++ returningPieces returned)
  | count table predicate =>
    .plain "SELECT COUNT(*) FROM " :: .name table :: Sql.wherePieces predicate

/-! ## Texts -/

theorem textOf_namePieces (columns : List Column) :
    textOf (namePieces columns) = (nameList columns).toList := by
  rw [namePieces, nameList, Sql.textOf_intercalate, String.toList_intercalate]
  simp [Function.comp_def]

theorem textOf_returningPieces (returned : Option (List Column)) :
    textOf (returningPieces returned) = (returning returned).toList := by
  cases returned with
  | none => rfl
  | some columns =>
      rw [returningPieces, returning, Sql.textOf_cons, textOf_namePieces, String.toList_append]
      rfl

theorem textOf_insertPieces (values : Assignments) :
    textOf (insertPieces values) = (insertBody values).toList := by
  unfold insertPieces insertBody
  split
  · simp
  · have hHoles := Sql.textOf_holes (values.map (·.2))
    rw [List.length_map] at hHoles
    simp only [Sql.textOf_cons, Sql.textOf_append, textOf_namePieces, hHoles, String.toList_append]
    simp

theorem textOf_assignmentPieces (values : Assignments) :
    textOf (assignmentPieces values) = (assignmentList values).toList := by
  have hEach : ∀ entry : Column × Cell,
      textOf (assignmentPiece entry) = (quoteName entry.1.name ++ " = ?").toList := by
    intro entry
    rw [String.toList_append]
    rfl
  rw [assignmentPieces, assignmentList, Sql.textOf_intercalate, String.toList_intercalate,
    List.map_map, List.map_map, Function.comp_def]
  simp only [hEach]
  rfl

/-- The text of a statement is that of its pieces. -/
theorem textOf_pieces (statement : Statement) : statement.sql.toList = textOf statement.pieces := by
  unfold sql
  cases statement with
  | find plan => exact plan.textOf_pieces
  | first table columns predicate =>
      simp [pieces, textOf_namePieces, Sql.textOf_wherePieces]
  | insert table values returned =>
      simp [pieces, textOf_insertPieces, textOf_returningPieces]
  | update table values predicate returned =>
      simp [pieces, textOf_assignmentPieces, Sql.textOf_wherePieces, textOf_returningPieces]
  | delete table predicate returned =>
      simp [pieces, Sql.textOf_wherePieces, textOf_returningPieces]
  | count table predicate => simp [pieces, Sql.textOf_wherePieces]

/-! ## Values -/

@[simp] theorem valuesOf_namePieces (columns : List Column) : valuesOf (namePieces columns) = [] := by
  simp [namePieces, Sql.valuesOf_intercalate]

@[simp] theorem valuesOf_returningPieces (returned : Option (List Column)) :
    valuesOf (returningPieces returned) = [] := by
  cases returned <;> simp [returningPieces]

theorem valuesOf_insertPieces (values : Assignments) :
    valuesOf (insertPieces values) = values.map (·.2) := by
  unfold insertPieces
  split
  · rename_i hEmpty
    rw [List.isEmpty_iff.mp hEmpty]
    rfl
  · simp [Sql.valuesOf_intercalate, List.flatMap_map, ← List.map_eq_flatMap]

theorem valuesOf_assignmentPieces (values : Assignments) :
    valuesOf (assignmentPieces values) = values.map (·.2) := by
  rw [assignmentPieces, Sql.valuesOf_intercalate]
  simp [assignmentPiece, List.flatMap_map, ← List.map_eq_flatMap]

/-- The values of the placeholders of a statement are its parameters. -/
theorem valuesOf_pieces (statement : Statement) : valuesOf statement.pieces = statement.params := by
  cases statement with
  | find plan => exact plan.valuesOf_pieces
  | first table columns predicate => simp [pieces, params, Sql.valuesOf_wherePieces]
  | insert table values returned => simp [pieces, params, valuesOf_insertPieces]
  | update table values predicate returned =>
      simp [pieces, params, valuesOf_assignmentPieces, Sql.valuesOf_wherePieces]
  | delete table predicate returned => simp [pieces, params, Sql.valuesOf_wherePieces]
  | count table predicate => simp [pieces, params, Sql.valuesOf_wherePieces]

/-! ## Names -/

/-- The names that a statement uses have some property. -/
def NamesHave (property : String → Prop) : Statement → Prop
  | find plan => ∀ piece ∈ plan.pieces, piece.Uses property
  | first table columns predicate =>
    property table ∧ (∀ column ∈ columns, property column.name) ∧
      ∀ e ∈ predicate, ∀ piece ∈ e.ref.pieces, piece.Uses property
  | insert table values returned =>
    property table ∧ (∀ entry ∈ values, property entry.1.name) ∧
      ∀ column ∈ returned, property column.name
  | update table values predicate returned =>
    property table ∧ (∀ entry ∈ values, property entry.1.name) ∧
      (∀ e ∈ predicate, ∀ piece ∈ e.ref.pieces, piece.Uses property) ∧
      ∀ column ∈ returned.getD [], property column.name
  | delete table predicate returned =>
    property table ∧ (∀ e ∈ predicate, ∀ piece ∈ e.ref.pieces, piece.Uses property) ∧
      ∀ column ∈ returned.getD [], property column.name
  | count table predicate =>
    property table ∧ ∀ e ∈ predicate, ∀ piece ∈ e.ref.pieces, piece.Uses property

section Uses

variable {property : String → Prop}

theorem uses_namePieces {columns : List Column}
    (hColumns : ∀ column ∈ columns, property column.name) :
    ∀ piece ∈ namePieces columns, piece.Uses property := by
  refine uses_list ?_
  rw [List.forall_mem_map]
  intro column hColumn
  exact List.forall_mem_singleton.mpr (uses_name.mpr (hColumns column hColumn))

theorem uses_returningPieces {returned : Option (List Column)}
    (hColumns : ∀ column ∈ returned.getD [], property column.name) :
    ∀ piece ∈ returningPieces returned, piece.Uses property := by
  cases returned with
  | none => simp [returningPieces]
  | some columns =>
      exact List.forall_mem_cons.mpr ⟨uses_plain (by decide), uses_namePieces hColumns⟩

theorem uses_insertPieces {values : Assignments}
    (hColumns : ∀ entry ∈ values, property entry.1.name) :
    ∀ piece ∈ insertPieces values, piece.Uses property := by
  unfold insertPieces
  split
  · exact List.forall_mem_singleton.mpr (uses_plain (by decide))
  · rw [List.forall_mem_cons, List.forall_mem_append, List.forall_mem_cons, List.forall_mem_append,
      List.forall_mem_singleton]
    have hNames : ∀ column ∈ values.map (·.1), property column.name :=
      List.forall_mem_map.mpr hColumns
    exact ⟨uses_plain (by decide), uses_namePieces hNames, uses_plain (by decide), uses_holes _,
      uses_plain (by decide)⟩

theorem uses_assignmentPieces {values : Assignments}
    (hColumns : ∀ entry ∈ values, property entry.1.name) :
    ∀ piece ∈ assignmentPieces values, piece.Uses property := by
  refine uses_list ?_
  rw [List.forall_mem_map]
  intro entry hEntry
  rw [assignmentPiece, List.forall_mem_cons, List.forall_mem_cons, List.forall_mem_singleton]
  exact ⟨uses_name.mpr (hColumns entry hEntry), uses_plain (by decide), uses_hole _⟩

/-- **The names in a statement**: besides words and placeholders, its pieces are the names that it
uses. -/
theorem NamesHave.uses_pieces {statement : Statement} (hNames : statement.NamesHave property) :
    ∀ piece ∈ statement.pieces, piece.Uses property := by
  cases statement with
  | find plan => exact hNames
  | first table columns predicate =>
      obtain ⟨hTable, hColumns, hPredicate⟩ := hNames
      rw [pieces, List.forall_mem_cons, List.forall_mem_append, List.forall_mem_cons,
        List.forall_mem_cons, List.forall_mem_append, List.forall_mem_singleton]
      exact ⟨uses_plain (by decide), uses_namePieces hColumns, uses_plain (by decide),
        uses_name.mpr hTable, uses_wherePieces hPredicate, uses_plain (by decide)⟩
  | insert table values returned =>
      obtain ⟨hTable, hValues, hReturned⟩ := hNames
      rw [pieces, List.forall_mem_cons, List.forall_mem_cons, List.forall_mem_append]
      exact ⟨uses_plain (by decide), uses_name.mpr hTable, uses_insertPieces hValues,
        uses_returningPieces hReturned⟩
  | update table values predicate returned =>
      obtain ⟨hTable, hValues, hPredicate, hReturned⟩ := hNames
      rw [pieces, List.forall_mem_cons, List.forall_mem_cons, List.forall_mem_cons,
        List.forall_mem_append, List.forall_mem_append]
      exact ⟨uses_plain (by decide), uses_name.mpr hTable, uses_plain (by decide),
        uses_assignmentPieces hValues, uses_wherePieces hPredicate,
        uses_returningPieces hReturned⟩
  | delete table predicate returned =>
      obtain ⟨hTable, hPredicate, hReturned⟩ := hNames
      rw [pieces, List.forall_mem_cons, List.forall_mem_cons, List.forall_mem_append]
      exact ⟨uses_plain (by decide), uses_name.mpr hTable, uses_wherePieces hPredicate,
        uses_returningPieces hReturned⟩
  | count table predicate =>
      obtain ⟨hTable, hPredicate⟩ := hNames
      rw [pieces, List.forall_mem_cons, List.forall_mem_cons]
      exact ⟨uses_plain (by decide), uses_name.mpr hTable, uses_wherePieces hPredicate⟩

end Uses

/-! ## Spacing -/

section Spacing

/-- A word of a statement is what it is called. -/
theorem wellFormed_word (text : String) (hWord : text ∈ words) : (Piece.plain text).WellFormed :=
  have hUses : (Piece.plain text).Uses fun _ => True := uses_plain hWord
  hUses.wellFormed

theorem wellSpaced_list {parts : List (List Piece)} (hParts : ∀ part ∈ parts, WellSpaced part) :
    WellSpaced ([Piece.plain ", "].intercalate parts) :=
  .intercalate (wellFormed_word _ (by decide)) hParts

theorem wellSpaced_namePieces (columns : List Column) : WellSpaced (namePieces columns) := by
  refine wellSpaced_list ?_
  rw [List.forall_mem_map]
  exact fun _ _ => .singleton (.inl rfl)

theorem wellSpaced_returningPieces (returned : Option (List Column)) :
    WellSpaced (returningPieces returned) := by
  cases returned with
  | none => exact .nil
  | some columns => exact .cons (wellSpaced_namePieces columns) (wellFormed_word _ (by decide)) rfl

theorem head?_returningPieces (returned : Option (List Column)) :
    ∀ piece ∈ (returningPieces returned).head?, piece.isQuoted = false := by
  cases returned <;> simp [returningPieces, Piece.isQuoted]

theorem wellSpaced_insertPieces (values : Assignments) : WellSpaced (insertPieces values) := by
  unfold insertPieces
  split
  · exact .singleton (wellFormed_word _ (by decide))
  · have hHoles : WellSpaced
        ([Piece.plain ", "].intercalate ((values.map (·.2)).map fun value => [.hole value])) := by
      refine wellSpaced_list ?_
      rw [List.forall_mem_map]
      exact fun _ _ => .singleton trivial
    have hEnd := hHoles.append (.singleton (wellFormed_word ")" (by decide)))
      (by simp [Piece.isQuoted])
    have hRest := (wellSpaced_namePieces (values.map (·.1))).append
      (hEnd.cons (wellFormed_word ") VALUES (" (by decide)) rfl)
      (by simp [Piece.isQuoted])
    exact hRest.cons (wellFormed_word _ (by decide)) rfl

theorem head?_insertPieces (values : Assignments) :
    ∀ piece ∈ (insertPieces values).head?, piece.isQuoted = false := by
  unfold insertPieces
  split <;> simp [Piece.isQuoted]

theorem wellSpaced_assignmentPieces (values : Assignments) :
    WellSpaced (assignmentPieces values) := by
  refine wellSpaced_list ?_
  rw [List.forall_mem_map]
  intro entry _
  have hHole : WellSpaced [Piece.plain " = ", .hole entry.2] :=
    .cons (.singleton trivial) (wellFormed_word _ (by decide)) rfl
  exact hHole.cons_cons (.inl rfl) rfl

/-- A word, the name of a table, and what begins with no quoted piece. -/
theorem wellSpaced_onTable {word : String} (hWord : word ∈ words) (table : String)
    {rest : List Piece} (hRest : WellSpaced rest)
    (hHead : ∀ piece ∈ rest.head?, piece.isQuoted = false) :
    WellSpaced (.plain word :: .name table :: rest) := by
  have hTable : WellSpaced [Piece.name table] := .singleton (.inl rfl)
  exact (hTable.append hRest hHead).cons (wellFormed_word _ hWord) rfl

/-- **Spacing**: no two quoted pieces of a statement touch. -/
theorem wellSpaced_pieces (statement : Statement) : WellSpaced statement.pieces := by
  cases statement with
  | find plan => exact plan.wellSpaced_pieces
  | first table columns predicate =>
      have hEnd := (Sql.wellSpaced_wherePieces predicate).append
        (.singleton (wellFormed_word " LIMIT 1" (by decide))) (by simp [Piece.isQuoted])
      have hFrom : " FROM " ∈ words := by decide
      have hTable := wellSpaced_onTable hFrom table hEnd
        (Sql.head?_append_isQuoted (Sql.head?_wherePieces predicate) (by simp [Piece.isQuoted]))
      have hRest := (wellSpaced_namePieces columns).append hTable (by simp [Piece.isQuoted])
      exact hRest.cons (wellFormed_word _ (by decide)) rfl
  | insert table values returned =>
      refine wellSpaced_onTable (by decide) table
        ((wellSpaced_insertPieces values).append (wellSpaced_returningPieces _)
          (head?_returningPieces _)) ?_
      exact Sql.head?_append_isQuoted (head?_insertPieces values) (head?_returningPieces _)
  | update table values predicate returned =>
      have hEnd := (Sql.wellSpaced_wherePieces predicate).append
        (wellSpaced_returningPieces returned) (head?_returningPieces returned)
      have hRest := (wellSpaced_assignmentPieces values).append hEnd
        (Sql.head?_append_isQuoted (Sql.head?_wherePieces predicate)
          (head?_returningPieces returned))
      exact wellSpaced_onTable (by decide) table (hRest.cons (wellFormed_word _ (by decide)) rfl)
        (by simp [Piece.isQuoted])
  | delete table predicate returned =>
      exact wellSpaced_onTable (by decide) table
        ((Sql.wellSpaced_wherePieces predicate).append (wellSpaced_returningPieces returned)
          (head?_returningPieces returned))
        (Sql.head?_append_isQuoted (Sql.head?_wherePieces predicate)
          (head?_returningPieces returned))
  | count table predicate =>
      exact wellSpaced_onTable (by decide) table (Sql.wellSpaced_wherePieces predicate)
        (Sql.head?_wherePieces predicate)

end Spacing

/-- The pieces of a statement are what they are called. -/
theorem wellFormed_pieces (statement : Statement) :
    ∀ piece ∈ statement.pieces, piece.WellFormed :=
  statement.wellSpaced_pieces.1

/-- **Reading a statement**: where no name breaks it off, it has no fault just if it does not have
too many parameters. -/
theorem readingFault_eq_none_iff {statement : Statement}
    (hLegible : statement.NamesHave Legible) :
    Sql.readingFault statement.sql = none ↔ statement.params.length ≤ Sql.placeholderLimit := by
  rw [Sql.readingFault_eq_none_iff statement.wellSpaced_pieces statement.textOf_pieces,
    statement.valuesOf_pieces]
  exact and_iff_right fun piece hPiece => (hLegible.uses_pieces piece hPiece).isReadable

end Statement

end ModelStore
