import ModelStore.Proofs.Sql.Pieces
import ModelStore.Schema.Ddl

/-!
# The statement that creates a table, in pieces

Table and column names stand in the statement between double quotes, and a text default between
single ones.  Nothing else in it comes from outside, and it has no placeholders, so it can be read
from end to end just if no null character stands in one of these.  What creation looks for in the
names and defaults of columns is therefore found while the statement is read, too.

## Main definitions

* `Column.pieces`, `Table.createPieces`: the pieces of a column and of the whole statement.

## Main results

* `Table.readingFault_createSql`: when the statement is read without a fault.
-/

namespace ModelStore

open Sql (Piece textOf valuesOf WellSpaced quoteName quoteText)
open Sql.Piece (IsPlain)

/-! ## Columns -/

/-- The pieces of the default that the store applies. -/
def DefaultRule.pieces : DefaultRule → List Piece
  | .none | .uuid => []
  | .unixEpoch =>
    [.plain " DEFAULT (strftime(", .quoted '\'' "%s", .plain ",", .quoted '\'' "now", .plain "))"]
  | .text s => [.plain " DEFAULT ", .quoted '\'' s]
  | .integer i => [.plain (" DEFAULT " ++ toString i)]
  | .boolean b => [.plain (" DEFAULT " ++ if b then "1" else "0")]

/-- What stands between the name of a column and its default. -/
def Column.constraints (column : Column) : String :=
  " " ++ column.type.sqlType
    ++ (if column.primaryKey then " PRIMARY KEY" else "")
    ++ (if column.nullable then "" else " NOT NULL")
    ++ (if column.unique then " UNIQUE" else "")

/-- The pieces of the definition of a column. -/
def Column.pieces (column : Column) : List Piece :=
  .name column.name :: .plain column.constraints :: column.initial.pieces

theorem DefaultRule.textOf_pieces (rule : DefaultRule) :
    textOf rule.pieces =
      (match rule.sql with
        | some value => " DEFAULT " ++ value
        | Option.none => "").toList := by
  cases rule with
  | text s => simp [pieces, DefaultRule.sql, Piece.chars, quoteText]
  | unixEpoch => simp [pieces, DefaultRule.sql, Piece.chars, Sql.quoted, Sql.doubled]
  | _ => simp [pieces, DefaultRule.sql]

theorem Column.textOf_pieces (column : Column) :
    textOf column.pieces = column.sql.toList := by
  rw [Column.pieces, Sql.textOf_cons, Sql.textOf_cons, DefaultRule.textOf_pieces, Column.sql]
  cases column.initial.sql <;> simp [Column.constraints]

theorem Column.isPlain_constraints (column : Column) : IsPlain column.constraints := by
  have hType : IsPlain (" " ++ column.type.sqlType) := by
    cases column.type <;> simp [IsPlain, ColumnType.sqlType]
  have hNone : IsPlain "" := by simp [IsPlain]
  have hFlag (flag : Bool) {a b : String} (ha : IsPlain a) (hb : IsPlain b) :
      IsPlain (if flag then a else b) := by
    cases flag
    · exact hb
    · exact ha
  refine ((hType.append ?_).append ?_).append ?_
  · exact hFlag _ (by simp [IsPlain]) hNone
  · exact hFlag _ hNone (by simp [IsPlain])
  · exact hFlag _ (by simp [IsPlain]) hNone

theorem DefaultRule.wellSpaced_pieces (rule : DefaultRule) : WellSpaced rule.pieces := by
  have hDefault : (Piece.plain " DEFAULT ").WellFormed := by
    simp [Piece.WellFormed, IsPlain]
  cases rule with
  | none => exact .nil
  | uuid => exact .nil
  | unixEpoch =>
      refine .cons (.cons_cons (.cons (.cons_cons (.singleton ?_) ?_ rfl) ?_ rfl) ?_ rfl) ?_ rfl
      all_goals simp [Piece.WellFormed, IsPlain]
  | text s => exact .cons (.singleton (.inr rfl)) hDefault rfl
  | integer i => exact .singleton ⟨by simp, hDefault.2.append (Piece.isPlain_ofInt i)⟩
  | boolean b =>
      refine .singleton ⟨by simp, hDefault.2.append ?_⟩
      cases b <;> simp [IsPlain]

theorem Column.wellSpaced_pieces (column : Column) : WellSpaced column.pieces := by
  have hPlain : (Piece.plain column.constraints).WellFormed :=
    ⟨by simp [Column.constraints], column.isPlain_constraints⟩
  exact .cons_cons (.cons column.initial.wellSpaced_pieces hPlain rfl) (.inl rfl) rfl

/-- A definition has no placeholders. -/
theorem Column.valuesOf_pieces (column : Column) : valuesOf column.pieces = [] := by
  rw [Column.pieces, Sql.valuesOf_name, Sql.valuesOf_plain]
  cases column.initial <;> rfl

/-- A definition is read just if no null character stands in the name or in the default. -/
theorem Column.readable_pieces (column : Column) :
    (∀ piece ∈ column.pieces, piece.isReadable = true) ↔
      '\x00' ∉ column.name.toList ∧ '\x00' ∉ (column.initial.sql.getD "").toList := by
  have hDefault : (∀ piece ∈ column.initial.pieces, piece.isReadable = true) ↔
      '\x00' ∉ (column.initial.sql.getD "").toList := by
    rw [Sql.readable_iff column.initial.wellSpaced_pieces.1, DefaultRule.textOf_pieces]
    cases column.initial.sql <;> simp
  rw [Column.pieces, List.forall_mem_cons, List.forall_mem_cons, hDefault]
  simp [Piece.isReadable, Piece.name]

/-! ## Tables -/

namespace Table

variable {ι : Type}

/-- The pieces of the statement that creates a table. -/
def createPieces (table : Table ι) : List Piece :=
  .plain "CREATE TABLE IF NOT EXISTS " :: .name table.name :: .plain " (" ::
    ([Piece.plain ", "].intercalate (table.columns.map Column.pieces) ++ [.plain ")"])

theorem textOf_createPieces (table : Table ι) :
    table.createSql.toList = textOf table.createPieces := by
  have hColumns : (table.columns.map Column.pieces).map textOf =
      (table.columns.map Column.sql).map String.toList := by
    simp [Function.comp_def, Column.textOf_pieces]
  rw [createPieces, Sql.textOf_cons, Sql.textOf_cons, Sql.textOf_cons, Sql.textOf_append,
    Sql.textOf_intercalate, hColumns]
  unfold createSql createHead
  simp only [String.toList_append, String.toList_intercalate]
  simp only [Sql.chars_plain, Sql.chars_name, Sql.textOf_cons, Sql.textOf_nil, List.append_assoc,
    List.append_nil]

theorem wellSpaced_createPieces (table : Table ι) : WellSpaced table.createPieces := by
  have hComma : (Piece.plain ", ").WellFormed := by simp [Piece.WellFormed, IsPlain]
  have hClose : WellSpaced [Piece.plain ")"] :=
    .singleton (by simp [Piece.WellFormed, IsPlain])
  have hColumns : WellSpaced ([Piece.plain ", "].intercalate (table.columns.map Column.pieces)) :=
    .intercalate hComma fun part hPart => by
      obtain ⟨column, -, rfl⟩ := List.mem_map.mp hPart
      exact column.wellSpaced_pieces
  have hBody := hColumns.append hClose (by simp [Piece.isQuoted])
  refine .cons (.cons_cons (.cons hBody ?_ rfl) (.inl rfl) rfl) ?_ rfl
  all_goals simp [Piece.WellFormed, IsPlain]

theorem valuesOf_createPieces (table : Table ι) : valuesOf table.createPieces = [] := by
  simp [createPieces, Sql.valuesOf_intercalate, Column.valuesOf_pieces]

/-- **Reading the statement that creates a table**: it has no fault just if no null character
stands in the name of the table, in that of a column or in a default. -/
theorem readingFault_createSql (table : Table ι) :
    Sql.readingFault table.createSql = none ↔
      '\x00' ∉ table.name.toList ∧
        ∀ column ∈ table.columns,
          '\x00' ∉ column.name.toList ∧ '\x00' ∉ (column.initial.sql.getD "").toList := by
  rw [Sql.readingFault_eq_none_iff table.wellSpaced_createPieces table.textOf_createPieces,
    table.valuesOf_createPieces]
  have hColumns := Sql.forall_mem_intercalate (motive := fun piece => piece.isReadable = true)
    (Sql.isReadable_plain ", ") (table.columns.map Column.pieces)
  rw [List.forall_mem_map] at hColumns
  simp only [Column.readable_pieces] at hColumns
  rw [createPieces, List.forall_mem_cons, List.forall_mem_cons, List.forall_mem_cons,
    List.forall_mem_append, hColumns]
  simp [Piece.isReadable, Piece.name]

end Table

end ModelStore
