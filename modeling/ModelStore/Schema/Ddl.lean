import ModelStore.Schema.Basic
import ModelStore.Sql.Name

/-!
# Statements that create tables

The statement that creates a table if there is none of its name: its columns in order, each with its storage type,
constraints and default.

## Main definitions

* `ColumnType.sqlType`: the storage type.
* `Table.createSql`: the statement.
-/

namespace ModelStore

/-- The storage type of a column type. -/
def ColumnType.sqlType : ColumnType → String
  | .text => "TEXT"
  | .integer | .boolean | .timestamp => "INTEGER"
  | .real => "REAL"

/-- The default that the store applies, if it is the store's to apply. -/
def DefaultRule.sql : DefaultRule → Option String
  | .none | .uuid => Option.none
  | .unixEpoch => some "(strftime('%s','now'))"
  | .text s => some (Sql.quoteText s)
  | .integer i => some (toString i)
  | .boolean b => some (if b then "1" else "0")

/-- The definition of a column. -/
def Column.sql (column : Column) : String :=
  Sql.quoteName column.name ++ " " ++ column.type.sqlType
    ++ (if column.primaryKey then " PRIMARY KEY" else "")
    ++ (if column.nullable then "" else " NOT NULL")
    ++ (if column.unique then " UNIQUE" else "")
    ++ (match column.initial.sql with
        | some value => " DEFAULT " ++ value
        | none => "")

/-- What stands before the columns of a table. -/
def Table.createHead {ι : Type} (table : Table ι) : String :=
  "CREATE TABLE IF NOT EXISTS " ++ Sql.quoteName table.name ++ " ("

/-- The statement that creates the table. -/
def Table.createSql {ι : Type} (table : Table ι) : String :=
  table.createHead ++ String.intercalate ", " (table.columns.map Column.sql) ++ ")"

end ModelStore
