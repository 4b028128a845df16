import ModelStore.Query.Statement
import ModelStore.Text.Utf8

/-!
# Rows as JSON

A fetched row is an object: its columns under their names, in the order in which the statement returns them. Of
several columns with one name the last value stands in the place of the first. Booleans are stored as integers and
come back as booleans; an infinity has no JSON number and is null.

## Main definitions

* `Cell.toJson`: the JSON value of a cell.
* `Answer.records`: the rows of an answer.
-/

namespace ModelStore

/-- A row as an object. -/
abbrev Record := Fields Json

/-! ## Cells -/

/-- The JSON value of a cell of a column of the type given. -/
def Cell.toJson (type : ColumnType) : Cell → Json
  | .null => .null
  | .int i => if type = .boolean then .bool (i != 0) else .int i
  | .real (.infinite _) => .null
  | .real x => .real x
  | .text s => .text s
  | .rawText bytes => .text (String.ofList (Text.decodeLossy bytes))
  | .blob bytes => .list (bytes.map fun b => .int b.toNat)

/-- The object of a row. -/
def recordOf (columns : List OutputColumn) (cells : List Cell) : Record :=
  Fields.setAll [] ((columns.zip cells).map fun (column, cell) => (column.name, cell.toJson column.type))

/-- The rows of an answer, under the columns of its statement. -/
def Answer.records (answer : Answer) (columns : List OutputColumn) : List Record :=
  answer.rows.map (recordOf columns)

end ModelStore
