import ModelStore.Json.Basic
import ModelStore.Store.Table

/-!
# Images of stores

A store that lies in a file is kept there as a JSON document. The image holds everything that a store is: the tables
in the order of their creation, their columns and constraints, and every cell with its class, so that a real number
and bytes that are no text survive as they are.

## Main definitions

* `Store.image`, `Store.ofImage?`: the image of a store, and the store of an image.

## Main results

* `Store.ofImage?_image`: an image holds the whole store.
-/

namespace ModelStore

/-! ## Bytes -/

/-- The image of some bytes. -/
def bytesImage (bytes : List UInt8) : Json := .list (bytes.map fun b => .int b.toNat)

/-- The byte of an image. -/
def byteOfImage? : Json → Option UInt8
  | .int i => some (UInt8.ofNat i.toNat)
  | _ => none

/-- The bytes of an image. -/
def bytesOfImage? : Json → Option (List UInt8)
  | .list items => items.mapM byteOfImage?
  | _ => none

/-! ## Cells -/

/-- The image of a cell. Integers and text stand for themselves, and the other classes are named. -/
def Cell.image : Cell → Json
  | .null => .null
  | .int i => .int i
  | .real (.infinite negative) => .object [("infinite", .bool negative)]
  | .real (.finite negative m e) => .object [("real", .list [.bool negative, .int m, .int e])]
  | .text s => .text s
  | .rawText bytes => .object [("bytes", bytesImage bytes)]
  | .blob bytes => .object [("blob", bytesImage bytes)]

/-- The cell of an image. -/
def Cell.ofImage? : Json → Option Cell
  | .null => some .null
  | .int i => some (.int i)
  | .text s => some (.text s)
  | .object [(kind, value)] =>
    match kind, value with
    | "infinite", .bool negative => some (.real (.infinite negative))
    | "real", .list [.bool negative, .int m, .int e] => some (.real (.finite negative m.toNat e))
    | "bytes", value => (bytesOfImage? value).map .rawText
    | "blob", value => (bytesOfImage? value).map .blob
    | _, _ => none
  | _ => none

/-! ## Columns -/

/-- The affinities. -/
def Affinity.all : List Affinity := [.none, .text, .integer, .real]

/-- The name of an affinity. -/
def Affinity.name : Affinity → String
  | .none => "none"
  | .text => "text"
  | .integer => "integer"
  | .real => "real"

/-- The affinity of a name. -/
def Affinity.ofName? (name : String) : Option Affinity := Affinity.all.find? (·.name == name)

/-- The image of a default. -/
def StoredDefault.image : StoredDefault → Json
  | .value cell => .list [cell.image]
  | .time => .text "time"

/-- The default of an image. -/
def StoredDefault.ofImage? : Json → Option StoredDefault
  | .list [cell] => (Cell.ofImage? cell).map .value
  | .text "time" => some .time
  | _ => none

/-- The image of a column. -/
def StoredColumn.image (column : StoredColumn) : Json :=
  .list [.text column.name, .text column.affinity.name, .bool column.notNull, column.initial.image]

/-- The column of an image. -/
def StoredColumn.ofImage? : Json → Option StoredColumn
  | .list [.text name, .text affinity, .bool notNull, initial] => do
    return ⟨name, ← Affinity.ofName? affinity, notNull, ← StoredDefault.ofImage? initial⟩
  | _ => none

/-! ## Tables -/

/-- The image of a row. -/
def StoredRow.image (row : StoredRow) : Json := .list (.int row.id :: row.cells.map Cell.image)

/-- The row of an image. -/
def StoredRow.ofImage? : Json → Option StoredRow
  | .list (.int id :: cells) => do return ⟨id, ← cells.mapM Cell.ofImage?⟩
  | _ => none

/-- The place of a column of an image. -/
def placeOfImage? : Json → Option Nat
  | .int i => some i.toNat
  | _ => none

/-- The image of a table. -/
def StoredTable.image (table : StoredTable) : Json :=
  .object
    [ ("name", .text table.name)
    , ("columns", .list (table.columns.map StoredColumn.image))
    , ("rowId", .list (table.rowId.toList.map Json.ofNat))
    , ("distinct", .list (table.distinct.map Json.ofNat))
    , ("rows", .list (table.rows.map StoredRow.image)) ]

/-- The table of an image. -/
def StoredTable.ofImage? : Json → Option StoredTable
  | .object [(_, .text name), (_, .list columns), (_, .list rowId), (_, .list distinct), (_, .list rows)] => do
    return {
      name := name
      columns := ← columns.mapM StoredColumn.ofImage?
      rowId := (← rowId.mapM placeOfImage?).head?
      distinct := ← distinct.mapM placeOfImage?
      rows := ← rows.mapM StoredRow.ofImage? }
  | _ => none

/-! ## Stores -/

/-- The image of a store. -/
def Store.image (store : Store) : Json := .object [("tables", .list (store.map StoredTable.image))]

/-- The store of an image. -/
def Store.ofImage? : Json → Option Store
  | .object [("tables", .list tables)] => tables.mapM StoredTable.ofImage?
  | _ => none

/-! ## An image holds the whole store -/

/-- What is read item by item comes back whole if every item does. -/
private theorem mapM_map_of_inverse {α β : Type} {write : α → β} {read : β → Option α}
    (h : ∀ a, read (write a) = some a) (items : List α) : (items.map write).mapM read = some items := by
  induction items with
  | nil => rfl
  | cons a rest ih => simp [List.mapM_cons, h, ih]

private theorem byteOfImage?_image (b : UInt8) : byteOfImage? (.int b.toNat) = some b := by
  simp [byteOfImage?]

private theorem bytesOfImage?_image (bytes : List UInt8) : bytesOfImage? (bytesImage bytes) = some bytes :=
  mapM_map_of_inverse byteOfImage?_image bytes

/-- The image of a cell holds the cell. -/
theorem Cell.ofImage?_image (cell : Cell) : Cell.ofImage? cell.image = some cell := by
  cases cell with
  | real x => cases x <;> simp [Cell.image, Cell.ofImage?]
  | rawText bytes => simp [Cell.image, Cell.ofImage?, bytesOfImage?_image]
  | blob bytes => simp [Cell.image, Cell.ofImage?, bytesOfImage?_image]
  | _ => rfl

private theorem Affinity.ofName?_name (affinity : Affinity) : Affinity.ofName? affinity.name = some affinity := by
  cases affinity <;> rfl

private theorem StoredDefault.ofImage?_image (initial : StoredDefault) :
    StoredDefault.ofImage? initial.image = some initial := by
  cases initial <;> simp [StoredDefault.image, StoredDefault.ofImage?, Cell.ofImage?_image]

private theorem StoredColumn.ofImage?_image (column : StoredColumn) :
    StoredColumn.ofImage? column.image = some column := by
  simp [StoredColumn.image, StoredColumn.ofImage?, Affinity.ofName?_name, StoredDefault.ofImage?_image]

private theorem StoredRow.ofImage?_image (row : StoredRow) : StoredRow.ofImage? row.image = some row := by
  simp [StoredRow.image, StoredRow.ofImage?, mapM_map_of_inverse Cell.ofImage?_image]

private theorem placeOfImage?_image (i : Nat) : placeOfImage? (Json.ofNat i) = some i := by
  simp [placeOfImage?, Json.ofNat]

/-- The image of a table holds the table. -/
theorem StoredTable.ofImage?_image (table : StoredTable) : StoredTable.ofImage? table.image = some table := by
  simp [StoredTable.image, StoredTable.ofImage?, mapM_map_of_inverse StoredColumn.ofImage?_image,
    mapM_map_of_inverse placeOfImage?_image, mapM_map_of_inverse StoredRow.ofImage?_image]

/-- An image holds the whole store. -/
theorem Store.ofImage?_image (store : Store) : Store.ofImage? store.image = some store :=
  mapM_map_of_inverse StoredTable.ofImage?_image store

end ModelStore
