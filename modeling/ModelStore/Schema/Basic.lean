/-!
# Table descriptions

A schema describes tables: their columns, each with a semantic type, constraints and a rule for the value that an
insert leaves out, and their relations, each a link from a field of the table to a field of another one. Tables
are known to a schema by keys of some type, so a relation always leads to a table of the same schema.

## Main definitions

* `Column`, `Relation`, `Table`: the parts of a description.
* `Schema`: tables by key.
* `Schema.find?`: a table by the name it has in the store or by its model name.
-/

namespace ModelStore

/-! ## Columns -/

/-- The semantic type of a column. A boolean is stored as 0 or 1, a timestamp as seconds since 1970. -/
inductive ColumnType where
  | text
  | integer
  | real
  | boolean
  | timestamp
  deriving DecidableEq, Repr, Inhabited

/-- Where a value comes from that an insert leaves out. -/
inductive DefaultRule where
  /-- From nowhere: the value is null. -/
  | none
  /-- A fresh identifier, made before the insert is run. -/
  | uuid
  /-- The time of the insert. -/
  | unixEpoch
  | text (value : String)
  | integer (value : Int)
  | boolean (value : Bool)
  deriving DecidableEq, Repr, Inhabited

/-- A column. -/
structure Column where
  name : String
  type : ColumnType
  nullable : Bool
  primaryKey : Bool
  unique : Bool
  initial : DefaultRule
  deriving DecidableEq, Repr, Inhabited

namespace Column

/-- A column without constraints. -/
def plain (name : String) (type : ColumnType) : Column := ⟨name, type, true, false, false, .none⟩

/-- The column, never null. -/
def notNull (column : Column) : Column := { column with nullable := false }

/-- The column as the primary key, which is never null. -/
def asPrimaryKey (column : Column) : Column := { column with primaryKey := true, nullable := false }

/-- The column with distinct values. -/
def asUnique (column : Column) : Column := { column with unique := true }

/-- The column with a rule for the values left out. -/
def startingAs (column : Column) (rule : DefaultRule) : Column := { column with initial := rule }

end Column

/-! ## Tables -/

/-- A link from a field of one table to a field of another. -/
structure Relation (ι : Type) where
  name : String
  localField : String
  target : ι
  referencedField : String
  deriving Repr, Inhabited

/-- A table: its name in the store, the name by which calls address it, and its parts. -/
structure Table (ι : Type) where
  name : String
  model : String
  columns : List Column
  relations : List (Relation ι)
  deriving Repr, Inhabited

namespace Table

variable {ι κ : Type}

/-- The column of the name given. -/
def column? (table : Table ι) (name : String) : Option Column := table.columns.find? (·.name == name)

/-- The relation of the name given. -/
def relation? (table : Table ι) (name : String) : Option (Relation ι) :=
  table.relations.find? (·.name == name)

/-- The names of the columns, in order. -/
def columnNames (table : Table ι) : List String := table.columns.map (·.name)

/-- The same table among the tables of another schema. -/
def mapKeys (f : ι → κ) (table : Table ι) : Table κ :=
  { name := table.name
    model := table.model
    columns := table.columns
    relations := table.relations.map fun r => ⟨r.name, r.localField, f r.target, r.referencedField⟩ }

end Table

/-! ## Schemas -/

/-- The tables of a program, and the keys of those that exist, in the order of their creation. -/
structure Schema (ι : Type) where
  table : ι → Table ι
  keys : List ι

/-- The table that bears a name, in the store or as a model. -/
def Schema.find? {ι : Type} (schema : Schema ι) (name : String) : Option ι :=
  schema.keys.find? fun key => (schema.table key).name == name || (schema.table key).model == name

end ModelStore
