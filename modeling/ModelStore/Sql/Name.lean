/-!
# Names and literals in SQL text

A name stands between double quotes and a text between single ones; a quote inside is written twice.

## Main definitions

* `Sql.quoteName`, `Sql.quoteText`: the two quotations.
* `Sql.ColumnRef`: a column as statements refer to it.
-/

namespace ModelStore.Sql

/-- Writes every occurrence of a quote twice. -/
def doubled (quote : Char) : List Char → List Char
  | [] => []
  | c :: rest => if c = quote then quote :: quote :: doubled quote rest else c :: doubled quote rest

/-- A text between two quotes. -/
def quoted (quote : Char) (s : String) : String :=
  String.ofList (quote :: doubled quote s.toList ++ [quote])

/-- A name in a statement. -/
def quoteName (name : String) : String := quoted '"' name

/-- A text in a statement. -/
def quoteText (s : String) : String := quoted '\'' s

/-- A column, alone or of a table or joined relation that is named. -/
structure ColumnRef where
  qualifier : Option String
  name : String
  deriving DecidableEq, Repr, Inhabited

/-- A column in a statement. -/
def ColumnRef.sql (ref : ColumnRef) : String :=
  match ref.qualifier with
  | some qualifier => quoteName qualifier ++ "." ++ quoteName ref.name
  | none => quoteName ref.name

end ModelStore.Sql
