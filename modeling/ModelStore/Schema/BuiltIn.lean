import ModelStore.Schema.Basic

/-!
# The built-in tables

The application has users, the printers they own, and the invoice templates they wrote.

## Main definitions

* `BuiltIn`: the keys of the three tables.
* `builtIn`: their schema.
-/

namespace ModelStore

/-- The tables of the application. -/
inductive BuiltIn where
  | users
  | printers
  | invoiceTemplates
  deriving DecidableEq, Repr, Inhabited

namespace BuiltIn

/-- An identifier that is made on insert. -/
private def idColumn : Column := ((Column.plain "id" .text).asPrimaryKey).startingAs .uuid

/-- A time that is taken on insert. -/
private def timeColumn (name : String) : Column := (Column.plain name .timestamp).startingAs .unixEpoch

/-- The users. -/
def usersTable : Table BuiltIn :=
  { name := "users"
    model := "users"
    columns :=
      [ idColumn
      , (Column.plain "name" .text).notNull
      , ((Column.plain "email" .text).notNull).asUnique
      , (Column.plain "role" .text).startingAs (.text "USER")
      , timeColumn "createdAt"
      , timeColumn "updatedAt" ]
    relations :=
      [ ⟨"printers", "id", .printers, "userId"⟩
      , ⟨"templates", "id", .invoiceTemplates, "userId"⟩ ] }

/-- The printers. -/
def printersTable : Table BuiltIn :=
  { name := "printers"
    model := "printers"
    columns :=
      [ idColumn
      , (Column.plain "name" .text).notNull
      , (Column.plain "isDefault" .boolean).startingAs (.boolean false)
      , (Column.plain "userId" .text).notNull ]
    relations := [⟨"owner", "userId", .users, "id"⟩] }

/-- The invoice templates. -/
def invoiceTemplatesTable : Table BuiltIn :=
  { name := "invoice_templates"
    model := "invoiceTemplates"
    columns :=
      [ idColumn
      , (Column.plain "name" .text).notNull
      , (Column.plain "content" .text).notNull
      , Column.plain "userId" .text
      , timeColumn "createdAt" ]
    relations := [⟨"author", "userId", .users, "id"⟩] }

end BuiltIn

/-- The schema of the application. -/
def builtIn : Schema BuiltIn :=
  { table := fun
      | .users => BuiltIn.usersTable
      | .printers => BuiltIn.printersTable
      | .invoiceTemplates => BuiltIn.invoiceTemplatesTable
    keys := [.users, .printers, .invoiceTemplates] }

end ModelStore
