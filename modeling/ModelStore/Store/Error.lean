/-!
# Refusals of the store

What the store answers instead of a result. A refusal that is found while a statement is read may name the place
in its text.

## Main definitions

* `StoreError`: the refusals and their wording.
-/

namespace ModelStore

/-- A place in a statement: its text, and the number of bytes that stand before it. -/
structure Site where
  sql : String
  offset : Nat
  deriving DecidableEq, Repr

/-- A refusal of the store. -/
inductive StoreError where
  | notNull (table column : String)
  | unique (table column : String)
  | typeMismatch
  | noSuchTable (name : String)
  | noSuchColumn (name : String) (site : Option Site)
  | ambiguousColumn (name : String) (site : Option Site)
  | noColumnNamed (table column : String)
  | duplicateColumn (column : String)
  | secondPrimaryKey (table : String)
  | reservedName (table : String)
  | noColumns (site : Site)
  | unrecognizedToken (token : String) (site : Site)
  | tooManyVariables (site : Site)
  | tooManyTables (limit : Nat)
  | tooManyColumns (table : String)
  | tooManyResults
  | tooHigh (limit : Nat)
  | noRow
  | notAStore
  | cannotOpen (path : Option String)
  | unreadable
  | readOnly
  | nulInPath (offset : Nat)
  | unknownAuthority (authority : String)
  | unknownMode (kind name : String)
  | modeNotAllowed (name : String)
  | unknownSystem (name : String)
  deriving DecidableEq, Repr

/-- Whether a refusal concerns the rows of a table, and not how a statement reads. -/
def StoreError.concernsRows : StoreError → Bool
  | .notNull .. | .unique .. | .typeMismatch => true
  | _ => false

/-- Appends the place of a refusal. -/
def Site.appendTo (site : Option Site) (message : String) : String :=
  match site with
  | some s => message ++ " in " ++ s.sql ++ " at offset " ++ toString s.offset
  | none => message

/-- The wording of a refusal. -/
def StoreError.message : StoreError → String
  | .notNull table column => "NOT NULL constraint failed: " ++ table ++ "." ++ column
  | .unique table column => "UNIQUE constraint failed: " ++ table ++ "." ++ column
  | .typeMismatch => "datatype mismatch"
  | .noSuchTable name => "no such table: " ++ name
  | .noSuchColumn name site => Site.appendTo site ("no such column: " ++ name)
  | .ambiguousColumn name site => Site.appendTo site ("ambiguous column name: " ++ name)
  | .noColumnNamed table column => "table " ++ table ++ " has no column named " ++ column
  | .duplicateColumn column => "duplicate column name: " ++ column
  | .secondPrimaryKey table => "table \"" ++ table ++ "\" has more than one primary key"
  | .reservedName table => "object name reserved for internal use: " ++ table
  | .noColumns site => Site.appendTo (some site) "near \")\": syntax error"
  | .unrecognizedToken token site => Site.appendTo (some site) ("unrecognized token: \"" ++ token ++ "\"")
  | .tooManyVariables site => Site.appendTo (some site) "too many SQL variables"
  | .tooManyTables limit => "at most " ++ toString limit ++ " tables in a join"
  | .tooManyColumns table => "too many columns on " ++ table
  | .tooManyResults => "too many columns in result set"
  | .tooHigh limit => "Expression tree is too large (maximum depth " ++ toString limit ++ ")"
  | .noRow => "Query returned no rows"
  | .notAStore => "file is not a database"
  | .cannotOpen none => "unable to open database file"
  | .cannotOpen (some path) => "unable to open database file: " ++ path
  | .unreadable => "disk I/O error"
  | .readOnly => "attempt to write a readonly database"
  | .nulInPath offset => "nul byte found in provided data at position: " ++ toString offset
  | .unknownAuthority authority => "invalid uri authority: " ++ authority
  | .unknownMode kind name => "no such " ++ kind ++ " mode: " ++ name
  | .modeNotAllowed name => "access mode not allowed: " ++ name
  | .unknownSystem name => "no such vfs: " ++ name

end ModelStore
