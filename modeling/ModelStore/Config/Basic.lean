/-!
# Settings

A configuration may say where the store lies, how its journal is kept, and what becomes of bulk mutations without a
condition. What it leaves open has a default.

## Main definitions

* `JournalMode`, `BulkPolicy`: the choices.
* `Config`: configurations.
-/

namespace ModelStore

/-! ## Choices -/

/-- How the journal of a stored file is kept. -/
inductive JournalMode where
  | delete
  | truncate
  | persist
  | memory
  | wal
  | off
  deriving DecidableEq, Repr

instance : Inhabited JournalMode := ⟨.wal⟩

namespace JournalMode

/-- All modes. -/
def all : List JournalMode := [delete, truncate, persist, memory, wal, off]

/-- The name of a mode in a configuration. -/
def name : JournalMode → String
  | delete => "delete"
  | truncate => "truncate"
  | persist => "persist"
  | memory => "memory"
  | wal => "wal"
  | off => "off"

/-- The name of a mode as it is handed to the store. -/
def pragma (mode : JournalMode) : String := mode.name.map Char.toUpper

/-- The mode of a name. -/
def ofName? (name : String) : Option JournalMode := all.find? (·.name == name)

end JournalMode

/-- What becomes of a bulk mutation without a condition: it is reported and carried out, or refused. -/
inductive BulkPolicy where
  | warn
  | deny
  deriving DecidableEq, Repr

instance : Inhabited BulkPolicy := ⟨.warn⟩

namespace BulkPolicy

/-- All policies. -/
def all : List BulkPolicy := [warn, deny]

/-- The name of a policy in a configuration. -/
def name : BulkPolicy → String
  | warn => "warn"
  | deny => "deny"

/-- The policy of a name. -/
def ofName? (name : String) : Option BulkPolicy := all.find? (·.name == name)

end BulkPolicy

/-! ## Configurations -/

/-- A configuration. -/
structure Config where
  dbPath : Option String
  journalMode : Option JournalMode
  bulkMutation : Option BulkPolicy
  deriving DecidableEq, Repr, Inhabited

namespace Config

/-- The path that asks for a store in memory. -/
def inMemoryPath : String := ":memory:"

/-- How the journal is kept. -/
def journal (config : Config) : JournalMode := config.journalMode.getD .wal

/-- What becomes of bulk mutations without a condition. -/
def bulkPolicy (config : Config) : BulkPolicy := config.bulkMutation.getD .warn

end Config

end ModelStore
