import ModelStore.Config.Basic
import ModelStore.Json.Shape
import ModelStore.Toml.Document
import ModelStore.Toml.Printer

/-!
# Configurations as documents

A configuration as JSON and as TOML. Fields with other names are passed over.

## Main definitions

* `Config.ofJson`: the configuration of a JSON value.
* `Config.ofToml`, `Config.toToml`: the configuration of a TOML document, and back.
-/

namespace ModelStore

open Json (FieldShape RecordShape Source FromValue Cause)

namespace Config

/-! ## JSON -/

/-- A configuration, as far as it has been read. -/
structure Draft where
  dbPath : Option (Option String)
  journalMode : Option (Option String)
  bulkMutation : Option (Option String)
  deriving Inhabited

/-- The configuration that a draft has become. -/
def Draft.finish (draft : Draft) : Config :=
  { dbPath := draft.dbPath.join
    journalMode := draft.journalMode.join.bind JournalMode.ofName?
    bulkMutation := draft.bulkMutation.join.bind BulkPolicy.ofName? }

/-- A configuration. In a list it has all of its fields. -/
def shape (m : Type → Type) [Source m] : RecordShape m Draft Config :=
  { name := "Config"
    closed := false
    fields :=
      [ ⟨"db_path", true, (·.dbPath.isSome),
          Source.convert (Source.optional Source.text) fun value draft => { draft with dbPath := some value }⟩
      , ⟨"journal_mode", true, (·.journalMode.isSome),
          Source.convert (Source.optional (Source.choice (JournalMode.all.map JournalMode.name)))
            fun value draft => { draft with journalMode := some value }⟩
      , ⟨"bulk_mutation", true, (·.bulkMutation.isSome),
          Source.convert (Source.optional (Source.choice (BulkPolicy.all.map BulkPolicy.name)))
            fun value draft => { draft with bulkMutation := some value }⟩ ]
    start := default
    finish := fun draft => .ok draft.finish }

/-- The configuration of a JSON value. -/
def ofJson (value : Json) : Except Cause Config := (Source.record (shape FromValue) : FromValue Config) value

/-! ## TOML -/

open Toml (Spot Item Entries)

/-- The text of an item, or the offset of the item. -/
def textOf (spot : Spot) : Item → Except Nat String
  | .scalar (.text s) => .ok s
  | _ => .error spot.value

/-- Whether an item says nothing more. -/
def isUnit : Item → Bool
  | .list items => items.isEmpty
  | .inlined entries | .table _ entries => entries.isEmpty
  | _ => false

/-- The choice that an item names, alone or as the key of an empty item. -/
def choiceOf {α : Type} (ofName? : String → Option α) (spot : Spot) (item : Item) : Except Nat α :=
  let named (offset : Nat) (name : String) : Except Nat α :=
    match ofName? name with
    | some value => .ok value
    | none => .error offset
  match item with
  | .scalar (.text name) => named spot.value name
  | .inlined [(name, inside, inner)] | .table _ [(name, inside, inner)] => do
    let value ← named inside.name name
    if isUnit inner then return value else .error inside.value
  | _ => .error spot.value

/-- Reads an entry into a configuration. An entry of another name need only be within range. -/
def readEntry (config : Config) : String × Spot × Item → Except Nat Config
  | ("bulk_mutation", spot, item) => do
    return { config with bulkMutation := some (← choiceOf BulkPolicy.ofName? spot item) }
  | ("db_path", spot, item) => do return { config with dbPath := some (← textOf spot item) }
  | ("journal_mode", spot, item) => do
    return { config with journalMode := some (← choiceOf JournalMode.ofName? spot item) }
  | (_, spot, item) =>
    match item.unfit? spot.value with
    | some offset => .error offset
    | none => .ok config

/-- The configuration of a TOML document, or the offset at which the document makes no sense. -/
def ofToml (text : String) : Except Nat Config := do (← Toml.parse text).foldlM readEntry ⟨none, none, none⟩

/-- A configuration as a TOML document; what it leaves open is left out. -/
def toToml (config : Config) : String :=
  let line (key : String) (value : Option String) : String := (value.map (Toml.pair key)).getD ""
  line "db_path" config.dbPath
    ++ line "journal_mode" (config.journalMode.map JournalMode.name)
    ++ line "bulk_mutation" (config.bulkMutation.map BulkPolicy.name)

end Config

end ModelStore
