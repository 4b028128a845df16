import ModelStore.Cli.Arguments
import ModelStore.Json.Printer
import ModelStore.Operation.Note

/-!
# Log lines

What a command tells its user apart from its result. An entry has a level, a message and named fields. The fields show
only in entries for the developer, or in JSON.

## Main definitions

* `Entry`: entries.
* `Entry.line`: an entry as text.
* `Note.entries`: the entries of a note.
-/

namespace ModelStore.Cli

/-! ## Levels -/

/-- How much an entry matters, the less the further down. -/
inductive Level where
  | warning
  | info
  | debug
  | trace
  deriving DecidableEq, Repr, Inhabited

namespace Level

/-- The name of a level. -/
def name : Level → String
  | warning => "WARN"
  | info => "INFO"
  | debug => "DEBUG"
  | trace => "TRACE"

/-- The terminal colour of a level. -/
def color : Level → String
  | warning => "33"
  | info => ""
  | debug => "34"
  | trace => "35"

/-- How verbose the settings have to be for an entry to show. -/
def verbosity : Level → Nat
  | warning | info => 0
  | debug => 1
  | trace => 2

/-- Whether a level is for the developer. -/
def isDetail (level : Level) : Bool := decide (0 < level.verbosity)

end Level

/-! ## Entries -/

/-- An entry. -/
structure Entry where
  level : Level
  message : String
  fields : Fields Json
  deriving Repr, Inhabited

/-- Whether an entry shows. -/
def Settings.shows (settings : Settings) (entry : Entry) : Bool :=
  !settings.quiet && decide (entry.level.verbosity ≤ settings.verbosity)

/-- A text in a terminal colour. -/
def colored (settings : Settings) (color text : String) : String :=
  if settings.plain then text else "\x1b[" ++ color ++ "m" ++ text ++ "\x1b[0m"

/-- The text of a field value. -/
def fieldText : Json → String
  | .text s => s
  | value => value.compact

namespace Entry

/-- An entry without fields. -/
def info (message : String) : Entry := ⟨.info, message, []⟩

/-- A warning. -/
def warning (message : String) : Entry := ⟨.warning, message, []⟩

/-- An entry as plain text. -/
def text (settings : Settings) (entry : Entry) : String :=
  let mark :=
    match entry.level with
    | .info => ""
    | level => colored settings level.color ("[" ++ level.name ++ "]") ++ " "
  let fields :=
    if entry.level.isDetail && !entry.fields.isEmpty then
      " " ++ colored settings "90"
        (String.intercalate " " (entry.fields.map fun (name, value) => name ++ "=" ++ fieldText value))
    else ""
  mark ++ entry.message ++ fields

/-- An entry as JSON. -/
def toJson (entry : Entry) : Json :=
  .object ([("level", .text entry.level.name), ("message", .text entry.message)] ++ entry.fields)

/-- An entry as the settings want it. -/
def line (settings : Settings) (entry : Entry) : String :=
  if settings.json then entry.toJson.compact else entry.text settings

end Entry

/-! ## Notes -/

/-- The entries of a diagnostic: one for the developer, and one for the user. -/
def eventEntries (event : Event) : List Entry :=
  let detail : Entry :=
    match event with
    | .unknownRelation table relation =>
      ⟨.debug, "skipping unknown relation", [("table", .text table), ("relation", .text relation)]⟩
    | .unboundedMutation table operation =>
      ⟨.debug, "bulk mutation without where", [("table", .text table), ("operation", .text operation.name)]⟩
  [detail, .warning event.describe]

/-- The entries of a note. -/
def noteEntries : Note → List Entry
  | .dispatching model method => [⟨.trace, "dispatching", [("model", .text model), ("method", .text method)]⟩]
  | .reported event => eventEntries event
  | .sent statement =>
    [⟨.trace, statement.kind.name, [("sql", .text statement.sql), ("params", .ofNat statement.params.length)]⟩]
  | .severalMatched table rows =>
    [⟨.trace, "update matched several rows", [("table", .text table), ("matched", .ofNat rows)]⟩]

end ModelStore.Cli
