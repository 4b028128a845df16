import ModelStore.Cli.Arguments

/-!
# Help

The pages of help. A page tells what something does, how it is called, and what can be said with it. In short, each
thing that can be said has one line, and the explanations stand below one another; in full, an explanation stands on a
line of its own. Only a page that has more to tell is longer in full.

## Main definitions

* `Topic.lines`: the lines of a page.
-/

namespace ModelStore.Cli

/-! ## Rows -/

/-- Something that can be said, and what it does. -/
structure HelpRow where
  label : String
  about : String
  deriving DecidableEq, Repr, Inhabited

namespace HelpRow

/-- Rows on one line each, with their explanations below one another. -/
def columns (rows : List HelpRow) : List String :=
  let width := rows.foldl (fun width row => max width row.label.length) 0
  rows.map fun row =>
    "  " ++ row.label ++ String.ofList (List.replicate (width - row.label.length) ' ') ++ "  " ++ row.about

/-- Rows with their explanations on lines of their own. -/
def blocks (rows : List HelpRow) : List String :=
  [""].intercalate (rows.map fun row => ["  " ++ row.label, "          " ++ row.about])

end HelpRow

/-! ## What can be said -/

/-- The name and the version of the program. -/
def versionText : String := "tally-cli 0.1.0"

/-- What a command does. -/
def CommandName.about : CommandName → String
  | .init => "Write the default configuration and create the database tables"
  | .config => "Print the configuration file to stdout"
  | .env => "Print the resolved config and database locations"
  | .seed => "Insert sample users, printers and invoice templates"
  | .call => "Run one model operation and print its JSON result"
  | .stdio => "Serve calls read from stdin, one JSON object per line"

/-- What else there is to tell about a command. -/
def CommandName.details? : CommandName → Option String
  | .stdio =>
    some ("Each line is `\x7b\"model\": .., \"method\": .., \"args\": ..\x7d`; each answer is written to stdout as one "
      ++ "line of JSON, or an error envelope when the call fails.")
  | _ => none

/-- What the word for help does. -/
def helpAbout : String := "Print this message or the help of the given subcommand(s)"

/-- The words that follow the name of a command. -/
def CommandName.words : CommandName → List HelpRow
  | .call =>
    [ ⟨"<MODEL>", "Model name, e.g. `users` or `invoiceTemplates`"⟩
    , ⟨"<METHOD>", "Operation name, e.g. `findMany` or `upsert`"⟩
    , ⟨"[ARGS]", "Operation arguments as JSON; `-` reads them from stdin"⟩ ]
  | _ => []

/-- The settings. -/
def settingRows : List HelpRow :=
  [ ⟨"-v, --verbose...", "Set output verbosity"⟩
  , ⟨"-q, --quiet", "Suppress outputs"⟩
  , ⟨"-j, --json", "Output logs as json"⟩
  , ⟨"    --no-color", "Disable colors in output"⟩
  , ⟨"-c, --config <CONFIG>", "Provide custom config file"⟩ ]

/-- The flag for help; what it says depends on whether there is more to tell, and whether that is told. -/
def helpRow (more full : Bool) : HelpRow :=
  ⟨"-h, --help",
    if !more then "Print help"
    else if full then "Print help (see a summary with '-h')"
    else "Print help (see more with '--help')"⟩

/-! ## Pages -/

/-- The page of the program. -/
def programLines : List String :=
  [ versionText
  , "Rabindra Dhakal <contact@qaidvoid.dev>"
  , "Command-line front end for the tally data-access layer"
  , ""
  , "Usage: tally [OPTIONS] <COMMAND>"
  , ""
  , "Commands:" ]
    ++ HelpRow.columns
      ((CommandName.all.map fun name => ⟨name.text, name.about⟩) ++ [⟨helpWord, helpAbout⟩])
    ++ ["", "Options:"]
    ++ HelpRow.columns (settingRows ++ [helpRow false false, ⟨"-V, --version", "Print version"⟩])

/-- The page of a command. -/
def CommandName.lines (name : CommandName) (full : Bool) : List String :=
  let details := name.details?
  let rows := settingRows ++ [helpRow details.isSome full]
  let told := if full then details else none
  let usage := " ".intercalate (["Usage: tally", name.text, "[OPTIONS]"] ++ name.words.map (·.label))
  let arguments := if name.words.isEmpty then [] else ["", "Arguments:"] ++ HelpRow.columns name.words
  [name.about] ++ (told.map fun text => ["", text]).getD [] ++ ["", usage] ++ arguments ++ ["", "Options:"]
    ++ (if told.isSome then HelpRow.blocks rows else HelpRow.columns rows)

/-- The page of the word for help. -/
def helpLines : List String :=
  [helpAbout, "", "Usage: tally help [COMMAND]...", "", "Arguments:"]
    ++ HelpRow.columns [⟨"[COMMAND]...", "Print help for the subcommand(s)"⟩]

/-- The lines of a page. -/
def Topic.lines : Topic → (full : Bool) → List String
  | .program, _ => programLines
  | .command name, full => name.lines full
  | .help, _ => helpLines

end ModelStore.Cli
