import ModelStore.Cli.Help
import ModelStore.Cli.Log
import ModelStore.Cli.Report
import ModelStore.Opening
import ModelStore.Seed

/-!
# Running commands

A command line is run on a tree of files, with an environment, an input and a world. What comes of it is an exit
code, the output, the log, a report if it failed, and the tree that it leaves.

## Main definitions

* `Host`, `Result`: what surrounds a run, and what comes of it.
* `run`: runs a command line.
-/

namespace ModelStore.Cli

/-! ## Surroundings and results -/

/-- What surrounds a run. -/
structure Host where
  env : Environment
  world : World
  input : String
  workingDirectory : Path

/-- What comes of a run. -/
structure Result where
  exit : Nat
  output : String
  log : List String
  report : Option Report
  tree : FileTree
  deriving Repr, Inhabited

/-! ## Steps -/

/-- What a run has done so far. -/
structure Console where
  tree : FileTree
  output : String
  entries : List Entry

/-- A step of a run, which may fail. -/
abbrev Step (α : Type) := ExceptT Report (StateM Console) α

/-- Logs some entries. -/
def log (entries : List Entry) : Step Unit := modify fun c => { c with entries := c.entries ++ entries }

/-- Writes a line of output. -/
def say (line : String) : Step Unit := modify fun c => { c with output := c.output ++ line ++ "\n" }

/-- A result, or the report of a failure. -/
def orReport {α : Type} : Except Error α → Step α
  | .ok value => return value
  | .error e => throw (.ofError e)

/-- A result, or the report of a failure of the configuration. -/
def orConfigReport {α : Type} (result : Except ConfigError α) : Step α := orReport (result.mapError .config)

/-! ## Configuration and store -/

/-- The file of the configuration. -/
def configPath (host : Host) (settings : Settings) : Path :=
  match settings.config with
  | none => host.env.configPath
  | some path => Path.join host.workingDirectory path

/-- Loads the configuration. -/
def loadConfig (host : Host) (path : Path) : Step Config := do
  let tree := (← get).tree
  match tree.readText path with
  | .error .notFound => log [⟨.debug, "config file not found, using defaults", [("path", .text path)]⟩]
  | _ => pure ()
  orConfigReport (Config.load host.env tree path)

/-- The entries of opening a store. -/
def openingEntries (opening : Opening) : List Entry :=
  let file : List Entry := match opening.reached with
    | some (path, journal) =>
      [⟨.info, "opened database", [("path", .text path), ("journal_mode", .text journal)]⟩]
    | none => []
  file ++ opening.ensured.map fun name => ⟨.debug, "ensuring table", [("table", .text name)]⟩

/-- Opens the store of a configuration. -/
def openStore (host : Host) (config : Config) : Step Opened := do
  let (opening, tree) := config.openStore host.env (← get).tree
  modify fun c => { c with tree := tree }
  log (openingEntries opening)
  orReport opening.result

/-- Does something in a session on an open store, which is put back afterwards, also after a failure. -/
def inSession {α : Type} (opened : Opened) (policy : BulkPolicy)
    (work : Session → Except Error α × Session) : Step α := do
  let (result, session) := work (opened.session policy)
  log (session.history.flatMap noteEntries)
  modify fun c => { c with tree := opened.close session.store c.tree }
  orReport result

/-! ## Commands -/

/-- Creates the configuration and the store. -/
def runInit (host : Host) (path : Path) : Step Unit := do
  let (result, tree) := Config.generate host.env (← get).tree path
  modify fun c => { c with tree := tree }
  match result with
  | .ok () => log [.info ("Configuration saved to " ++ path)]
  | .error .alreadyExists => log [.warning ("Config file " ++ path ++ " already exists, keeping it")]
  | .error e => throw (.ofError (.config e))
  let config ← loadConfig host path
  discard (openStore host config)
  log [.info ("Database ready at " ++ (← orConfigReport (config.storePath host.env)))]

/-- Shows the configuration. -/
def runConfig (host : Host) (path : Path) : Step Unit := do
  match (← get).tree.readText path with
  | .ok text => log [.info text]
  | .error .notFound =>
    log [.warning ("Config file " ++ path ++ " not found"), .info (Config.initial host.env).toToml]
  | .error e => throw ⟨some (ConfigError.io e).code, "reading " ++ path⟩

/-- Shows where things lie. -/
def runEnv (host : Host) (path : Path) : Step Unit := do
  let config ← loadConfig host path
  log [.info ("TALLY_CONFIG=" ++ path)]
  log [.info ("TALLY_DB=" ++ (← orConfigReport (config.storePath host.env)))]

/-- The entries of sample data that were created. -/
def seedEntries (s : SeedSummary) : List Entry :=
  let counts := "SeedSummary \x7b users: " ++ toString s.users ++ ", printers: " ++ toString s.printers
    ++ ", templates: " ++ toString s.templates ++ " \x7d"
  [ ⟨.info, "seeded database", [("summary", .text counts)]⟩
  , .info ("Seeded " ++ toString s.users ++ " users, " ++ toString s.printers ++ " printers and "
      ++ toString s.templates ++ " invoice templates") ]

/-- Creates the sample data. -/
def runSeed (host : Host) (path : Path) : Step Unit := do
  let config ← loadConfig host path
  let opened ← openStore host config
  let summary ← inSession opened config.bulkPolicy (Session.seed host.world)
  log (seedEntries summary)

/-- The arguments of a call: none, the input, or a text. -/
def callArguments (host : Host) : Option String → Step Json
  | none => return .null
  | some text =>
    match Json.parse (if text = "-" then host.input else text) with
    | .ok value => return value
    | .error _ => throw ⟨none, "parsing call arguments"⟩

/-- Makes one call. -/
def runCall (host : Host) (path : Path) (model method : String) (args : Option String) : Step Unit := do
  let config ← loadConfig host path
  let opened ← openStore host config
  let call : Call := ⟨model, method, ← callArguments host args⟩
  let result ← inSession opened config.bulkPolicy (Session.call builtIn host.world call)
  say result.pretty

/-- The entries of a call that failed, or was not understood. -/
def failureEntries (call : Except Json.Failure Call) (result : Except Error Json) : List Entry :=
  match call, result with
  | .error failure, _ => [⟨.debug, "malformed call", [("error", .text failure.message)]⟩]
  | .ok call, .error e =>
    [⟨.debug, "db call failed",
      [ ("model", .text call.model), ("method", .text call.method), ("kind", .text e.kind.name)
      , ("error", .text e.message) ]⟩]
  | .ok _, .ok _ => []

/-- The answer to a line, with the entries of it. -/
def answerLine (world : World) (line : String) (session : Session) : Json × List Entry × Session :=
  let call := decodeText callShape line
  let (result, after) := session.attempt builtIn world call
  let notes := (after.history.drop session.history.length).flatMap noteEntries
  (Session.answerOf result, notes ++ failureEntries call result, after)

/-- Answers some lines one after another, each that is not blank with a line of output. -/
def serve (world : World) : List String → Session → Step Session
  | [], session => return session
  | line :: rest, session => do
    let line := Text.trim line
    if line.isEmpty then serve world rest session
    else
      let (answer, entries, session) := answerLine world line session
      log entries
      say answer.compact
      serve world rest session

/-- Makes a call for every line of the input. -/
def runStdio (host : Host) (path : Path) : Step Unit := do
  let config ← loadConfig host path
  let opened ← openStore host config
  let session ← serve host.world (Text.linesOf host.input) (opened.session config.bulkPolicy)
  modify fun c => { c with tree := opened.close session.store c.tree }

/-- Runs a command. -/
def runCommand (host : Host) (settings : Settings) (command : Command) : Step Unit :=
  let path := configPath host settings
  match command with
  | .init => runInit host path
  | .config => runConfig host path
  | .env => runEnv host path
  | .seed => runSeed host path
  | .call model method args => runCall host path model method args
  | .stdio => runStdio host path

/-! ## Command lines -/

/-- Runs a command line. -/
def run (host : Host) (arguments : List String) (tree : FileTree) : Result :=
  match Request.ofArguments arguments with
  | .misuse => ⟨2, "", Topic.lines .program false, none, tree⟩
  | .help topic full => ⟨0, String.join ((topic.lines full).map (· ++ "\n")), [], none, tree⟩
  | .version => ⟨0, versionText ++ "\n", [], none, tree⟩
  | .run settings command =>
    let (result, console) := (runCommand host settings command).run.run ⟨tree, "", []⟩
    let lines := (console.entries.filter settings.shows).map (Entry.line settings)
    match result with
    | .ok () => ⟨0, console.output, lines, none, console.tree⟩
    | .error report => ⟨1, console.output, lines, some report, console.tree⟩

end ModelStore.Cli
