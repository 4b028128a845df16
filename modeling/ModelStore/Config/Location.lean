import ModelStore.Config.Basic
import ModelStore.Config.Error
import ModelStore.Files.Path
import ModelStore.Text.Blank

/-!
# Where things lie

The places of the configuration and of the store follow from the environment and from what the configuration says.

## Main definitions

* `Environment`: the variables that matter.
* `Environment.configPath`, `Environment.resolvePath`: places by rule and by path.
* `Config.resolve`, `Config.storePath`, `Config.isInMemory`: what a configuration comes to.
-/

namespace ModelStore

/-! ## Environments -/

/-- The environment variables that matter. -/
structure Environment where
  home : Option String
  configHome : Option String
  dataHome : Option String
  configFile : Option String
  storeFile : Option String
  deriving Repr, Inhabited

namespace Environment

/-- The home directory; the root without one. -/
def homeDirectory (env : Environment) : Path := env.home.getD "/"

/-- The directory of configurations. -/
def configDirectory (env : Environment) : Path := env.configHome.getD (Path.join env.homeDirectory ".config")

/-- The directory of data. -/
def dataDirectory (env : Environment) : Path := env.dataHome.getD (Path.join env.homeDirectory ".local/share")

/-- The file of the configuration. -/
def configPath (env : Environment) : Path :=
  env.configFile.getD (Path.join (Path.join env.configDirectory "tally") "config.toml")

/-- The file of the store where nothing else is said. -/
def defaultStorePath (env : Environment) : Path :=
  Path.join (Path.join (Path.join env.dataDirectory "tally") "db") "prod.db"

/-- The path that a text means: without blanks around it, and with the home directory in place of a leading tilde. -/
def resolvePath (env : Environment) (text : String) : Except ConfigError Path :=
  let path := Text.trim text
  match path.toList with
  | [] => .error (.invalidDbPath path)
  | ['~'] => .ok env.homeDirectory
  | '~' :: '/' :: rest => .ok (Path.join env.homeDirectory (String.ofList rest))
  | _ => .ok path

end Environment

/-! ## Configurations -/

namespace Config

/-- The configuration that says everything by default. -/
def initial (env : Environment) : Config := ⟨some env.defaultStorePath, some .wal, some .warn⟩

/-- The configuration with its gaps filled. -/
def resolve (env : Environment) (config : Config) : Config :=
  { dbPath := config.dbPath.or (initial env).dbPath
    journalMode := some config.journal
    bulkMutation := some config.bulkPolicy }

/-- The path of the store. The environment has the first word. -/
def storePath (env : Environment) (config : Config) : Except ConfigError Path :=
  match env.storeFile with
  | some text => env.resolvePath text
  | none =>
    match config.dbPath with
    | some text => if text = inMemoryPath then .ok inMemoryPath else env.resolvePath text
    | none => env.resolvePath env.defaultStorePath

/-- Whether the store lies in memory. -/
def isInMemory (env : Environment) (config : Config) : Bool :=
  match config.storePath env with
  | .ok path => path == inMemoryPath
  | .error _ => false

end Config

end ModelStore
