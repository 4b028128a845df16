import ModelStore.Config.Decode
import ModelStore.Config.Location
import ModelStore.Files.Tree
import ModelStore.Toml.Position

/-!
# Configuration files

A configuration is kept in a file as a TOML document. Where there is no file, everything is as by default. A default
configuration is never written over a file.

## Main definitions

* `Config.load`, `Config.save`, `Config.generate`: reading and writing configuration files.
-/

namespace ModelStore.Config

/-- The configuration of a document. -/
def parse (text : String) : Except ConfigError Config :=
  (ofToml text).mapError fun offset =>
    let (line, column) := Toml.positionOf text offset
    .unreadable line column

/-- The configuration in the file of a path, with its gaps filled. -/
def load (env : Environment) (tree : FileTree) (path : Path) : Except ConfigError Config :=
  match tree.readText path with
  | .ok text => return (← parse text).resolve env
  | .error .notFound => .ok ((initial env).resolve env)
  | .error e => .error (.io e)

/-- Writes a configuration into the file of a path, and the directories around it. -/
def save (config : Config) (path : Path) : FileAction := do
  FileTree.createDirectories ((Path.parent? path).getD "")
  FileTree.putText path config.toToml

/-- Writes the default configuration into the file of a path, unless something is there. -/
def generate (env : Environment) (tree : FileTree) (path : Path) : Except ConfigError Unit × FileTree :=
  if tree.exists? path then (.error .alreadyExists, tree)
  else
    let (result, tree) := ((initial env).save path).run.run tree
    (result.mapError .io, tree)

end ModelStore.Config
