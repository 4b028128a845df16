import ModelStore.Cli.Disk
import Std.Time.DateTime.Timestamp

/-!
# The program

Reads the surroundings and the files of a run, runs the command line, and writes what has changed: the files, the
output, the log and the report.
-/

namespace ModelStore.Cli

/-- The variables of the process. -/
def readEnvironment : IO Environment := do
  return {
    home := ← IO.getEnv "HOME"
    configHome := ← IO.getEnv "XDG_CONFIG_HOME"
    dataHome := ← IO.getEnv "XDG_DATA_HOME"
    configFile := ← IO.getEnv "TALLY_CONFIG"
    storeFile := ← IO.getEnv "TALLY_DB" }

/-- The time, and identifiers that count up from a random start. -/
def readWorld : IO World := do
  let now ← Std.Time.Timestamp.now
  let random ← IO.getRandomBytes 16
  let start := random.toList.foldl (fun acc b => acc * 256 + b.toNat) 0
  return ⟨now.toSecondsSinceUnixEpoch.val, fun k => Identifier.text (start + k)⟩

/-- The path of a place. -/
def pathOf (place : Place) : Path := Path.ofSegments true place

/-- What stands at a place, if anything does. -/
def readNode (place : Place) : IO (Option (Place × FileNode)) := do
  let path := (← IO.currentDir) / pathOf place
  if ← path.isDir then return some (place, .directory)
  else if ← path.pathExists then
    return some (place, .file (.ofBytes (← IO.FS.readBinFile path).toList))
  else return none

/-- The tree along some paths. -/
def readTree (working : Place) (paths : List Path) : IO FileTree := do
  let places := (paths.flatMap (placesAlong working)).eraseDups
  return ⟨working, ← places.filterMapM readNode⟩

/-- Writes what stands at a place. -/
def writeNode (place : Place) : FileNode → IO Unit
  | .directory => IO.FS.createDirAll (pathOf place)
  | .file content => IO.FS.writeBinFile (pathOf place) ⟨content.toBytes.toArray⟩

/-- Runs a command line on the files of the process. -/
def runOnFiles (arguments : List String) : IO Result := do
  let request := Request.ofArguments arguments
  let directory := (← IO.currentDir).toString
  let input ← if readsInput request then (← IO.getStdin).readToEnd else pure ""
  let host : Host := ⟨← readEnvironment, ← readWorld, input, directory⟩
  let working := Path.segments directory
  let known ← readTree working (pathsOf host request ⟨working, []⟩)
  let tree ← readTree working (pathsOf host request known)
  let result := run host arguments tree
  (changes tree result.tree).forM fun (place, node) => writeNode place node
  return result

end ModelStore.Cli

/-- Runs the command line given. The exit code tells whether it succeeded. -/
def main (arguments : List String) : IO UInt32 := do
  let result ← ModelStore.Cli.runOnFiles arguments
  result.log.forM IO.eprintln
  IO.print result.output
  match result.report with
  | some report => report.lines.forM IO.eprintln
  | none => pure ()
  return result.exit.toUInt32
