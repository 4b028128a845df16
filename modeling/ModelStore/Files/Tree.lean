import ModelStore.Config.Error
import ModelStore.Files.Path
import ModelStore.Store.Table
import ModelStore.Text.Utf8

/-!
# File trees

The files that a command can see: directories, and files that hold bytes or a store. A tree is a value; what a
command writes is in the tree that it leaves. Directories that were created stay also if a later step fails.

## Main definitions

* `FileTree`: trees.
* `FileTree.read`, `FileTree.write`, `FileTree.createDirectories`: the operations, by paths from a working directory.
* `FileAction`: an operation that may fail halfway.
-/

namespace ModelStore

/-- What a file holds. The changes of a store may be logged ahead of their way into the file. -/
inductive FileContent where
  | bytes (bytes : List UInt8)
  | store (store : Store) (logged : Bool)
  deriving DecidableEq, Repr, Inhabited

/-- What stands at a place. -/
inductive FileNode where
  | directory
  | file (content : FileContent)
  deriving DecidableEq, Repr, Inhabited

/-- A place: the names that lead to it from the root. -/
abbrev Place := List String

/-- A tree, with the directory from which relative paths start. The root is always there. -/
structure FileTree where
  working : Place
  nodes : List (Place × FileNode)
  deriving Repr, Inhabited

namespace FileTree

/-- What stands at a place. -/
def node? (tree : FileTree) (place : Place) : Option FileNode :=
  if place.isEmpty then some .directory else tree.nodes.lookup place

/-- The tree with something else at a place. -/
def setNode (tree : FileTree) (place : Place) (node : FileNode) : FileTree :=
  { tree with nodes := (tree.nodes.filter (·.1 != place)) ++ [(place, node)] }

/-! ## Finding places -/

/-- The directory at a place. -/
def requireDirectory (tree : FileTree) (place : Place) : Except IoError Unit :=
  match tree.node? place with
  | none => .error .notFound
  | some (.file _) => .error .notADirectory
  | some .directory => .ok ()

/-- The place to which some steps lead. Every place on the way has to be a directory. -/
def walk (tree : FileTree) (place : Place) : List String → Except IoError Place
  | [] => .ok place
  | step :: rest => do
    tree.requireDirectory place
    if step = "." then tree.walk place rest
    else if step = ".." then tree.walk place.dropLast rest
    else if Path.nameLimit < step.utf8ByteSize then .error .nameTooLong
    else tree.walk (place ++ [step]) rest

/-- The place where a path starts. -/
def base (tree : FileTree) (path : Path) : Place := if Path.isAbsolute path then [] else tree.working

/-- The place that a path names. -/
def locate (tree : FileTree) (path : Path) : Except IoError Place :=
  if (Path.nulAt? path).isSome then .error .nulInName
  else if Path.limit < path.utf8ByteSize then .error .nameTooLong
  else if path.isEmpty then .error .notFound
  else tree.walk (tree.base path) (Path.steps path)

/-- What stands at the place that a path names. -/
def find? (tree : FileTree) (path : Path) : Option FileNode :=
  match tree.locate path with
  | .ok place => tree.node? place
  | .error _ => none

/-- Whether something stands at the place that a path names. -/
def exists? (tree : FileTree) (path : Path) : Bool := (tree.find? path).isSome

/-! ## Reading and writing -/

/-- What the file at a place holds. -/
def readAt (tree : FileTree) (place : Place) : Except IoError FileContent := do
  tree.requireDirectory place.dropLast
  match tree.node? place with
  | none => .error .notFound
  | some .directory => .error .isADirectory
  | some (.file content) => .ok content

/-- What the file of a path holds. -/
def read (tree : FileTree) (path : Path) : Except IoError FileContent := do
  tree.readAt (← tree.locate path)

/-- The text in the file of a path. A store is no text. -/
def readText (tree : FileTree) (path : Path) : Except IoError String := do
  match ← tree.read path with
  | .store .. => .error .notText
  | .bytes bytes =>
    match Text.ofBytes? bytes with
    | some text => .ok text
    | none => .error .notText

/-- Writes the file at a place, whose directory has to be there. -/
def writeAt (tree : FileTree) (place : Place) (content : FileContent) : Except IoError FileTree := do
  tree.requireDirectory place.dropLast
  match tree.node? place with
  | some .directory => .error .isADirectory
  | _ => return tree.setNode place (.file content)

/-- Writes the file of a path, whose directory has to be there. A slash at the end asks for a directory. -/
def write (tree : FileTree) (path : Path) (content : FileContent) : Except IoError FileTree := do
  let place ← tree.locate (Path.withoutSlash path)
  tree.requireDirectory place.dropLast
  if Path.asksForDirectory path then .error .isADirectory else tree.writeAt place content

/-- Writes a text into the file of a path. -/
def writeText (tree : FileTree) (path : Path) (text : String) : Except IoError FileTree :=
  tree.write path (.bytes text.toUTF8.toList)

/-! ## Directories -/

/-- Creates the directory of a path inside one that is there. -/
def createDirectory (tree : FileTree) (path : Path) : Except IoError FileTree := do
  let place ← tree.locate path
  match tree.node? place with
  | some _ => .error .fileExists
  | none =>
    tree.requireDirectory place.dropLast
    return tree.setNode place .directory

/-- Whether a path names a directory. -/
def isDirectory (tree : FileTree) (path : Path) : Bool :=
  match tree.find? path with
  | some .directory => true
  | _ => false

end FileTree

/-- A step that changes a tree and may fail. What it did before it failed stays. -/
abbrev FileAction := ExceptT IoError (StateM FileTree) Unit

namespace FileTree

/-- Creates the directory of a path, unless it is there. -/
def requireCreated (path : Path) : FileAction := do
  match (← get).createDirectory path with
  | .ok tree => set tree
  | .error e => if (← get).isDirectory path then pure () else throw e

/-- Creates the directory of a path if it is not there, given how the one around it is created. -/
def createInside (path : Path) (around : FileAction) : FileAction := do
  match (← get).createDirectory path with
  | .error .notFound =>
    around
    requireCreated path
  | _ => requireCreated path

/-- Creates the directories of some segments, the last one first being tried alone. -/
def createSegments (absolute : Bool) : (count : Nat) → List String → FileAction
  | 0, _ => pure ()
  | n + 1, segments =>
    createInside (Path.ofSegments absolute segments) (createSegments absolute n segments.dropLast)

/-- Creates the directory of a path and every directory around it that is not there. -/
def createDirectories (path : Path) : FileAction :=
  if path.isEmpty then pure ()
  else
    let segments := Path.segments path
    createSegments (Path.isAbsolute path) segments.length segments

/-- Writes a text into the file of a path. -/
def putText (path : Path) (text : String) : FileAction := do
  match (← get).writeText path text with
  | .ok tree => set tree
  | .error e => throw e

end FileTree

end ModelStore
