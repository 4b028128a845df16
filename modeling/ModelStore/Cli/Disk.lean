import ModelStore.Cli.Run
import ModelStore.Json.Printer
import ModelStore.Json.Reader
import ModelStore.Store.Image
import ModelStore.Text.Identifier

/-!
# Files on disk

A run sees a tree of files, of which it looks only at the places along two paths: that of the configuration and that
of the store. What it leaves differs from what it saw in a few nodes. A store is kept in its file as an image.

## Main definitions

* `placesAlong`: the places along a path.
* `pathsOf`: the paths that a request looks at.
* `FileContent.ofBytes`, `FileContent.toBytes`: what a file holds, as bytes.
* `changes`: the nodes in which a tree differs from the one before.
-/

namespace ModelStore

/-! ## Contents -/

/-- The content that a document stands for, if it stands for a store. -/
def FileContent.ofImage? : Json → Option FileContent
  | .object [("logged", .bool logged), ("store", image)] => (Store.ofImage? image).map (.store · logged)
  | _ => none

/-- What the bytes of a file stand for: a store if they are the image of one. -/
def FileContent.ofBytes (bytes : List UInt8) : FileContent :=
  match (Text.ofBytes? bytes).bind fun text => (Json.parse text).toOption.bind FileContent.ofImage? with
  | some found => found
  | none => .bytes bytes

/-- The bytes in which a content is kept. -/
def FileContent.toBytes : FileContent → List UInt8
  | .bytes plain => plain
  | .store kept logged =>
    (Json.object [("logged", .bool logged), ("store", kept.image)]).compact.toUTF8.toList

namespace Cli

/-! ## Places -/

/-- A place and those around it, from the outermost on. -/
def placesAround (place : Place) : List Place := (List.range place.length).map fun i => place.take (i + 1)

/-- The places along a path, and those around them. -/
def placesAlong (working : Place) (path : Path) : List Place :=
  let start := if Path.isAbsolute path then [] else working
  let step (passed : List Place × Place) (part : String) : List Place × Place :=
    let next :=
      if part = "" ∨ part = "." then passed.2
      else if part = ".." then passed.2.dropLast
      else passed.2 ++ [part]
    (passed.1 ++ [next], next)
  let (passed, _) := (Path.parts path).foldl step ([start], start)
  (passed.flatMap placesAround).eraseDups

/-- The paths of the files that a store of a path may use. -/
def storePaths (path : Path) : List Path :=
  match Address.ofPath path with
  | .ok address => [path, address.name]
  | .error _ => [path]

/-- The paths that a request looks at, given the tree as far as it is known: the configuration, and then the store
that the configuration names. -/
def pathsOf (host : Host) (request : Request) (tree : FileTree) : List Path :=
  match request with
  | .run settings _ =>
    let path := configPath host settings
    match (Config.load host.env tree path).bind fun config => config.storePath host.env with
    | .ok store => path :: storePaths store
    | .error _ => [path]
  | _ => []

/-- Whether a request reads the input. -/
def readsInput : Request → Bool
  | .run _ (.call _ _ (some "-")) => true
  | .run _ .stdio => true
  | _ => false

/-- The nodes in which a tree differs from the one before, in the order of their writing. -/
def changes (before after : FileTree) : List (Place × FileNode) :=
  after.nodes.filter fun (place, node) => before.nodes.lookup place != some node

end Cli

end ModelStore
