/-!
# Paths

A path is a text: segments between slashes, absolute if it starts with one. Empty segments mean nothing, except that
a slash at the end asks for a directory, like the segment of one point.

## Main definitions

* `Path.join`: a path inside a directory.
* `Path.parent?`: the path without its last segment.
* `Path.steps`: the segments that lead to what a path names.
* `Path.nameLimit`, `Path.limit`: how long a segment and a path may be.
-/

namespace ModelStore

/-- A path. -/
abbrev Path := String

namespace Path

/-- Whether a path starts at the root. -/
def isAbsolute (path : Path) : Bool := path.toList.head? == some '/'

/-- Whether a path asks for a directory by the slash at its end. -/
def asksForDirectory (path : Path) : Bool := path.toList.getLast? == some '/'

/-- A path inside a directory. An absolute path stays as it is. -/
def join (directory path : Path) : Path :=
  if isAbsolute path then path
  else if directory.isEmpty || asksForDirectory directory then directory ++ path
  else directory ++ "/" ++ path

/-- The parts of a text between slashes. -/
def split : List Char → List (List Char)
  | [] => [[]]
  | c :: rest =>
    if c = '/' then [] :: split rest
    else
      match split rest with
      | part :: parts => (c :: part) :: parts
      | [] => [[c]]

/-- The parts of a path between its slashes. -/
def parts (path : Path) : List String := (split path.toList).map String.ofList

/-- A path without the slashes at its end, the root apart. -/
def withoutSlash (path : Path) : Path :=
  match path.toList.reverse.dropWhile (· == '/') with
  | [] => path
  | rest => String.ofList rest.reverse

/-- The segments that lead to what a path names. A slash behind the last one asks for a directory. -/
def steps (path : Path) : List String :=
  let segments := (parts path).filter (· != "")
  if asksForDirectory path then segments ++ ["."] else segments

/-- The segments that count. -/
def segments (path : Path) : List String :=
  let kept := ((parts path).filter (· != "")).filter (· != ".")
  if !isAbsolute path && (parts path).head? == some "." then "." :: kept else kept

/-- The path of some segments. -/
def ofSegments (absolute : Bool) (segments : List String) : Path :=
  (if absolute then "/" else "") ++ String.intercalate "/" segments

/-- The path without its last segment; that of a single segment is empty, and the root has none. -/
def parent? (path : Path) : Option Path :=
  match segments path with
  | [] => none
  | all => some (ofSegments (isAbsolute path) all.dropLast)

/-! ## Limits -/

/-- The greatest number of bytes in a segment. -/
def nameLimit : Nat := 255

/-- The greatest number of bytes in a path. -/
def limit : Nat := 4095

/-- The place of the first null character, in bytes. -/
def nulAt? (path : Path) : Option Nat := path.toUTF8.toList.idxOf? 0

end Path

end ModelStore
