import ModelStore.Config.File
import ModelStore.Error
import ModelStore.Session
import ModelStore.Store.Address

/-!
# Opening stores

A configuration tells where the store lies. A store in memory begins empty and is lost; a store in a file is created
if it is not there, with the directories around it. Either way the tables of the application are created if they are
not there.

A store is first reached: its file is found, and its journal is kept as the configuration asks where that can be done.
Then the tables are looked for one after another. A store whose file must not change can still be read.

## Main definitions

* `Opened`: an open store and where it lies.
* `Opening`, `Config.openStore`: opening the store of a configuration.
* `Opened.session`, `Opened.close`: a session on an open store, and putting the store back where it lies.
-/

namespace ModelStore

/-- The file in which an open store lies, and how its journal is kept. -/
structure StoreFile where
  place : Place
  journal : JournalMode
  deriving DecidableEq, Repr, Inhabited

/-- An open store: the path that it was reached by and how its journal is kept, unless it was asked for in memory; the
file to put it back into; and why it refuses every change, if it does. -/
structure Opened where
  store : Store
  reached : Option (Path × String)
  file : Option StoreFile
  barred : Option StoreError
  deriving Repr, Inhabited

/-- A step of opening a store. What it did before it failed stays. -/
abbrev OpeningStep (α : Type) := ExceptT StoreError (StateM FileTree) α

/-! ## Finding the file -/

/-- The greatest number of bytes in the whole path of a store. -/
def storePathLimit : Nat := 504

/-- The place to which the parts of a path lead by themselves: one of two points takes back the one before it. A part
must not stand behind a file, and none may be too long. -/
def FileTree.nominalPlace (tree : FileTree) (path : Path) : Option Place :=
  (Path.parts path).foldlM
    (fun place part =>
      if part = "" ∨ part = "." then some place
      else if part = ".." then some place.dropLast
      else
        match tree.node? place with
        | some (.file _) => none
        | some .directory => if Path.nameLimit < part.utf8ByteSize then none else some (place ++ [part])
        | none => some (place ++ [part]))
    (tree.base path)

/-- The place where the file of a store is, in a directory that is there. -/
def FileTree.storePlace? (tree : FileTree) (path : Path) : Option Place := do
  let place ← tree.nominalPlace path
  let size := (Path.ofSegments true place).utf8ByteSize
  if place.isEmpty || storePathLimit < size then none
  else
    match tree.requireDirectory place.dropLast with
    | .ok () => some place
    | .error _ => none

/-- The store in the file at a place, and whether its changes are logged. A file of at most one byte holds none yet. -/
def FileTree.storeAt (tree : FileTree) (place : Place) : Except StoreError (Store × Bool) :=
  match tree.node? place with
  | some (.file (.store store logged)) => .ok (store, logged)
  | some (.file (.bytes (_ :: _ :: _))) => .error .notAStore
  | _ => .ok ([], false)

/-- Finds the file of a store, or creates it. -/
def findFile (path : Path) (address : Address) : OpeningStep Place := do
  match (← get).storePlace? address.name with
  | none => throw (.cannotOpen (some path))
  | some place =>
    match (← get).node? place with
    | some (.file _) => return place
    | some .directory => throw (if address.access = .read then .unreadable else .cannotOpen (some path))
    | none =>
      if address.access = .create then
        modify (·.setNode place (.file (.bytes [])))
        return place
      else throw (.cannotOpen (some path))

/-! ## Journals -/

/-- What the name of a journal ends with. -/
def journalSuffix : String := "-journal"

/-- Whether a mode keeps a journal in a file of its own beside the store. -/
def JournalMode.hasFile : JournalMode → Bool
  | .delete | .truncate | .persist => true
  | _ => false

/-- Whether the name of a journal would be too long. -/
def lacksRoom (place : Place) : Bool :=
  decide (Path.nameLimit < (place.getLast?.getD "").utf8ByteSize + journalSuffix.utf8ByteSize)

/-- The tree with a store put into its file. -/
def FileTree.putStore (tree : FileTree) (file : StoreFile) (store : Store) : FileTree :=
  tree.setNode file.place (.file (.store store (file.journal == .wal)))

/-! ## Reaching a store -/

/-- How the journal of a store is kept that was kept otherwise before, where shared memory may not be had. -/
def JournalMode.unlessLogged (before asked : JournalMode) : JournalMode := if asked = .wal then before else asked

/-- Changes whether the changes of a store are logged, which is a change of its file. -/
def convert (store : Store) (file : StoreFile) : OpeningStep Unit := do
  if lacksRoom file.place then throw (.cannotOpen none)
  modify (·.putStore file store)

/-- Sets how the journal of a store in a file is kept that may be locked and shared. -/
def setJournal (access : AccessMode) (sharing : Bool) (place : Place) (asked : JournalMode) (store : Store)
    (logged : Bool) : OpeningStep JournalMode := do
  let file : StoreFile := ⟨place, asked⟩
  match logged with
  | true =>
    if !sharing then throw (.cannotOpen none)
    if asked = .wal then return asked
    else if access = .read then throw .unreadable
    else
      convert store file
      return asked
  | false =>
    if asked ≠ .wal then return asked
    else if !sharing then return .delete
    else if access = .read then throw .readOnly
    else
      convert store file
      return asked

/-- Why a store in a file refuses every change, if it does. -/
def barrier (address : Address) (file : StoreFile) : Option StoreError :=
  if address.access = .read || address.immutable then some .readOnly
  else if file.journal.hasFile && lacksRoom file.place then some (.cannotOpen none)
  else none

/-- Reaches the store in a file. -/
def reachFile (path : Path) (address : Address) (sharing : Bool) (asked : JournalMode) : OpeningStep Opened := do
  let place ← findFile path address
  let (store, logged) ← (← get).storeAt place
  let journal ←
    if address.immutable then pure (JournalMode.delete.unlessLogged asked)
    else setJournal address.access (sharing && !address.unlocked) place asked store logged
  let file : StoreFile := ⟨place, journal⟩
  let barred := barrier address file
  return ⟨store, some (path, journal.name), if barred.isSome then none else some file, barred⟩

/-- Reaches a store that lies in no file. -/
def reachNowhere (path : Path) (address : Address) (journal : JournalMode) : Opened :=
  ⟨[], some (path, journal.name), none, if address.access = .read then some .readOnly else none⟩

/-- Reaches the store of an address. -/
def reachAddress (path : Path) (address : Address) (asked : JournalMode) : OpeningStep Opened :=
  if address.isInMemory then
    return reachNowhere path address (if asked = .off then .off else .memory)
  else if address.name.isEmpty then return reachNowhere path address (JournalMode.delete.unlessLogged asked)
  else
    match address.system with
    | .memory =>
      let access := if address.immutable then .read else address.access
      return reachNowhere path { address with access := access } (JournalMode.memory.unlessLogged asked)
    | .disk sharing => reachFile path address sharing asked

/-- Reaches the store of a path. -/
def reachPath (path : Path) (asked : JournalMode) : OpeningStep Opened := do
  match Path.nulAt? path with
  | some offset => throw (.nulInPath offset)
  | none => reachAddress path (← Address.ofPath path) asked

/-- Reaches the store of a configuration. -/
def Config.reach (env : Environment) (config : Config) : ExceptT Error (StateM FileTree) Opened := do
  if config.isInMemory env then return ⟨[], none, none, none⟩
  match config.storePath env with
  | .error e => throw (.config e)
  | .ok path =>
    (FileTree.createDirectories ((Path.parent? path).getD "")).adapt .io
    (reachPath path config.journal).adapt .storage

/-! ## Tables -/

namespace Opened

variable {ι : Type}

/-- Creates a table, unless there is one of its name. -/
def ensure (opened : Opened) (table : Table ι) : Except StoreError Opened := do
  let store ← opened.store.create table
  match opened.barred with
  | some refusal => if store = opened.store then return opened else throw refusal
  | none => return { opened with store := store }

/-- Creates some tables, as far as there are none of their names. The names that were looked for come first. -/
def ensureAll (opened : Opened) : List (Table ι) → List String × Except StoreError Opened
  | [] => ([], .ok opened)
  | table :: rest =>
    match opened.ensure table with
    | .error e => ([table.name], .error e)
    | .ok opened =>
      let (names, result) := opened.ensureAll rest
      (table.name :: names, result)

/-- A session on the store. -/
def session (opened : Opened) (policy : BulkPolicy) : Session := Session.start opened.store opened.barred policy

/-- Puts a store back where it lies, if it was changed. -/
def close (opened : Opened) (store : Store) (tree : FileTree) : FileTree :=
  match opened.file with
  | some file => if store = opened.store then tree else tree.putStore file store
  | none => tree

end Opened

/-! ## Opening -/

/-- What comes of opening a store: how it was reached, if it was; the names of the tables that were looked for; and the
open store, if nothing failed. -/
structure Opening where
  reached : Option (Path × String)
  ensured : List String
  result : Except Error Opened

/-- Opens the store of a configuration. -/
def Config.openStore (env : Environment) (config : Config) (tree : FileTree) : Opening × FileTree :=
  match (config.reach env).run.run tree with
  | (.error e, tree) => (⟨none, [], .error e⟩, tree)
  | (.ok opened, tree) =>
    let (ensured, result) := opened.ensureAll (builtIn.keys.map builtIn.table)
    let tree := match result with
      | .ok whole => opened.close whole.store tree
      | .error _ => tree
    (⟨opened.reached, ensured, result.mapError .storage⟩, tree)

end ModelStore
