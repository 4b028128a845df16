import ModelStore.Files.Path
import ModelStore.Store.Error
import ModelStore.Text.Utf8

/-!
# Addresses of stores

A store is named by a path, or by a URI: the scheme `file:`, a file name, and parameters behind a question mark. In a
URI a percent sign with two hexadecimal digits stands for a byte, and a zero byte ends the part that it stands in. The
parameters tell what may be done with the file, which system keeps it, and whether it is taken to stay as it is.

## Main definitions

* `Address`: where a store lies and how it may be used.
* `Address.ofPath`: the address that a path means.
-/

namespace ModelStore

/-! ## Access -/

/-- What may be done with the file of a store. It may also be left aside for a store in memory. -/
inductive AccessMode where
  | read
  | change
  | create
  | memory
  deriving DecidableEq, Repr, Inhabited

namespace AccessMode

/-- All kinds of access. -/
def all : List AccessMode := [read, change, create, memory]

/-- The name of a kind of access. -/
def name : AccessMode → String
  | read => "ro"
  | change => "rw"
  | create => "rwc"
  | memory => "memory"

/-- The kind of access of a name. -/
def ofName? (name : String) : Option AccessMode := all.find? (·.name == name)

/-- The rank of a kind of access. -/
def rank : AccessMode → Nat
  | read => 1
  | change => 2
  | create => 6
  | memory => 128

/-- Whether a kind of access may be replaced by another one: never by more than there is, except that a store may
always be in memory. -/
def allows (access next : AccessMode) : Bool := next == memory || decide (next.rank ≤ access.rank)

end AccessMode

/-! ## Systems -/

/-- What keeps the files of stores: the disk, on which several users may or may not share memory, or the memory. -/
inductive FileSystem where
  | disk (sharing : Bool)
  | memory
  deriving DecidableEq, Repr, Inhabited

/-- The file system of a name. -/
def FileSystem.ofName? : String → Option FileSystem
  | "unix" | "unix-excl" => some (.disk true)
  | "unix-none" | "unix-dotfile" => some (.disk false)
  | "memdb" => some .memory
  | _ => none

/-! ## Addresses -/

/-- Where a store lies and how it may be used: the name of its file, empty for a store that lies nowhere, what may be
done with the file, what keeps it, whether it is taken to stay as it is, and whether it is used without locks. -/
structure Address where
  name : Path
  access : AccessMode
  system : FileSystem
  immutable : Bool
  unlocked : Bool
  deriving DecidableEq, Repr, Inhabited

namespace Address

/-- The address of a path that is no URI. -/
def plain (path : Path) : Address := ⟨path, .create, .disk true, false, false⟩

/-! ## Parts of a URI -/

/-- The byte of an ASCII character. -/
def code (c : Char) : UInt8 := c.toNat.toUInt8

/-- The bytes before a separator, and those behind it if there is one. -/
def cut (separator : Char) (bytes : List UInt8) : List UInt8 × Option (List UInt8) :=
  let before := bytes.takeWhile (· != code separator)
  (before, (bytes.drop before.length).tail?)

/-- The parts between separators. -/
def splitAll (separator : Char) : List UInt8 → List (List UInt8)
  | [] => [[]]
  | b :: rest =>
    if b = code separator then [] :: splitAll separator rest
    else
      match splitAll separator rest with
      | part :: parts => (b :: part) :: parts
      | [] => [[b]]

/-- The value of a hexadecimal digit. -/
def hexDigit? (b : UInt8) : Option Nat :=
  let n := b.toNat
  if 0x30 ≤ n ∧ n ≤ 0x39 then some (n - 0x30)
  else if 0x41 ≤ n ∧ n ≤ 0x46 then some (n - 0x37)
  else if 0x61 ≤ n ∧ n ≤ 0x66 then some (n - 0x57)
  else none

/-- The byte that three bytes stand for, if they are a percent sign and two digits. -/
def escaped? (sign high low : UInt8) : Option Nat :=
  if sign = code '%' then do return (← hexDigit? high) * 16 + (← hexDigit? low) else none

/-- The bytes that a part of a URI stands for. -/
def decodePart : List UInt8 → List UInt8
  | sign :: high :: low :: rest =>
    match escaped? sign high low with
    | none => sign :: decodePart (high :: low :: rest)
    | some 0 => []
    | some n => n.toUInt8 :: decodePart rest
  | rest => rest

/-- The text that a part of a URI stands for. -/
def textOf (part : List UInt8) : String := String.ofList (Text.decodeLossy (decodePart part))

/-- The parameters of a query. Those without a name do not count. -/
def parametersOf (query : List UInt8) : List (String × String) :=
  ((splitAll '&' query).map fun part =>
    let (name, value) := cut '=' part
    (textOf name, textOf (value.getD []))).filter fun (name, _) => name != ""

/-- What stands behind the authority of a URI, given what stands behind its scheme. Only the own host may be named. -/
def withoutAuthority (bytes : List UInt8) : Except StoreError (List UInt8) :=
  match bytes with
  | a :: b :: rest =>
    if a = code '/' ∧ b = code '/' then
      let host := rest.takeWhile (· != code '/')
      let name := String.ofList (Text.decodeLossy host)
      if name = "" ∨ name = "localhost" then .ok (rest.drop host.length) else .error (.unknownAuthority name)
    else .ok bytes
  | _ => .ok bytes

/-! ## Parameters -/

/-- Whether a text says yes: a number whose last eight bits are not all zero, or a word. -/
def saysYes (text : String) : Bool :=
  let digits := text.toList.takeWhile Char.isDigit
  if digits.isEmpty then ["on", "yes", "true"].contains (text.map Char.toLower)
  else
    let number := digits.foldl (fun acc c => acc * 10 + (c.toNat - 48)) 0
    decide (number < Nat.pow 2 31) && number % 256 != 0

/-- Whether the first parameter of a name says yes. -/
def isSet (parameters : List (String × String)) (name : String) : Bool :=
  ((parameters.lookup name).map saysYes).getD false

/-- What may be done with a file after one more parameter. -/
def applyMode (access : AccessMode) (parameter : String × String) : Except StoreError AccessMode :=
  let (name, value) := parameter
  if name = "mode" then
    match AccessMode.ofName? value with
    | none => .error (.unknownMode "access" value)
    | some next => if access.allows next then .ok next else .error (.modeNotAllowed value)
  else if name = "cache" ∧ value ≠ "shared" ∧ value ≠ "private" then .error (.unknownMode "cache" value)
  else .ok access

/-- The address of a name with parameters. The last system that is named counts. -/
def ofParameters (name : Path) (parameters : List (String × String)) : Except StoreError Address := do
  let access ← parameters.foldlM applyMode AccessMode.create
  let system := (parameters.reverse.lookup "vfs").getD "unix"
  match FileSystem.ofName? system with
  | none => throw (.unknownSystem system)
  | some found => return ⟨name, access, found, isSet parameters "immutable", isSet parameters "nolock"⟩

/-- The address of a URI, given what stands behind its scheme. -/
def ofUri (bytes : List UInt8) : Except StoreError Address := do
  let (text, _) := cut '#' (← withoutAuthority bytes)
  let (name, query) := cut '?' text
  ofParameters (textOf name) ((query.map parametersOf).getD [])

/-- The address that a path means. -/
def ofPath (path : Path) : Except StoreError Address :=
  if "file:".toList.isPrefixOf path.toList then ofUri (path.toUTF8.toList.drop 5) else .ok (plain path)

/-- Whether the store lies in memory. -/
def isInMemory (address : Address) : Bool := address.access == .memory || address.name == ":memory:"

end Address

end ModelStore
