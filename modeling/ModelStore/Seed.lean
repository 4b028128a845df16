import ModelStore.Session

/-!
# Sample data

Ten users, ten printers and ten invoice templates. The first user is an administrator and the first printer is the
default one; the i-th printer and the i-th template belong to the i-th user.

## Main definitions

* `Session.seed`: creates the sample data.
-/

namespace ModelStore

/-- The number of rows of each kind. -/
def seedCount : Nat := 10

/-- How many rows were created. -/
structure SeedSummary where
  users : Nat
  printers : Nat
  templates : Nat
  deriving DecidableEq, Repr, Inhabited

namespace Seed

/-- The i-th user. -/
def user (i : Nat) : Payload :=
  [ ("name", .text ("User " ++ toString i))
  , ("email", .text ("user" ++ toString i ++ "@example.com"))
  , ("role", .text (if i = 1 then "ADMIN" else "USER")) ]

/-- The i-th printer, of an owner. -/
def printer (i : Nat) (owner : String) : Payload :=
  [ ("name", .text ("Printer " ++ toString i)), ("isDefault", .bool (i = 1)), ("userId", .text owner) ]

/-- The i-th invoice template, of an author. -/
def template (i : Nat) (author : String) : Payload :=
  [ ("name", .text ("Template " ++ toString i))
  , ("content",
      .text ("<h1>Invoice Template " ++ toString i ++ "</h1><p>Content for template " ++ toString i ++ "</p>"))
  , ("userId", .text author) ]

/-- The identifier that a user came back with. -/
def identifier : Outcome → Except Error String
  | .row (some record) =>
    match record.get? "id" with
    | some (.text id) => .ok id
    | _ => .error (.refused .unidentifiedUser)
  | _ => .error (.refused .unidentifiedUser)

end Seed

namespace Session

/-- Creates rows of a table, one after another, as far as it goes, and reads something off each of them. -/
def createAll {α : Type} (world : World) (key : BuiltIn) (read : Outcome → Except Error α) :
    List Payload → Session → Except Error (List α) × Session
  | [], session => (.ok [], session)
  | data :: rest, session =>
    match session.perform builtIn world key (.create ⟨data⟩) with
    | (.error e, session) => (.error e, session)
    | (.ok outcome, session) =>
      match read outcome with
      | .error e => (.error e, session)
      | .ok a =>
        let (others, session) := createAll world key read rest session
        (others.map (a :: ·), session)

/-- Creates the sample data. What was created before a failure stays. -/
def seed (world : World) (session : Session) : Except Error SeedSummary × Session :=
  let numbers := (List.range seedCount).map (· + 1)
  match session.createAll world .users Seed.identifier (numbers.map Seed.user) with
  | (.error e, session) => (.error e, session)
  | (.ok ids, session) =>
    let owned := numbers.zip ids
    match session.createAll world .printers .ok (owned.map fun (i, owner) => Seed.printer i owner) with
    | (.error e, session) => (.error e, session)
    | (.ok _, session) =>
      match session.createAll world .invoiceTemplates .ok (owned.map fun (i, author) => Seed.template i author) with
      | (.error e, session) => (.error e, session)
      | (.ok _, session) => (.ok ⟨seedCount, seedCount, seedCount⟩, session)

end Session

end ModelStore
