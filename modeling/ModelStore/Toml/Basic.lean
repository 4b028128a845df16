import ModelStore.Toml.Scalar

/-!
# TOML documents

A document is a table of named items. A table comes about in one of three ways: by its own header, on the way of
another header, or by a dotted key; the way decides who may add to it later. An inline table is complete as written.

An item remembers the offsets at which its name and its value begin in the text.

## Main definitions

* `Item`, `Entries`: documents.
* `Entries.addPair`, `Entries.putTable`, `Entries.putElement`: the parts of a document, one at a time.
* `Item.unfit?`: the first number out of range.
-/

namespace ModelStore.Toml

/-! ## Items -/

/-- How a table came about. -/
inductive Origin where
  | header
  | passing
  | dotted
  deriving DecidableEq, Repr, Inhabited

/-- The offsets at which a name and its value begin. -/
structure Spot where
  name : Nat
  value : Nat
  deriving DecidableEq, Repr, Inhabited

/-- What stands under a name. The elements of an array of tables are those before the last one, and the last one. -/
inductive Item where
  | scalar (value : Scalar)
  | list (items : List (Nat × Item))
  | inlined (entries : List (String × Spot × Item))
  | table (origin : Origin) (entries : List (String × Spot × Item))
  | tables (before : List (List (String × Spot × Item))) (last : List (String × Spot × Item))
  deriving Repr, Inhabited

/-- Items with their offsets, under distinct names in order. -/
abbrev Entries := List (String × Spot × Item)

/-- A name in a key, with its offset. -/
abbrev KeyPart := String × Nat

namespace Entries

/-- The item of a name. -/
def find? (entries : Entries) (name : String) : Option Item := (entries.lookup name).map (·.2)

/-- Inserts an entry before the first one with a greater name. -/
def insert (entries : Entries) (name : String) (spot : Spot) (item : Item) : Entries :=
  entries.takeWhile (·.1 < name) ++ (name, spot, item) :: entries.dropWhile (·.1 < name)

/-- Replaces the item of a name. -/
def replace (entries : Entries) (name : String) (item : Item) : Entries :=
  entries.map fun (key, spot, old) => if key = name then (key, spot, item) else (key, spot, old)

/-- Writes an item under the name of a key part: in place of the earlier one if there is one. -/
def write (entries : Entries) (part : KeyPart) (item : Item) : Entries :=
  match entries.find? part.1 with
  | some _ => entries.replace part.1 item
  | none => entries.insert part.1 ⟨part.2, part.2⟩ item

/-- Changes the table to which a key leads, making the tables on the way. A dotted key enters no table that has a
header. Where a key cannot go on, the offset of its part is the failure. -/
def descend (dotted : Bool) (change : Origin → Entries → Except Nat Entries) :
    List KeyPart → Origin → Entries → Except Nat Entries
  | [], origin, entries => change origin entries
  | part :: rest, _, entries =>
    match entries.find? part.1 with
    | none => do
      let origin := if dotted then Origin.dotted else .passing
      return entries.write part (.table origin (← descend dotted change rest origin []))
    | some (.table origin inner) =>
      if dotted && origin = .header then .error part.2
      else do return entries.write part (.table origin (← descend dotted change rest origin inner))
    | some (.tables before last) => do
      return entries.write part (.tables before (← descend dotted change rest .header last))
    | some _ => .error part.2

/-- The table to which the key of a header leads, empty if it is not there. -/
def reach : List KeyPart → Entries → Except Nat Entries
  | [], entries => .ok entries
  | part :: rest, entries =>
    match entries.find? part.1 with
    | none => .ok []
    | some (.table _ inner) => reach rest inner
    | some (.tables _ last) => reach rest last
    | some _ => .error part.2

/-- Adds a value under a dotted key inside a table that has a header; nothing may stand there yet, and a key of several
parts ends in a table made by such keys. -/
def addPair (entries : Entries) (init : List KeyPart) (last : KeyPart) (offset : Nat) (item : Item) :
    Except Nat Entries :=
  descend true
    (fun origin entries =>
      if (origin == .dotted) == init.isEmpty then .error last.2
      else
        match entries.find? last.1 with
        | some _ => .error last.2
        | none => .ok (entries.insert last.1 ⟨last.2, offset⟩ item))
    init .header entries

/-- What stands under the header of a table before its own pairs: what other headers have put there. -/
def underHeader (entries : Entries) (init : List KeyPart) (last : KeyPart) : Except Nat Entries := do
  match (← entries.reach init).find? last.1 with
  | none => return []
  | some (.table .passing inner) => return inner
  | some _ => throw last.2

/-- Puts a table in its place, which `underHeader` has found to be free. -/
def putTable (entries : Entries) (init : List KeyPart) (last : KeyPart) (offset : Nat) (inner : Entries) :
    Except Nat Entries :=
  descend false
    (fun _ entries =>
      .ok (Entries.insert (entries.filter (·.1 != last.1)) last.1 ⟨last.2, offset⟩ (.table .header inner)))
    init .header entries

/-- Puts an element behind the others of its array of tables. -/
def putElement (entries : Entries) (init : List KeyPart) (last : KeyPart) (offset : Nat) (inner : Entries) :
    Except Nat Entries :=
  descend false
    (fun _ entries =>
      match entries.find? last.1 with
      | none => .ok (entries.insert last.1 ⟨last.2, offset⟩ (.tables [] inner))
      | some (.tables before latest) => .ok (entries.replace last.1 (.tables (before ++ [latest]) inner))
      | some _ => .error last.2)
    init .header entries

end Entries

/-! ## Numbers out of range -/

mutual

/-- The offset of the first number out of range in an item that stands at an offset. -/
def Item.unfit? (offset : Nat) : Item → Option Nat
  | .scalar (.unfit _) => some offset
  | .scalar _ => none
  | .list items => unfitItem? items
  | .inlined entries => unfitEntry? entries
  | .table _ entries => unfitEntry? entries
  | .tables before last => unfitTable? before <|> unfitEntry? last

/-- The offset of the first number out of range in the items of a list. -/
def unfitItem? : List (Nat × Item) → Option Nat
  | [] => none
  | (offset, item) :: rest => item.unfit? offset <|> unfitItem? rest

/-- The offset of the first number out of range in some entries. -/
def unfitEntry? : List (String × Spot × Item) → Option Nat
  | [] => none
  | (_, spot, item) :: rest => item.unfit? spot.value <|> unfitEntry? rest

/-- The offset of the first number out of range in some tables. -/
def unfitTable? : List (List (String × Spot × Item)) → Option Nat
  | [] => none
  | entries :: rest => unfitEntry? entries <|> unfitTable? rest

end

end ModelStore.Toml
