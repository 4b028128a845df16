import ModelStore.Binary64.Basic

/-!
# JSON values

A JSON value keeps what a document says: integers apart from other numbers, and the fields of an object in
the order in which they were written. A key occurs once in an object; writing it again replaces the value
and leaves the place.

## Main definitions

* `Fields`: values under distinct names, in order.
* `Json`: the values.
-/

namespace ModelStore

/-! ## Ordered fields -/

/-- Values under names, in the order of first writing. -/
abbrev Fields (α : Type) := List (String × α)

namespace Fields

/-- The value under a name. -/
def get? {α : Type} (fields : Fields α) (name : String) : Option α :=
  List.lookup name fields

/-- Whether a name occurs. -/
def contains {α : Type} (fields : Fields α) (name : String) : Bool :=
  fields.any (·.1 == name)

/-- Writes a value: in place if the name occurs, at the end otherwise. -/
def set {α : Type} : Fields α → String → α → Fields α
  | [], name, value => [(name, value)]
  | (key, old) :: rest, name, value =>
    if key = name then (key, value) :: rest else (key, old) :: set rest name value

/-- Writes several values, one after another. -/
def setAll {α : Type} (fields : Fields α) (entries : List (String × α)) : Fields α :=
  entries.foldl (fun acc entry => set acc entry.1 entry.2) fields

/-- The names, in order. -/
def names {α : Type} (fields : Fields α) : List String := fields.map (·.1)

end Fields

/-! ## Values -/

/-- A JSON value. An integer is one that fits 64 bits, signed or unsigned; all other numbers are reals. -/
inductive Json where
  | null
  | bool (value : Bool)
  | int (value : Int)
  | real (value : Binary64)
  | text (value : String)
  | list (items : List Json)
  | object (fields : List (String × Json))
  deriving Repr, Inhabited

namespace Json

/-- Whether the value is null. -/
def isNull : Json → Bool
  | null => true
  | _ => false

/-- Whether the value is a list or an object. -/
def isCompound : Json → Bool
  | list _ | object _ => true
  | _ => false

/-- The number of a natural number. -/
def ofNat (n : Nat) : Json := .int n

/-- The list of some texts. -/
def texts (items : List String) : Json := .list (items.map .text)

/-- The value, or null. -/
def ofOption (value : Option Json) : Json := value.getD .null

end Json

end ModelStore
