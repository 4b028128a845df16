import ModelStore.Json.Basic

/-!
# Options of the operations

What a caller says about an operation: which rows, which columns, in what order, and which related rows. Names
are those of columns and relations, not yet looked up in any table. Everything keeps the order of the caller.

## Main definitions

* `Condition`, `Conditions`: which rows.
* `FindOptions`, `Include`: what a search returns.
* `CreateOptions` and the other option records, one for each further operation.
-/

namespace ModelStore

/-! ## Conditions -/

/-- The operators on one column. A null operand that was given differs from an operand that was not. -/
structure Operators where
  eq : Option Json
  ne : Option Json
  gt : Option Json
  gte : Option Json
  lt : Option Json
  lte : Option Json
  among : Option (List Json)
  deriving Repr, Inhabited

namespace Operators

/-- No operator. -/
def empty : Operators := ⟨.none, .none, .none, .none, .none, .none, .none⟩

/-- Whether there is no operator. -/
def isEmpty (ops : Operators) : Bool :=
  ops.eq.isNone && ops.ne.isNone && ops.gt.isNone && ops.gte.isNone && ops.lt.isNone && ops.lte.isNone
    && ops.among.isNone

end Operators

/-- What is asked of one column. -/
inductive Condition where
  /-- A bare value: the column equals it. -/
  | equals (value : Json)
  | operators (ops : Operators)
  deriving Repr, Inhabited

/-- Conditions on columns, all of which have to hold. -/
abbrev Conditions := List (String × Condition)

/-! ## Searches -/

/-- The direction of a sort key. -/
inductive Direction where
  | ascending
  | descending
  deriving DecidableEq, Repr, Inhabited

/-- The direction in a statement. -/
def Direction.sql : Direction → String
  | .ascending => "ASC"
  | .descending => "DESC"

/-- What a search says about its own table. -/
structure SearchOptions where
  filter : Option Conditions
  select : Option (Fields Bool)
  orderBy : Option (List (String × Direction))
  take : Option Nat
  skip : Option Nat
  deriving Repr, Inhabited

/-- The search that says nothing. -/
def SearchOptions.empty : SearchOptions := ⟨.none, .none, .none, .none, .none⟩

/-- What is asked of a relation: nothing, all of it, or a search of its own. -/
inductive Include where
  | flag (value : Bool)
  | nested (own : SearchOptions) (includes : Option (List (String × Include)))
  deriving Repr, Inhabited

/-- The relations that are asked for. -/
abbrev Includes := List (String × Include)

/-- What a search returns. -/
structure FindOptions where
  own : SearchOptions
  includes : Option Includes
  deriving Repr, Inhabited

/-- The search for every row. -/
def FindOptions.empty : FindOptions := ⟨.empty, .none⟩

/-! ## Mutations -/

/-- The values of a new or changed row. -/
abbrev Payload := Fields Json

/-- A row to create. -/
structure CreateOptions where
  data : Payload
  deriving Repr, Inhabited

/-- Rows to change, one of which is returned. -/
structure UpdateOptions where
  filter : Conditions
  data : Payload
  deriving Repr, Inhabited

/-- Rows to change. -/
structure UpdateManyOptions where
  filter : Option Conditions
  data : Payload
  deriving Repr, Inhabited

/-- What to change in every row. -/
structure UpdateAllOptions where
  data : Payload
  deriving Repr, Inhabited

/-- Rows to change, or a row to create if there are none. -/
structure UpsertOptions where
  filter : Option Conditions
  update : Payload
  create : Payload
  deriving Repr, Inhabited

/-- Rows to delete, one of which is returned. -/
structure DeleteOptions where
  filter : Conditions
  deriving Repr, Inhabited

/-- Rows to delete or to count. -/
structure FilterOptions where
  filter : Option Conditions
  deriving Repr, Inhabited

end ModelStore
