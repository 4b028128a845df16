/-!
# Methods

The eleven operations on a table, by their names.

## Main definitions

* `Method`: the operations.
* `Method.ofName?`: the operation of a name.
-/

namespace ModelStore

/-- An operation on a table. -/
inductive Method where
  | findFirst
  | findMany
  | create
  | update
  | updateMany
  | updateAll
  | upsert
  | delete
  | deleteMany
  | deleteAll
  | count
  deriving DecidableEq, Repr, Inhabited

namespace Method

/-- All operations. -/
def all : List Method :=
  [ findFirst, findMany, create, update, updateMany, updateAll, upsert, delete, deleteMany, deleteAll, count ]

/-- The name of an operation. -/
def name : Method → String
  | findFirst => "findFirst"
  | findMany => "findMany"
  | create => "create"
  | update => "update"
  | updateMany => "updateMany"
  | updateAll => "updateAll"
  | upsert => "upsert"
  | delete => "delete"
  | deleteMany => "deleteMany"
  | deleteAll => "deleteAll"
  | count => "count"

/-- The operation of a name. -/
def ofName? (name : String) : Option Method := all.find? (·.name == name)

end Method

end ModelStore
