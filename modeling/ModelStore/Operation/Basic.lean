import ModelStore.Operation.Method
import ModelStore.Query.Decode

/-!
# Operations

An operation with its options. The options of a call are one object; a call may wrap it in a list, of which only
the first item counts. Where every option may be left out, a null stands for none at all. The removal of every row
has no options and looks at nothing.

## Main definitions

* `Operation`: operations.
* `Operation.ofJson`: the operation that a method and the arguments of a call stand for.
-/

namespace ModelStore

/-- An operation on a table. -/
inductive Operation where
  | findFirst (options : FindOptions)
  | findMany (options : FindOptions)
  | create (options : CreateOptions)
  | update (options : UpdateOptions)
  | updateMany (options : UpdateManyOptions)
  | updateAll (options : UpdateAllOptions)
  | upsert (options : UpsertOptions)
  | delete (options : DeleteOptions)
  | deleteMany (options : FilterOptions)
  | deleteAll
  | count (options : FilterOptions)
  deriving Repr

/-- The options of a call. -/
def firstArgument : Json → Json
  | .list (first :: _) => first
  | .list [] => .null
  | value => value

namespace Operation

/-- The method of an operation. -/
def method : Operation → Method
  | findFirst _ => .findFirst
  | findMany _ => .findMany
  | create _ => .create
  | update _ => .update
  | updateMany _ => .updateMany
  | updateAll _ => .updateAll
  | upsert _ => .upsert
  | delete _ => .delete
  | deleteMany _ => .deleteMany
  | deleteAll => .deleteAll
  | count _ => .count

/-- What a value is read as, a null being what nothing was said of. -/
def orElse {α : Type} (initial : α) (read : Json → Except Json.Failure α) : Json → Except Json.Failure α
  | .null => .ok initial
  | value => read value

/-- The operation of a method with the options given. -/
def ofOptions (method : Method) (options : Json) : Except Json.Failure Operation :=
  match method with
  | .findFirst => findFirst <$> orElse .empty (decode findShape) options
  | .findMany => findMany <$> orElse .empty (decode findShape) options
  | .create => create <$> decode createShape options
  | .update => update <$> decode updateShape options
  | .updateMany => updateMany <$> decode updateManyShape options
  | .updateAll => updateAll <$> decode updateAllShape options
  | .upsert => upsert <$> decode upsertShape options
  | .delete => delete <$> decode deleteShape options
  | .deleteMany => deleteMany <$> orElse ⟨none⟩ (decode filterShape) options
  | .deleteAll => .ok deleteAll
  | .count => count <$> orElse ⟨none⟩ (decode filterShape) options

/-- The operation that a method and the arguments of a call stand for. -/
def ofJson (method : Method) (args : Json) : Except Json.Failure Operation :=
  ofOptions method (firstArgument args)

end Operation

end ModelStore
