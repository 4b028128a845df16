import ModelStore.Config.Basic
import ModelStore.Operation.Basic
import ModelStore.Operation.Note
import ModelStore.Query.Mutation
import ModelStore.Query.Row

/-!
# Work on the store

An operation is prepared first, and only then is the store touched. Preparing it yields work: the statements to
send, and what to make of their answers. All that is wrong with an operation itself shows while it is prepared; the
work can fail only if the store refuses a statement, and then leaves the store as it was.

The work of an upsert is a lookup and, after it, a change or an insertion. All three statements are there before the
first is sent.

## Main definitions

* `Work`, `Outcome`: work and what comes of it.
* `Operation.prepare`: the work of an operation.
* `Work.run`: what is noted, and what comes of the work on a store.
-/

namespace ModelStore

/-! ## Work and its outcome -/

/-- Statements to send, and what to make of their answers. -/
inductive Work where
  /-- All rows. -/
  | rows (statement : Statement)
  /-- The first row, if there is one. -/
  | first (statement : Statement)
  /-- The first row, which is there. -/
  | only (statement : Statement)
  /-- The number of rows touched or counted. -/
  | number (statement : Statement)
  /-- The row that the insertion adds if the lookup finds none. Otherwise the first row that the change leaves, or the
  row found if there is no change. -/
  | upsert (lookup : Statement) (change : Option Statement) (insertion : Statement)
  deriving Repr

/-- What comes of an operation. -/
inductive Outcome where
  | rows (records : List Record)
  | row (record : Option Record)
  | number (n : Nat)
  deriving Repr, Inhabited

/-- An outcome as JSON. -/
def Outcome.toJson : Outcome → Json
  | rows records => .list (records.map .object)
  | row record => .ofOption (record.map .object)
  | number n => .ofNat n

/-! ## Preparation -/

variable {ι : Type}

/-- Reports a bulk mutation without a condition, or refuses it. -/
def checkBulk (policy : BulkPolicy) (table : String) (filter : Option Conditions) (operation : BulkOperation) :
    Reporting Unit :=
  match filter, policy with
  | some _, _ => pure ()
  | none, .deny => throw (.refused (.unboundedMutation table operation))
  | none, .warn => report (.unboundedMutation table operation)

/-- The condition of an upsert, which has to constrain something. -/
def requireConditions (table : Table ι) : Option Conditions → Except Error Conditions
  | none => .error (.refused .unconditionalUpsert)
  | some conditions => do
    let terms ← conditions.compile table none
    if terms.isEmpty then .error (.refused .unconditionalUpsert) else return conditions

namespace Operation

/-- The work of an upsert. -/
def prepareUpsert (table : Table ι) (ids : Nat → String) (options : UpsertOptions) : Except Error Work := do
  let conditions ← requireConditions table options.filter
  let lookup ← table.lookup (some conditions)
  let change ←
    if options.update.isEmpty then pure none
    else some <$> table.change (some conditions) options.update true
  let insertion ← table.insertion ids options.create
  return .upsert lookup change insertion

/-- The work of an operation on the table of a key, given the policy and fresh identifiers. -/
def prepare (schema : Schema ι) (key : ι) (policy : BulkPolicy) (ids : Nat → String) :
    Operation → Reporting Work
  | findFirst options => do
    let plan ← Plan.build schema key options
    return .first (.find (plan.withWindow ⟨some 1, options.own.skip⟩))
  | findMany options => do return .rows (.find (← Plan.build schema key options))
  | create options => do return .only (← liftExcept ((schema.table key).insertion ids options.data))
  | update options => do
    return .first (← liftExcept ((schema.table key).change (some options.filter) options.data true))
  | updateMany options => do
    let statement ← liftExcept ((schema.table key).change options.filter options.data false)
    checkBulk policy (schema.table key).name options.filter .updateMany
    return .number statement
  | updateAll options => do
    return .number (← liftExcept ((schema.table key).change none options.data false))
  | upsert options => liftExcept (prepareUpsert (schema.table key) ids options)
  | delete options => do return .first (← liftExcept ((schema.table key).removal (some options.filter) true))
  | deleteMany options => do
    let statement ← liftExcept ((schema.table key).removal options.filter false)
    checkBulk policy (schema.table key).name options.filter .deleteMany
    return .number statement
  | deleteAll => do return .number (← liftExcept ((schema.table key).removal none false))
  | count options => do return .number (← liftExcept ((schema.table key).counting options.filter))

/-- How many fresh identifiers an operation on a table may use. -/
def idCount (table : Table ι) : Operation → Nat
  | create options => (table.identified options.data).length
  | upsert options => (table.identified options.create).length
  | _ => 0

end Operation

/-! ## Running -/

/-- A store while work is done on it, why it refuses every change, if it does, and what was noted. -/
structure Connection where
  store : Store
  barred : Option StoreError
  notes : List Note
  deriving Repr, Inhabited

/-- A step of work, which the store may refuse. -/
abbrev Transaction (α : Type) := ExceptT StoreError (StateM Connection) α

/-- Notes something. -/
def note (n : Note) : Transaction Unit := modify fun c => { c with notes := c.notes ++ [n] }

/-- What a statement answers at a time on a store that may refuse every change. It does so as soon as the statement has
been read. -/
def Statement.attempt (now : Int) (store : Store) (barred : Option StoreError) (statement : Statement) :
    Except StoreError (Answer × Store) :=
  match statement.run now store, barred with
  | .ok result, some refusal => if statement.changes then .error refusal else .ok result
  | .error e, some refusal => .error (if e.concernsRows then refusal else e)
  | result, none => result

/-- Sends a statement at a time. -/
def send (now : Int) (statement : Statement) : Transaction Answer := do
  note (.sent statement)
  let connection ← get
  match statement.attempt now connection.store connection.barred with
  | .error e => throw e
  | .ok (answer, store) =>
    set { connection with store := store }
    return answer

/-- The rows that a statement returns. -/
def fetch (now : Int) (statement : Statement) : Transaction (List Record) := do
  return (← send now statement).records statement.outputs

/-- The first row that a statement returns, which is there. -/
def fetchOnly (now : Int) (statement : Statement) : Transaction Record := do
  match ← fetch now statement with
  | record :: _ => return record
  | [] => throw .noRow

/-- Notes that a change hit several rows. -/
def noteSeveral (statement : Statement) (rows : Nat) : Transaction Unit :=
  match statement with
  | .update table .. => if 1 < rows then note (.severalMatched table rows) else pure ()
  | _ => pure ()

namespace Work

/-- Does the work. -/
def perform (now : Int) : Work → Transaction Outcome
  | rows statement => do return .rows (← fetch now statement)
  | first statement => do
    let records ← fetch now statement
    noteSeveral statement records.length
    return .row records.head?
  | only statement => do return .row (some (← fetchOnly now statement))
  | number statement => do return .number (← send now statement).affected
  | upsert lookup change insertion => do
    match (← fetch now lookup).head?, change with
    | some record, none => return .row (some record)
    | some _, some statement => return .row (some (← fetchOnly now statement))
    | none, _ => return .row (some (← fetchOnly now insertion))

/-- What is noted, and what comes of the work with the store that it leaves; a refusal leaves the store as it was. -/
def run (now : Int) (store : Store) (barred : Option StoreError) (work : Work) :
    List Note × Except StoreError (Outcome × Store) :=
  let (result, connection) := (work.perform now).run.run ⟨store, barred, []⟩
  (connection.notes, result.map fun outcome => (outcome, connection.store))

end Work

end ModelStore
