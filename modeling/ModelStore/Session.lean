import ModelStore.Operation.Work
import ModelStore.Schema.BuiltIn

/-!
# Sessions

A session is an open store with a policy and a history of notes. The time and the fresh identifiers come from
outside.

## Main definitions

* `Session`, `World`: sessions and what surrounds them.
* `Session.perform`: an operation on a table.
* `Session.dispatch`, `Session.call`, `Session.answer`: the same for arguments, for calls, and with every failure
  folded into the answer.
-/

namespace ModelStore

/-- What a session takes from outside: the time, in seconds since 1970, and an unlimited supply of identifiers. -/
structure World where
  now : Int
  freshId : Nat → String

/-- An open store, and why it refuses every change, if it does. The number of identifiers issued so far tells which one
comes next. -/
structure Session where
  store : Store
  barred : Option StoreError
  policy : BulkPolicy
  issued : Nat
  history : List Note
  deriving Repr, Inhabited

namespace Session

/-- A session on a store. -/
def start (store : Store) (barred : Option StoreError) (policy : BulkPolicy) : Session :=
  ⟨store, barred, policy, 0, []⟩

/-- The diagnostics reported so far. -/
def events (session : Session) : List Event := Note.eventsOf session.history

/-- The statements sent so far. -/
def sent (session : Session) : List Statement := Note.sentOf session.history

/-- Adds to the history. -/
def remember (session : Session) (notes : List Note) : Session :=
  { session with history := session.history ++ notes }

variable {ι : Type}

/-- Performs an operation on the table of a key. -/
def perform (schema : Schema ι) (world : World) (key : ι) (operation : Operation) (session : Session) :
    Except Error Outcome × Session :=
  let ids := fun k => world.freshId (session.issued + k)
  let (prepared, events) := (operation.prepare schema key session.policy ids).run.run []
  let issued := session.issued + operation.idCount (schema.table key)
  let session := { session.remember (events.map .reported) with issued := issued }
  match prepared with
  | .error e => (.error e, session)
  | .ok work =>
    let (notes, result) := work.run world.now session.store session.barred
    let session := session.remember notes
    match result with
    | .error e => (.error (.storage e), session)
    | .ok (outcome, store) => (.ok outcome, { session with store := store })

/-- Performs the operation of a method and the arguments of a call. -/
def dispatch (schema : Schema ι) (world : World) (key : ι) (method : Method) (args : Json) (session : Session) :
    Except Error Json × Session :=
  match Operation.ofJson method args with
  | .error failure => (.error (.invalidArguments failure), session)
  | .ok operation =>
    let (result, session) := session.perform schema world key operation
    (result.map Outcome.toJson, session)

/-- A result, or the envelope of a failure. -/
def answerOf : Except Error Json → Json
  | .ok result => result
  | .error e => e.envelope

/-- Performs a call. The model is looked up before the method. -/
def call (schema : Schema ι) (world : World) (call : Call) (session : Session) : Except Error Json × Session :=
  match schema.find? call.model with
  | none => (.error (.unknownModel call.model), session)
  | some key =>
    match Method.ofName? call.method with
    | none => (.error (.unknownMethod call.model call.method), session)
    | some method =>
      (session.remember [.dispatching call.model method.name]).dispatch schema world key method call.args

/-- Performs a call that may not have been understood. -/
def attempt (schema : Schema ι) (world : World) (call : Except Json.Failure Call) (session : Session) :
    Except Error Json × Session :=
  match call with
  | .error failure => (.error (.invalidArguments failure), session)
  | .ok call => session.call schema world call

/-- The answer to a call that may not have been understood, a failure as its envelope. -/
def answer (schema : Schema ι) (world : World) (call : Except Json.Failure Call) (session : Session) :
    Json × Session :=
  let (result, session) := session.attempt schema world call
  (answerOf result, session)

end Session

end ModelStore
