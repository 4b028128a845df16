import ModelStore.Proofs.Operation.Running
import ModelStore.Proofs.Query.Writing

/-!
# What sessions keep

Whatever every answered statement keeps of a store, a session keeps through any calls, whether they
succeed or fail: sending statements is all that it does to the store.

In particular a session on a store that was created from a schema goes on to hold the schema, so
what is said of such a store is said of every store that calls can lead to.

## Main definitions

* `Statement.Keep`, `Statement.Keeps`: properties of stores that every answered statement, or one
  of them, keeps.
* `Statement.Effect`: what an answered statement does to a store.
* `Session.after`: a session after some calls.

## Main results

* `Statement.effect_of_answer`: answered statements have an effect of these and no other.
* `Session.perform_keeps_of`: what the statements of an operation keep, the operation keeps.
* `Session.after_keeps`: what statements keep, calls keep.
* `Session.holds_after`, `Session.holds_after_bootstrap`: a session goes on to hold its schema.
-/

namespace ModelStore

open Sql (Expr)

/-! ## Statements -/

/-- A property of stores that every answered statement keeps. -/
def Statement.Keep (P : Store → Prop) : Prop :=
  ∀ {now : Int} {store left : Store} {statement : Statement} {answer : Answer},
    P store → statement.answer now store = .ok (answer, left) → P left

section Holds

variable {ι : Type} {schema : Schema ι}

theorem Statement.tableOf_eq_ok {store : Store} {name : String} {stored : StoredTable} :
    tableOf store name = .ok stored ↔ store.table? name = some stored := by
  unfold tableOf
  cases store.table? name with
  | none => simp
  | some found => simp

/-- What an answered statement does to a store: it leaves it as it is, or it puts one of its tables
back with a row more, with some rows changed or without some. -/
inductive Statement.Effect (now : Int) (store : Store) : Statement → Store → Prop where
  | found (plan : Plan) : Effect now store (.find plan) store
  | looked (table : String) (columns : List Column) (predicate : List Expr) :
      Effect now store (.first table columns predicate) store
  | counted (table : String) (predicate : List Expr) :
      Effect now store (.count table predicate) store
  | inserted {table : String} {values : Assignments} {returned : List Column}
      {stored next : StoredTable} {row : StoredRow} (hFound : store.table? table = some stored)
      (hInsert : stored.insert now (stored.slotsOf values) = .ok (row, next)) :
      Effect now store (.insert table values returned) (store.put next)
  | changed {table : String} {values : Assignments} {predicate : List Expr}
      {returned : Option (List Column)} {stored next : StoredTable} {rows : List StoredRow}
      (hFound : store.table? table = some stored)
      (hUpdate : stored.update (stored.slotsOf values.reverse) (stored.choose predicate) =
        .ok (rows, next)) :
      Effect now store (.update table values predicate returned) (store.put next)
  | removed {table : String} {predicate : List Expr} {returned : Option (List Column)}
      {stored : StoredTable} (hFound : store.table? table = some stored) :
      Effect now store (.delete table predicate returned)
        (store.put (stored.delete (stored.choose predicate)))

/-- **Statements**: what an answered statement does to the store. -/
theorem Statement.effect_of_answer {now : Int} {store left : Store} {statement : Statement}
    {answer : Answer} (hAnswer : statement.answer now store = .ok (answer, left)) :
    statement.Effect now store left := by
  cases statement with
  | find plan =>
      obtain ⟨_, -, hPure⟩ := bind_eq_ok.mp hAnswer
      obtain ⟨-, rfl⟩ := Prod.mk.inj (pure_eq_ok.mp hPure)
      exact .found plan
  | first table columns predicate =>
      obtain ⟨stored, -, hPure⟩ := bind_eq_ok.mp hAnswer
      obtain ⟨-, rfl⟩ := Prod.mk.inj (pure_eq_ok.mp hPure)
      exact .looked table columns predicate
  | insert table values returned =>
      obtain ⟨stored, hStored, hRest⟩ := bind_eq_ok.mp hAnswer
      obtain ⟨given, hGiven, hRest⟩ := bind_eq_ok.mp hRest
      obtain ⟨⟨row, next⟩, hInsert, hPure⟩ := bind_eq_ok.mp hRest
      obtain ⟨-, rfl⟩ := Prod.mk.inj (pure_eq_ok.mp hPure)
      rw [StoredTable.eq_slotsOf hGiven] at hInsert
      exact .inserted (tableOf_eq_ok.mp hStored) hInsert
  | update table values predicate returned =>
      obtain ⟨stored, hStored, hRest⟩ := bind_eq_ok.mp hAnswer
      obtain ⟨given, hGiven, hRest⟩ := bind_eq_ok.mp hRest
      obtain ⟨⟨rows, next⟩, hUpdate, hPure⟩ := bind_eq_ok.mp hRest
      obtain ⟨-, rfl⟩ := Prod.mk.inj (pure_eq_ok.mp hPure)
      rw [StoredTable.eq_slotsOf hGiven, StoredTable.slotsOf_reverse] at hUpdate
      exact .changed (tableOf_eq_ok.mp hStored) hUpdate
  | delete table predicate returned =>
      obtain ⟨stored, hStored, hPure⟩ := bind_eq_ok.mp hAnswer
      obtain ⟨-, rfl⟩ := Prod.mk.inj (pure_eq_ok.mp hPure)
      exact .removed (tableOf_eq_ok.mp hStored)
  | count table predicate =>
      obtain ⟨stored, -, hPure⟩ := bind_eq_ok.mp hAnswer
      obtain ⟨-, rfl⟩ := Prod.mk.inj (pure_eq_ok.mp hPure)
      exact .counted table predicate

/-- A store that holds a schema holds it after every statement. -/
theorem Statement.keep_holds : Statement.Keep fun store => store.Holds schema := by
  intro now store left statement answer hStore hAnswer
  cases Statement.effect_of_answer hAnswer with
  | found | looked | counted => exact hStore
  | inserted hFound hInsert =>
      exact hStore.put hFound (StoredTable.name_of_insert hInsert)
        fun key hHolds => hHolds.of_insert hInsert
  | changed hFound hUpdate =>
      exact hStore.put hFound (StoredTable.name_of_updateRows hUpdate)
        fun key hHolds => hHolds.of_update (fun row hRow => (List.mem_filter.mp hRow).1) hUpdate
  | removed hFound => exact hStore.put hFound rfl fun key hHolds => hHolds.of_delete _

end Holds

/-! ## Work -/

section Work

variable {P : Store → Prop} {now : Int}

/-- A statement keeps a property of stores where it is answered. -/
def Statement.Keeps (P : Store → Prop) (statement : Statement) : Prop :=
  ∀ {now : Int} {store left : Store} {answer : Answer},
    P store → statement.answer now store = .ok (answer, left) → P left

theorem Statement.Keep.keeps (hKeep : Statement.Keep P) (statement : Statement) :
    statement.Keeps P :=
  fun hBefore hAnswer => hKeep hBefore hAnswer

/-- A step keeps a property of stores, whether it is refused or not. -/
def Transaction.Keeps {α : Type} (P : Store → Prop) (step : Transaction α) : Prop :=
  ∀ connection, P connection.store → P (step.run.run connection).2.store

theorem keeps_send {statement : Statement} (hKeeps : statement.Keeps P) :
    Transaction.Keeps P (send now statement) := by
  intro connection hBefore
  rw [run_send]
  split
  · exact hBefore
  · rename_i answer left hAttempt
    exact hKeeps hBefore (Statement.answer_of_attempt hAttempt)

/-- **Work**: what its statements keep, work keeps. -/
theorem Work.keeps_perform (now : Int) {work : Work}
    (hKeeps : ∀ statement ∈ work.statements, statement.Keeps P) :
    Transaction.Keeps P (work.perform now) := by
  have hPreserves : (work.perform now).Preserves fun connection => P connection.store :=
    Work.preserves_perform (fun statement hMem => keeps_send (hKeeps statement hMem))
      fun _ _ _ hBefore => hBefore
  exact hPreserves

/-- What the statements of work keep, the store that it leaves has kept. -/
theorem Work.keeps_run {work : Work} (hKeeps : ∀ statement ∈ work.statements, statement.Keeps P)
    {store left : Store} {barred : Option StoreError} {outcome : Outcome} (hBefore : P store)
    (hRun : (work.run now store barred).2 = .ok (outcome, left)) : P left := by
  have hWork := Work.keeps_perform now hKeeps ⟨store, barred, []⟩ hBefore
  rw [Work.run] at hRun
  rcases hPerform : (work.perform now).run.run ⟨store, barred, []⟩ with ⟨e | result, connection⟩
  · rw [hPerform] at hRun
    cases hRun
  · rw [hPerform] at hRun hWork
    obtain ⟨-, rfl⟩ := Prod.mk.inj (Except.ok.inj hRun)
    exact hWork

end Work

/-! ## Calls -/

namespace Session

variable {ι : Type} (schema : Schema ι)

/-- The session after some calls, each with what surrounds it. -/
def after (session : Session) (calls : List (World × Except Json.Failure Call)) : Session :=
  calls.foldl (fun session call => (session.answer schema call.1 call.2).2) session

variable {schema} {P : Store → Prop} {session : Session}

/-- What comes of work for a session, and the store that is left. -/
def concluded (session : Session) : Except StoreError (Outcome × Store) →
    Except Error Outcome × Store
  | .ok (outcome, left) => (.ok outcome, left)
  | .error e => (.error (.storage e), session.store)

/-- An operation comes to what its work comes to. -/
theorem perform_concluded {world : World} {key : ι} {operation : Operation} {work : Work}
    {events : List Event}
    (hPrepared : (operation.prepare schema key session.policy
      fun k => world.freshId (session.issued + k)).run.run [] = (.ok work, events)) :
    ((session.perform schema world key operation).1,
        (session.perform schema world key operation).2.store) =
      session.concluded (work.run world.now session.store session.barred).2 := by
  rw [perform, hPrepared]
  dsimp only [remember]
  rcases work.run world.now session.store session.barred with ⟨notes, _ | ⟨outcome, left⟩⟩ <;> rfl

/-- What the statements of an operation keep, the operation keeps. -/
theorem perform_keeps_of (world : World) (key : ι) (operation : Operation)
    (hKeeps : ∀ work events, (operation.prepare schema key session.policy
      fun k => world.freshId (session.issued + k)).run.run [] = (.ok work, events) →
      ∀ statement ∈ work.statements, statement.Keeps P)
    (hBefore : P session.store) : P (session.perform schema world key operation).2.store := by
  rcases hPrepared : (operation.prepare schema key session.policy
    fun k => world.freshId (session.issued + k)).run.run [] with ⟨_ | work, events⟩
  · rw [perform, hPrepared]
    exact hBefore
  · have hLeft := congrArg Prod.snd (perform_concluded hPrepared)
    dsimp only at hLeft
    rw [hLeft]
    cases hRun : (work.run world.now session.store session.barred).2 with
    | error e => exact hBefore
    | ok result => exact Work.keeps_run (hKeeps work events hPrepared) hBefore hRun

variable (hKeep : Statement.Keep P)

include hKeep

/-- What statements keep, an operation keeps. -/
theorem perform_keeps (world : World) (key : ι) (operation : Operation)
    (hBefore : P session.store) : P (session.perform schema world key operation).2.store :=
  perform_keeps_of world key operation (fun _ _ _ statement _ => hKeep.keeps statement) hBefore

/-- What statements keep, a method keeps with any arguments. -/
theorem dispatch_keeps (world : World) (key : ι) (method : Method) (args : Json)
    (hBefore : P session.store) : P (session.dispatch schema world key method args).2.store := by
  cases hOperation : Operation.ofJson method args with
  | error failure =>
      rw [dispatch, hOperation]
      exact hBefore
  | ok operation =>
      rw [dispatch_of_ofJson world session hOperation]
      exact perform_keeps hKeep world key operation hBefore

/-- What statements keep, a call keeps, also one that was not understood. -/
theorem answer_keeps (world : World) (call : Except Json.Failure Call)
    (hBefore : P session.store) : P (session.answer schema world call).2.store := by
  cases call with
  | error failure => exact hBefore
  | ok call =>
      change P (session.call schema world call).2.store
      unfold Session.call
      split
      · exact hBefore
      · split
        · exact hBefore
        · exact dispatch_keeps hKeep world _ _ _ hBefore

/-- **Calls**: what statements keep, calls keep, one after another. -/
theorem after_keeps (calls : List (World × Except Json.Failure Call)) (hBefore : P session.store) :
    P (session.after schema calls).store := by
  induction calls generalizing session with
  | nil => exact hBefore
  | cons call calls ih => exact ih (answer_keeps hKeep call.1 call.2 hBefore)

omit hKeep

/-- **Schemas**: a session on a store that holds a schema goes on to hold it through any calls. -/
theorem holds_after (calls : List (World × Except Json.Failure Call))
    (hStore : session.store.Holds schema) : (session.after schema calls).store.Holds schema :=
  after_keeps Statement.keep_holds calls hStore

/-- Whatever calls come after the creation of a schema whose tables have distinct names, the session
holds the schema. -/
theorem holds_after_bootstrap {store : Store} (hKeys : ∀ key, key ∈ schema.keys)
    (hNames : DistinctNames (schema.keys.map fun key => (schema.table key).name))
    (hCreated : Store.bootstrap [] schema = .ok store) (barred : Option StoreError)
    (policy : BulkPolicy) (calls : List (World × Except Json.Failure Call)) :
    ((Session.start store barred policy).after schema calls).store.Holds schema :=
  holds_after calls (Store.holds_of_bootstrap hKeys hNames hCreated)

end Session

end ModelStore
