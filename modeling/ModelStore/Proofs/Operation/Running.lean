import ModelStore.Session

/-!
# Running work

A step of work takes a connection to a result and to another connection.  Sending a statement is
the only step that touches the store, and all that it does to the connection is said here once:
it notes the statement, and then either the statement is refused and the store stays as it is, or
the store becomes what the statement leaves.  An operation of a session comes down to its work, and
a call to its operation.

## Main definitions

* `Work.statements`: the statements of work, sent or not.
* `Transaction.Preserves`: what holds of the connection after a step if it does before.
* `Session.sentSince`: the statements that were sent since a session was another one.

## Main results

* `Statement.answer_of_attempt`: what a statement answers does not depend on a store that refuses
  changes, where it is answered at all.
* `run_send`: what sending a statement does to a connection.
* `run_fetch`, `run_fetchOnly`: what becomes of the rows that it returns.
* `Work.preserves_perform`: what statements preserve, work preserves.
* `Work.run_rows`, `Work.run_number`: work that is done with one statement.
* `Session.perform_of_prepared`: what comes of an operation once its work is there.
* `Session.sentSince_of_prepared`: what is sent for an operation is what its work sends.
-/

namespace ModelStore

/-! ## Steps -/

/-- The connection after a statement was noted, with the store that it leaves. -/
def Connection.after (connection : Connection) (statement : Statement) (store : Store) :
    Connection :=
  ⟨store, connection.barred, connection.notes ++ [.sent statement]⟩

section Steps

variable {α β : Type}

/-- Steps one after another: the second one is taken only if the first one was not refused. -/
theorem Transaction.run_bind (step : Transaction α) (next : α → Transaction β)
    (connection : Connection) :
    (step >>= next).run.run connection =
      match step.run.run connection with
      | (.ok a, between) => (next a).run.run between
      | (.error e, between) => (.error e, between) := by
  rw [ExceptT.run_bind, StateT.run_bind]
  rcases step.run.run connection with ⟨_ | _, between⟩ <;> rfl

/-- Steps one after another are refused with the first one, or with the second one after it. -/
theorem Transaction.error_of_bind {step : Transaction α} {next : α → Transaction β}
    {connection after : Connection} {e : StoreError}
    (hRun : (step >>= next).run.run connection = (.error e, after)) :
    step.run.run connection = (.error e, after) ∨
      ∃ a between, step.run.run connection = (.ok a, between) ∧
        (next a).run.run between = (.error e, after) := by
  rw [run_bind] at hRun
  split at hRun
  · rename_i a between hStep
    exact .inr ⟨a, between, hStep, hRun⟩
  · rename_i refusal between hStep
    cases hRun
    exact .inl hStep

end Steps

/-! ## Statements that are answered -/

/-- A statement that is answered was read, and answered without regard to a store that refuses
changes. -/
theorem Statement.answer_of_attempt {now : Int} {store : Store} {barred : Option StoreError}
    {statement : Statement} {result : Answer × Store}
    (hAttempt : statement.attempt now store barred = .ok result) :
    statement.answer now store = .ok result := by
  have hRun : statement.run now store = .ok result := by
    unfold Statement.attempt at hAttempt
    split at hAttempt
    · rename_i hRun
      split at hAttempt
      · cases hAttempt
      · rw [hRun, Except.ok.inj hAttempt]
    · cases hAttempt
    · exact hAttempt
  unfold Statement.run at hRun
  split at hRun
  · cases hRun
  · split at hRun
    · cases hRun
    · exact hRun

/-- A statement that leaves the store alone is answered also by a store that refuses changes. -/
theorem Statement.attempt_of_not_changes {now : Int} {store : Store} {barred : Option StoreError}
    {statement : Statement} (hChanges : statement.changes = false) {result : Answer × Store}
    (hRun : statement.run now store = .ok result) :
    statement.attempt now store barred = .ok result := by
  unfold Statement.attempt
  rw [hRun]
  cases barred with
  | none => rfl
  | some refusal => simp [hChanges]

/-- A statement that fails fails also where the store refuses changes. -/
theorem Statement.exists_attempt_error {now : Int} {store : Store} (barred : Option StoreError)
    {statement : Statement} {e : StoreError} (hRun : statement.run now store = .error e) :
    ∃ refusal, statement.attempt now store barred = .error refusal := by
  unfold Statement.attempt
  rw [hRun]
  cases barred with
  | none => exact ⟨e, rfl⟩
  | some refusal => exact ⟨_, rfl⟩

/-! ## Sending -/

variable {now : Int} {statement : Statement} {connection : Connection}

/-- **Sending a statement**: it is noted; where it is refused, the store stays as it is. -/
theorem run_send :
    (send now statement).run.run connection =
      match statement.attempt now connection.store connection.barred with
      | .error e => (.error e, connection.after statement connection.store)
      | .ok (answer, store) => (.ok answer, connection.after statement store) := by
  rw [send, Transaction.run_bind]
  change (match statement.attempt now connection.store connection.barred with
    | .error e => throw e
    | .ok (answer, store) => do
      set { connection.after statement connection.store with store := store }
      return answer : Transaction Answer).run.run (connection.after statement connection.store) = _
  cases statement.attempt now connection.store connection.barred with
  | error e => rfl
  | ok result => rfl

/-- Fetching the rows of a statement. -/
theorem run_fetch :
    (fetch now statement).run.run connection =
      match statement.attempt now connection.store connection.barred with
      | .error e => (.error e, connection.after statement connection.store)
      | .ok (answer, store) =>
        (.ok (answer.records statement.outputs), connection.after statement store) := by
  rw [fetch, Transaction.run_bind, run_send]
  cases statement.attempt now connection.store connection.barred with
  | error e => rfl
  | ok result => rfl

/-- Fetching the first row of a statement: that there is none shows only once the statement was
run. -/
theorem run_fetchOnly :
    (fetchOnly now statement).run.run connection =
      match statement.attempt now connection.store connection.barred with
      | .error e => (.error e, connection.after statement connection.store)
      | .ok (answer, store) =>
        match answer.records statement.outputs with
        | record :: _ => (.ok record, connection.after statement store)
        | [] => (.error .noRow, connection.after statement store) := by
  rw [fetchOnly, Transaction.run_bind, run_fetch]
  cases statement.attempt now connection.store connection.barred with
  | error e => rfl
  | ok result =>
      cases hRecords : result.1.records statement.outputs with
      | nil => simp only [hRecords]; rfl
      | cons record records => simp only [hRecords]; rfl

/-! ## What work preserves -/

/-- The statements of work, among them those of an upsert that may not be sent. -/
def Work.statements : Work → List Statement
  | .rows statement | .first statement | .only statement | .number statement => [statement]
  | .upsert lookup change insertion => lookup :: (change.toList ++ [insertion])

/-- A step preserves what holds of connections, whether it is refused or not. -/
def Transaction.Preserves {α : Type} (holds : Connection → Prop) (step : Transaction α) : Prop :=
  ∀ connection, holds connection → holds (step.run.run connection).2

section Preserves

variable {α β : Type} {holds : Connection → Prop}

theorem Transaction.preserves_pure (a : α) : (pure a : Transaction α).Preserves holds :=
  fun _ hBefore => hBefore

/-- Steps one after another preserve what each of them preserves. -/
theorem Transaction.Preserves.bind {step : Transaction α} {next : α → Transaction β}
    (hStep : step.Preserves holds) (hNext : ∀ a, (next a).Preserves holds) :
    (step >>= next).Preserves holds := by
  intro connection hBefore
  have hBetween := hStep connection hBefore
  rw [run_bind]
  rcases hRun : step.run.run connection with ⟨_ | a, between⟩
  · rw [hRun] at hBetween
    exact hBetween
  · rw [hRun] at hBetween
    exact hNext a between hBetween

theorem preserves_fetch (hSend : (send now statement).Preserves holds) :
    (fetch now statement).Preserves holds :=
  hSend.bind fun _ => Transaction.preserves_pure _

theorem preserves_fetchOnly (hSend : (send now statement).Preserves holds) :
    (fetchOnly now statement).Preserves holds := by
  refine (preserves_fetch hSend).bind fun records => ?_
  cases records with
  | nil => exact fun _ hBefore => hBefore
  | cons record records => exact Transaction.preserves_pure _

/-- A note on several rows changes nothing else. -/
theorem preserves_noteSeveral (hNote : ∀ (connection : Connection) table rows, holds connection →
      holds { connection with notes := connection.notes ++ [.severalMatched table rows] })
    (statement : Statement) (rows : Nat) : (noteSeveral statement rows).Preserves holds := by
  unfold noteSeveral
  split
  · split
    · exact fun connection hBefore => hNote connection _ _ hBefore
    · exact Transaction.preserves_pure _
  · exact Transaction.preserves_pure _

/-- **Work preserves what its statements preserve**, if notes on several rows do not matter. -/
theorem Work.preserves_perform {work : Work}
    (hSend : ∀ statement ∈ work.statements, (send now statement).Preserves holds)
    (hNote : ∀ (connection : Connection) table rows, holds connection →
      holds { connection with notes := connection.notes ++ [.severalMatched table rows] }) :
    (work.perform now).Preserves holds := by
  cases work with
  | rows statement =>
      have hRows := preserves_fetch (hSend statement (List.mem_singleton_self _))
      exact hRows.bind fun _ => Transaction.preserves_pure _
  | first statement =>
      refine (preserves_fetch (hSend statement (List.mem_singleton_self _))).bind fun _ => ?_
      exact (preserves_noteSeveral hNote _ _).bind fun _ => Transaction.preserves_pure _
  | only statement =>
      have hOnly := preserves_fetchOnly (hSend statement (List.mem_singleton_self _))
      exact hOnly.bind fun _ => Transaction.preserves_pure _
  | number statement =>
      exact (hSend statement (List.mem_singleton_self _)).bind fun _ => Transaction.preserves_pure _
  | upsert lookup change insertion =>
      refine (preserves_fetch (hSend lookup (by simp [statements]))).bind fun records => ?_
      split
      · exact Transaction.preserves_pure _
      · rename_i changed hFound
        have hChange := preserves_fetchOnly (hSend changed (by simp [statements]))
        exact hChange.bind fun _ => Transaction.preserves_pure _
      · have hInsertion := preserves_fetchOnly (hSend insertion (by simp [statements]))
        exact hInsertion.bind fun _ => Transaction.preserves_pure _

end Preserves

/-! ## Work done with one statement -/

namespace Work

variable {store : Store} {barred : Option StoreError}

/-- The work of returning all rows. -/
theorem run_rows :
    (rows statement).run now store barred =
      ([.sent statement], (statement.attempt now store barred).map fun result =>
        (.rows (result.1.records statement.outputs), result.2)) := by
  rw [run, perform, Transaction.run_bind, run_fetch]
  cases statement.attempt now store barred with
  | error e => rfl
  | ok result => rfl

/-- The work of returning the first row. -/
theorem run_first :
    ((first statement).run now store barred).2 =
      (statement.attempt now store barred).map fun result =>
        (.row (result.1.records statement.outputs).head?, result.2) := by
  rw [run, perform, Transaction.run_bind, run_fetch]
  cases statement.attempt now store barred with
  | error e => rfl
  | ok result =>
      dsimp only
      rw [Transaction.run_bind]
      cases statement with
      | update table values predicate returned =>
          dsimp only [noteSeveral]
          by_cases hSeveral : 1 < (result.1.records
              (Statement.update table values predicate returned).outputs).length
          · rw [if_pos hSeveral]
            rfl
          · rw [if_neg hSeveral]
            rfl
      | _ => rfl

/-- The work of returning how many rows were touched or counted. -/
theorem run_number :
    (number statement).run now store barred =
      ([.sent statement], (statement.attempt now store barred).map fun result =>
        (.number result.1.affected, result.2)) := by
  rw [run, perform, Transaction.run_bind, run_send]
  cases statement.attempt now store barred with
  | error e => rfl
  | ok result => rfl

end Work

/-! ## Operations -/

namespace Session

variable {ι : Type} {schema : Schema ι} (world : World) (session : Session) {key : ι}

/-- What comes of an operation once its work is there. -/
theorem perform_of_prepared {operation : Operation} {work : Work} {events : List Event}
    (hPrepared : (operation.prepare schema key session.policy
      fun k => world.freshId (session.issued + k)).run.run [] = (.ok work, events)) :
    (session.perform schema world key operation).1 =
      match (work.run world.now session.store session.barred).2 with
      | .ok (outcome, _) => .ok outcome
      | .error e => .error (.storage e) := by
  rw [perform, hPrepared]
  dsimp only [remember]
  rcases work.run world.now session.store session.barred with ⟨notes, _ | _⟩ <;> rfl

/-- A call whose arguments are read performs what they are read as. -/
theorem dispatch_of_ofJson {method : Method} {args : Json} {operation : Operation}
    (hOperation : Operation.ofJson method args = .ok operation) :
    session.dispatch schema world key method args =
      ((session.perform schema world key operation).1.map Outcome.toJson,
        (session.perform schema world key operation).2) := by
  rw [dispatch, hOperation]

/-! ## What is sent -/

section Sent

variable {world : World} {session : Session}

/-- The statements that were sent since a session was another one. -/
def sentSince (before after : Session) : List Statement :=
  Note.sentOf (after.history.drop before.history.length)

theorem sentOf_reported (events : List Event) : Note.sentOf (events.map .reported) = [] := by
  rw [Note.sentOf, List.filterMap_map]
  exact List.filterMap_eq_nil_iff.mpr fun _ _ => rfl

/-- An operation that cannot be prepared sends nothing. -/
theorem sentSince_of_prepare_error {operation : Operation} {e : Error} {events : List Event}
    (hPrepared : (operation.prepare schema key session.policy
      fun k => world.freshId (session.issued + k)).run.run [] = (.error e, events)) :
    (session.perform schema world key operation).1 = .error e ∧
      session.sentSince (session.perform schema world key operation).2 = [] := by
  rw [perform, hPrepared]
  refine ⟨rfl, ?_⟩
  rw [sentSince]
  dsimp only [remember]
  rw [List.drop_left, sentOf_reported]

/-- An operation that is prepared sends what its work sends. -/
theorem sentSince_of_prepared {operation : Operation} {work : Work} {events : List Event}
    (hPrepared : (operation.prepare schema key session.policy
      fun k => world.freshId (session.issued + k)).run.run [] = (.ok work, events)) :
    session.sentSince (session.perform schema world key operation).2 =
      Note.sentOf (work.run world.now session.store session.barred).1 := by
  have hHistory : (session.perform schema world key operation).2.history =
      session.history ++ (events.map .reported ++
        (work.run world.now session.store session.barred).1) := by
    rw [perform, hPrepared, ← List.append_assoc]
    dsimp only [remember]
    rcases work.run world.now session.store session.barred with ⟨notes, _ | _⟩ <;> rfl
  rw [sentSince, hHistory, List.drop_left, Note.sentOf, List.filterMap_append, ← Note.sentOf,
    sentOf_reported, List.nil_append]
  rfl

/-- A call whose arguments cannot be read sends nothing. -/
theorem sentSince_of_ofJson_error {method : Method} {args : Json} {failure : Json.Failure}
    (hArguments : Operation.ofJson method args = .error failure) :
    session.sentSince (session.dispatch schema world key method args).2 = [] := by
  rw [dispatch, hArguments, sentSince, List.drop_length]
  rfl

end Sent

end Session

end ModelStore
