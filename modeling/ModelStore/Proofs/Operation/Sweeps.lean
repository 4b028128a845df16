import ModelStore.Proofs.Operation.Faults
import ModelStore.Proofs.Operation.Framing
import ModelStore.Proofs.Operation.Reports

/-!
# What is reported of sweeps

A bulk mutation without a condition sweeps its table: it is one of every row.  Where the policy
allows it, it is reported once its statement is there and before this is sent.  So the report says
that the store was asked, not that it complied: it may refuse the new values of some row, and then
no row is touched, but the report stands.

Over any calls, the reports are those of the sweeps that came as far as the store, in their order.
They are the reports of the sweeps that were carried out just if the store refused none.

## Main definitions

* `Operation.sweep?`, `Schema.sweep?`: the sweep that an operation or a call asks for.
* `Exchange`, `Session.exchanges`: the calls of a run, each with what came of it.
* `BulkMutation.Swept`: what a sweep does to a store.

## Main results

* `Session.sweepReports_attempt`: what one call adds to the reports.
* `Session.swept_of_attempt`: a sweep that succeeds has touched every row.
* `Session.sweeps_reported`: what is reported over any calls, and when it is what was carried out.
-/

namespace ModelStore

variable {ι : Type}

/-! ## Sweeps -/

/-- Whether an event reports a bulk mutation without a condition. -/
def Event.isSweep : Event → Bool
  | .unboundedMutation .. => true
  | .unknownRelation .. => false

/-- The bulk mutation without a condition that an operation is, if it is one. -/
def Operation.sweep? : Operation → Option BulkMutation
  | .updateMany options => if options.filter.isNone then some (.update options) else none
  | .deleteMany options => if options.filter.isNone then some (.delete options) else none
  | .findFirst _ | .findMany _ | .create _ | .update _ | .updateAll _ | .upsert _ | .delete _
  | .deleteAll | .count _ => none

/-- The operation that a call asks for, with the table that it is on, if the call can be read. -/
def Schema.operation? (schema : Schema ι) : Except Json.Failure Call → Option (ι × Operation)
  | .error _ => none
  | .ok call => do
    let key ← schema.find? call.model
    let method ← Method.ofName? call.method
    let operation ← (Operation.ofJson method call.args).toOption
    return (key, operation)

/-- The bulk mutation without a condition that a call asks for, with the table that it is of. -/
def Schema.sweep? (schema : Schema ι) (call : Except Json.Failure Call) :
    Option (ι × BulkMutation) :=
  (schema.operation? call).bind fun (key, operation) =>
    operation.sweep?.map fun mutation => (key, mutation)

/-- The report of a sweep of a table. -/
def BulkMutation.announcement (table : Table ι) (mutation : BulkMutation) : Event :=
  .unboundedMutation table.name mutation.kind

/-- Whether the store was asked, by what came of a call: either it complied, or the failure is its
own. -/
def reachedStore {α : Type} : Except Error α → Bool
  | .ok _ | .error (.storage _) => true
  | .error _ => false

/-- What a sweep does to a store, given the table: all rows are rewritten with the values of its
payload, or all are gone. -/
def BulkMutation.Swept (table : Table ι) (stored : StoredTable) (store left : Store) :
    BulkMutation → Prop
  | .update options =>
    ∃ values made next, Payload.compile table options.data = .ok values ∧
      stored.update (stored.slotsOf values.reverse) stored.rows = .ok (made, next) ∧
      left = store.put next
  | .delete _ => left = store.put { stored with rows := [] }

theorem Operation.eq_of_sweep? {operation : Operation} {mutation : BulkMutation}
    (hSweep : operation.sweep? = some mutation) :
    operation = mutation.operation ∧ mutation.filter = none := by
  cases operation with
  | updateMany options | deleteMany options =>
      rw [sweep?] at hSweep
      split at hSweep
      · rename_i hNone
        obtain rfl := Option.some.inj hSweep
        exact ⟨rfl, Option.isNone_iff_eq_none.mp hNone⟩
      · cases hSweep
  | _ => cases hSweep

/-! ## Steps that report no sweep -/

/-- A step reports no sweep, whether it fails or not. -/
def Reporting.Quiet {α : Type} (step : Reporting α) : Prop :=
  ∀ before, (step.run.run before).2.filter Event.isSweep = before.filter Event.isSweep

namespace Reporting

variable {α β : Type} {step : Reporting α}

theorem quiet_pure (a : α) : Quiet (pure a) := fun _ => rfl

theorem quiet_throw (e : Error) : Quiet (throw e : Reporting α) := fun _ => rfl

theorem quiet_liftExcept (result : Except Error α) : Quiet (liftExcept result) := by
  intro before
  cases result <;> rfl

theorem quiet_report {event : Event} (hOther : event.isSweep = false) : Quiet (report event) := by
  intro before
  have hRun : ((report event).run.run before).2 = before ++ [event] := rfl
  rw [hRun, List.filter_append, List.filter_singleton, hOther]
  simp

theorem Quiet.bind {next : α → Reporting β} (hStep : Quiet step) (hNext : ∀ a, Quiet (next a)) :
    Quiet (step >>= next) := by
  intro before
  have hBefore := hStep before
  rw [run_bind]
  rcases hRun : step.run.run before with ⟨e | a, between⟩
  · rw [hRun] at hBefore
    exact hBefore
  · rw [hRun] at hBefore
    exact (hNext a between).trans hBefore

theorem Quiet.bind_pure (hStep : Quiet step) (make : α → β) :
    Quiet (do return make (← step)) :=
  hStep.bind fun a => quiet_pure (make a)

end Reporting

open Reporting (Quiet quiet_pure quiet_throw quiet_liftExcept quiet_report)

section Building

variable {schema : Schema ι}

theorem quiet_joinRelation {chain : List String} {key : ι} {name : String}
    {sub : ι → List String → Reporting Plan} (hSub : ∀ target deeper, Quiet (sub target deeper)) :
    Quiet (joinRelation schema chain key name sub) := by
  unfold joinRelation
  split
  · exact (quiet_report rfl).bind fun _ => quiet_pure _
  · dsimp only
    split
    · exact quiet_throw _
    · exact (hSub _ _).bind fun _ => (quiet_liftExcept _).bind_pure _

mutual

/-- Building the plan of a search reports no sweep: what it reports are relations. -/
theorem quiet_buildPlan {own : SearchOptions} :
    ∀ (includes : Option (List (String × Include))) (chain : List String) (key : ι),
      Quiet (buildPlan schema chain key own includes)
  | none, chain, key => by
      rw [buildPlan]
      exact (quiet_liftExcept _).bind_pure _
  | some includes, chain, key => by
      rw [buildPlan]
      exact (quiet_liftExcept _).bind fun core => (quiet_buildJoins includes chain key).bind_pure _

theorem quiet_buildJoins :
    ∀ (includes : List (String × Include)) (chain : List String) (key : ι),
      Quiet (buildJoins schema chain key includes)
  | [], chain, key => by
      rw [buildJoins]
      exact quiet_pure _
  | (name, ask) :: rest, chain, key => by
      rw [buildJoins]
      exact (quiet_buildJoin ask chain key name).bind fun join =>
        (quiet_buildJoins rest chain key).bind_pure _

theorem quiet_buildJoin :
    ∀ (ask : Include) (chain : List String) (key : ι) (name : String),
      Quiet (buildJoin schema chain key name ask)
  | .flag false, chain, key, name => by
      rw [buildJoin]
      exact quiet_pure _
  | .flag true, chain, key, name => by
      rw [buildJoin]
      exact quiet_joinRelation fun _ _ => (quiet_liftExcept _).bind_pure _
  | .nested own includes, chain, key, name => by
      rw [buildJoin]
      exact quiet_joinRelation fun target deeper => quiet_buildPlan includes deeper target

end

/-- Preparing an operation that is no sweep reports none. -/
theorem Operation.quiet_prepare {key : ι} {policy : BulkPolicy} {ids : Nat → String}
    {operation : Operation} (hOther : operation.sweep? = none) :
    Quiet (operation.prepare schema key policy ids) := by
  have hBulk : ∀ {filter : Option Conditions} {table : String} {kind : BulkOperation},
      filter ≠ none → Quiet (checkBulk policy table filter kind) := by
    intro filter table kind hSome
    cases filter with
    | none => exact absurd rfl hSome
    | some conditions => exact quiet_pure ()
  cases operation with
  | findFirst options | findMany options =>
      exact (quiet_buildPlan options.includes _ key).bind_pure _
  | upsert options => exact quiet_liftExcept _
  | updateMany options | deleteMany options =>
      have hFilter : options.filter ≠ none := by simpa [sweep?] using hOther
      exact (quiet_liftExcept _).bind fun statement => (hBulk hFilter).bind_pure _
  | create options | update options | updateAll options | delete options | deleteAll
  | count options => exact (quiet_liftExcept _).bind_pure _

/-- A sweep fails while it is prepared, and is not reported; or it comes to its statement, and is
reported. -/
theorem BulkMutation.prepare_sweep {key : ι} {policy : BulkPolicy} {ids : Nat → String}
    {mutation : BulkMutation} (hFilter : mutation.filter = none) {result : Except Error Work}
    {events : List Event}
    (hPrepared : (mutation.operation.prepare schema key policy ids).run.run [] =
      (result, events)) :
    (∃ e, result = .error e ∧ events = []) ∨
      ∃ statement, mutation.statementUnder (schema.table key) none = .ok statement ∧
        result = .ok (.number statement) ∧
        events = [mutation.announcement (schema.table key)] := by
  cases mutation with
  | update options =>
      obtain ⟨filter, data⟩ := options
      cases hFilter
      rw [operation, Operation.prepare, Reporting.run_bind] at hPrepared
      cases hStatement : (schema.table key).change none data false with
      | error e =>
          rw [hStatement] at hPrepared
          cases hPrepared
          exact .inl ⟨e, rfl, rfl⟩
      | ok statement =>
          rw [hStatement] at hPrepared
          cases policy <;> cases hPrepared
          · exact .inr ⟨statement, hStatement, rfl, rfl⟩
          · exact .inl ⟨_, rfl, rfl⟩
  | delete options =>
      obtain ⟨filter⟩ := options
      cases hFilter
      cases policy <;> cases hPrepared
      · exact .inr ⟨_, rfl, rfl, rfl⟩
      · exact .inl ⟨_, rfl, rfl⟩

/-- **Preparation**: what is reported of sweeps while an operation is prepared. -/
theorem Operation.filter_prepare {key : ι} {policy : BulkPolicy} {ids : Nat → String}
    {operation : Operation} {result : Except Error Work} {events : List Event}
    (hPrepared : (operation.prepare schema key policy ids).run.run [] = (result, events)) :
    events.filter Event.isSweep =
      if result.isOk then
        (operation.sweep?.map (BulkMutation.announcement (schema.table key))).toList
      else [] := by
  cases hSweep : operation.sweep? with
  | none =>
      have hQuiet : Quiet (operation.prepare schema key policy ids) := quiet_prepare hSweep
      have hNone := hQuiet []
      rw [hPrepared] at hNone
      rw [hNone]
      simp
  | some mutation =>
      obtain ⟨rfl, hFilter⟩ := eq_of_sweep? hSweep
      rcases BulkMutation.prepare_sweep hFilter hPrepared with
        ⟨e, rfl, rfl⟩ | ⟨statement, -, rfl, rfl⟩ <;> rfl

end Building

/-! ## Sweeps that are carried out -/

/-- A mutation without a clause that is answered has touched every row of its table. -/
theorem BulkMutation.swept_of_answer {table : Table ι} {mutation : BulkMutation}
    {statement : Statement} (hStatement : mutation.statementUnder table none = .ok statement)
    {now : Int} {store left : Store} {answer : Answer}
    (hAnswer : statement.answer now store = .ok (answer, left)) :
    ∃ stored, store.table? table.name = some stored ∧ answer.affected = stored.rows.length ∧
      mutation.Swept table stored store left := by
  have hAll : ∀ stored : StoredTable, stored.choose [] = stored.rows := fun stored =>
    List.filter_eq_self.mpr fun _ _ => rfl
  cases mutation with
  | update options =>
      obtain ⟨values, terms, hValues, hTerms, rfl⟩ := Table.exists_of_change hStatement
      cases hTerms
      obtain ⟨stored, hStored, hRest⟩ := bind_eq_ok.mp hAnswer
      obtain ⟨given, hGiven, hRest⟩ := bind_eq_ok.mp hRest
      obtain ⟨⟨made, next⟩, hUpdate, hPure⟩ := bind_eq_ok.mp hRest
      obtain ⟨rfl, rfl⟩ := Prod.mk.inj (pure_eq_ok.mp hPure)
      rw [StoredTable.eq_slotsOf hGiven, StoredTable.slotsOf_reverse, hAll] at hUpdate
      exact ⟨stored, Statement.tableOf_eq_ok.mp hStored, StoredTable.length_updateRows hUpdate,
        values, made, next, hValues, hUpdate, rfl⟩
  | delete options =>
      cases hStatement
      obtain ⟨stored, hStored, hPure⟩ := bind_eq_ok.mp hAnswer
      obtain ⟨rfl, rfl⟩ := Prod.mk.inj (pure_eq_ok.mp hPure)
      rw [hAll]
      refine ⟨stored, Statement.tableOf_eq_ok.mp hStored, rfl, ?_⟩
      have hNone : stored.delete stored.rows = { stored with rows := [] } := by
        rw [StoredTable.delete]
        congr 1
        refine List.filter_eq_nil_iff.mpr fun row hRow => ?_
        simpa using ⟨row, hRow, rfl⟩
      exact congrArg store.put hNone

namespace Session

variable {schema : Schema ι} {world : World} {session : Session} {key : ι}

/-- The sweeps reported so far. -/
def sweepReports (session : Session) : List Event := session.events.filter Event.isSweep

/-- What an operation adds to the reports: its own if it is a sweep and the store was asked. -/
theorem sweepReports_perform (operation : Operation) :
    (session.perform schema world key operation).2.sweepReports =
      session.sweepReports ++
        if reachedStore (session.perform schema world key operation).1 then
          (operation.sweep?.map (BulkMutation.announcement (schema.table key))).toList
        else [] := by
  rcases hPrepared : (operation.prepare schema key session.policy
    fun k => world.freshId (session.issued + k)).run.run [] with ⟨e | work, events⟩
  all_goals
    rw [sweepReports, events_perform hPrepared, List.filter_append,
      Operation.filter_prepare hPrepared]
    congr 2
  · -- Whatever is wrong with an operation is not the store's.
    have hDetects := operation.detects_prepare schema key session.policy
      (fun k => world.freshId (session.issued + k)) []
    rw [hPrepared] at hDetects
    rw [(sentSince_of_prepare_error hPrepared).1]
    cases e with
    | storage refusal => exact absurd rfl hDetects.2
    | _ => rfl
  · rw [perform_of_prepared world session hPrepared]
    rcases (work.run world.now session.store session.barred).2 with _ | _ <;> rfl

/-- A sweep that succeeds answers the number of all rows, and has touched them. -/
theorem swept_of_perform {mutation : BulkMutation} (hFilter : mutation.filter = none)
    {outcome : Outcome}
    (hDone : (session.perform schema world key mutation.operation).1 = .ok outcome) :
    ∃ stored, session.store.table? (schema.table key).name = some stored ∧
      outcome = .number stored.rows.length ∧
      mutation.Swept (schema.table key) stored session.store
        (session.perform schema world key mutation.operation).2.store := by
  rcases hPrepared : (mutation.operation.prepare schema key session.policy
    fun k => world.freshId (session.issued + k)).run.run [] with ⟨result, events⟩
  rcases BulkMutation.prepare_sweep hFilter hPrepared with
    ⟨e, rfl, -⟩ | ⟨statement, hStatement, rfl, -⟩
  · rw [(sentSince_of_prepare_error hPrepared).1] at hDone
    cases hDone
  · have hConcluded := perform_concluded hPrepared
    cases hRun : ((Work.number statement).run world.now session.store session.barred).2 with
    | error e =>
        rw [hRun] at hConcluded
        rw [(Prod.mk.inj hConcluded).1] at hDone
        cases hDone
    | ok result =>
        obtain ⟨done, left⟩ := result
        obtain ⟨answer, hAnswer, rfl⟩ := Work.exists_of_run_number hRun
        rw [hRun] at hConcluded
        obtain ⟨hResult, hLeft⟩ := Prod.mk.inj hConcluded
        rw [hResult] at hDone
        cases hDone
        obtain ⟨stored, hFound, hAffected, hSwept⟩ :=
          BulkMutation.swept_of_answer hStatement hAnswer
        exact ⟨stored, hFound, by rw [hAffected], by rwa [hLeft]⟩

/-! ## Calls -/

/-- A call that cannot be read fails by itself and reports nothing.  Any other call performs its
operation. -/
theorem attempt_cases (schema : Schema ι) (world : World) (session : Session)
    (call : Except Json.Failure Call) :
    (schema.operation? call = none ∧ reachedStore (session.attempt schema world call).1 = false ∧
      (session.attempt schema world call).2.events = session.events) ∨
    ∃ key operation, ∃ taken : Session, schema.operation? call = some (key, operation) ∧
      taken.store = session.store ∧ taken.events = session.events ∧
      session.attempt schema world call =
        ((taken.perform schema world key operation).1.map Outcome.toJson,
          (taken.perform schema world key operation).2) := by
  cases call with
  | error failure => exact .inl ⟨rfl, rfl, rfl⟩
  | ok call =>
      have hAttempt : session.attempt schema world (.ok call) = session.call schema world call :=
        rfl
      rw [hAttempt, Session.call]
      rcases hModel : schema.find? call.model with _ | key
      · exact .inl ⟨by simp [Schema.operation?, hModel], rfl, rfl⟩
      · rcases hMethod : Method.ofName? call.method with _ | method
        · exact .inl ⟨by simp [Schema.operation?, hModel, hMethod], rfl, rfl⟩
        · -- Taking up the call is noted, and is no event.
          have hTaken : (session.remember [.dispatching call.model method.name]).events =
              session.events := by
            rw [events, remember, Note.eventsOf, List.filterMap_append]
            exact List.append_nil _
          cases hOperation : Operation.ofJson method call.args with
          | error failure =>
              refine .inl ⟨?_, ?_, ?_⟩
              · simp [Schema.operation?, hModel, hMethod, hOperation, Except.toOption]
              · simp only [dispatch, hOperation]
                rfl
              · simp only [dispatch, hOperation]
                exact hTaken
          | ok operation =>
              refine .inr ⟨key, operation, session.remember [.dispatching call.model method.name],
                ?_, rfl, hTaken, dispatch_of_ofJson world _ hOperation⟩
              simp [Schema.operation?, hModel, hMethod, hOperation, Except.toOption]

/-- The report of the sweep that a call asks for. -/
def announcement? (schema : Schema ι) (call : Except Json.Failure Call) : Option Event :=
  (schema.sweep? call).map fun (key, mutation) => mutation.announcement (schema.table key)

/-- **Calls**: a call adds its own report just if it asks for a sweep and the store was asked. -/
theorem sweepReports_attempt (schema : Schema ι) (world : World) (session : Session)
    (call : Except Json.Failure Call) :
    (session.attempt schema world call).2.sweepReports =
      session.sweepReports ++
        if reachedStore (session.attempt schema world call).1 then
          (announcement? schema call).toList else [] := by
  rcases attempt_cases schema world session call with
    ⟨-, hReached, hEvents⟩ | ⟨key, operation, taken, hOperation, -, hEvents, hAttempt⟩
  · rw [sweepReports, hEvents, hReached, if_neg Bool.false_ne_true, List.append_nil]
    rfl
  · have hReached : ∀ result : Except Error Outcome,
        reachedStore (result.map Outcome.toJson) = reachedStore result := by
      rintro (e | outcome)
      · cases e <;> rfl
      · rfl
    have hReport : announcement? schema call =
        operation.sweep?.map (BulkMutation.announcement (schema.table key)) := by
      rw [announcement?, Schema.sweep?, hOperation, Option.bind_some, Option.map_map]
      rfl
    rw [hAttempt, hReached, hReport, sweepReports_perform, sweepReports, hEvents]
    rfl

/-- A call that asks for a sweep and succeeds answers the number of all rows of the table, and has
touched them. -/
theorem swept_of_attempt {call : Except Json.Failure Call} {mutation : BulkMutation}
    (hSweep : schema.sweep? call = some (key, mutation)) {answer : Json}
    (hDone : (session.attempt schema world call).1 = .ok answer) :
    ∃ stored, session.store.table? (schema.table key).name = some stored ∧
      answer = .ofNat stored.rows.length ∧
      mutation.Swept (schema.table key) stored session.store
        (session.attempt schema world call).2.store := by
  rcases attempt_cases schema world session call with
    ⟨hNone, -, -⟩ | ⟨own, operation, taken, hOperation, hStore, -, hAttempt⟩
  · rw [Schema.sweep?, hNone] at hSweep
    cases hSweep
  · rw [Schema.sweep?, hOperation, Option.bind_some] at hSweep
    obtain ⟨found, hFound, hPair⟩ := Option.map_eq_some_iff.mp hSweep
    obtain ⟨rfl, rfl⟩ := Prod.mk.inj hPair
    obtain ⟨rfl, hFilter⟩ := Operation.eq_of_sweep? hFound
    rw [hAttempt] at hDone ⊢
    obtain ⟨outcome, hOutcome, rfl⟩ := map_eq_ok.mp hDone
    obtain ⟨stored, hStored, rfl, hSwept⟩ := swept_of_perform hFilter hOutcome
    rw [hStore] at hStored hSwept
    exact ⟨stored, hStored, rfl, hSwept⟩

/-! ## Runs -/

/-- A call of a run: the session that it found, what came of it, and the session that it left. -/
structure Exchange where
  call : Except Json.Failure Call
  before : Session
  result : Except Error Json
  after : Session

/-- The calls of a run, one after another, each with what came of it. -/
def exchanges (schema : Schema ι) :
    Session → List (World × Except Json.Failure Call) → List Exchange
  | _, [] => []
  | session, (world, call) :: rest =>
    let (result, after) := session.attempt schema world call
    ⟨call, session, result, after⟩ :: exchanges schema after rest

/-- The reports of the sweeps that some calls ask for, in the order of the calls. -/
def announcements (schema : Schema ι) (exchanges : List Exchange) : List Event :=
  exchanges.filterMap fun exchange => announcement? schema exchange.call

theorem announcements_cons (exchange : Exchange) (exchanges : List Exchange) :
    announcements schema (exchange :: exchanges) =
      (announcement? schema exchange.call).toList ++ announcements schema exchanges := by
  rw [announcements, List.filterMap_cons]
  cases announcement? schema exchange.call <;> rfl

/-- The reports of a run are those of the sweeps that came as far as the store. -/
theorem sweepReports_after (schema : Schema ι) (session : Session)
    (calls : List (World × Except Json.Failure Call)) :
    (session.after schema calls).sweepReports =
      session.sweepReports ++ announcements schema
        ((exchanges schema session calls).filter fun exchange =>
          reachedStore exchange.result) := by
  induction calls generalizing session with
  | nil => exact (List.append_nil _).symm
  | cons call calls ih =>
      obtain ⟨world, call⟩ := call
      have hAfter : session.after schema ((world, call) :: calls) =
          (session.attempt schema world call).2.after schema calls := rfl
      rw [hAfter, ih, sweepReports_attempt, exchanges, List.append_assoc, List.filter_cons]
      dsimp only
      cases reachedStore (session.attempt schema world call).1 with
      | false => rfl
      | true => rw [if_pos rfl, if_pos rfl, announcements_cons]

theorem forall_exchanges (schema : Schema ι) {P : Exchange → Prop}
    (hEach : ∀ world call (session : Session),
      P ⟨call, session, (session.attempt schema world call).1,
        (session.attempt schema world call).2⟩) (session : Session)
    (calls : List (World × Except Json.Failure Call)) :
    ∀ exchange ∈ exchanges schema session calls, P exchange := by
  induction calls generalizing session with
  | nil => exact fun _ hMem => absurd hMem List.not_mem_nil
  | cons call calls ih =>
      rw [exchanges]
      exact List.forall_mem_cons.mpr ⟨hEach call.1 call.2 session, ih _⟩

end Session

/-- Picking from fewer items picks the same just if nothing is picked from the others. -/
theorem filterMap_filter_eq_iff {α β : Type} {pick : α → Option β} {more fewer : α → Bool}
    (hFewer : ∀ item, fewer item = true → more item = true) (items : List α) :
    (items.filter more).filterMap pick = (items.filter fewer).filterMap pick ↔
      ∀ item ∈ items, more item = true → fewer item = false → pick item = none := by
  induction items with
  | nil => simp
  | cons item items ih =>
      rw [List.forall_mem_cons, ← ih, List.filter_cons, List.filter_cons]
      by_cases hFew : fewer item = true
      · rw [if_pos (hFewer item hFew), if_pos hFew]
        cases hPick : pick item with
        | none => simp [List.filterMap_cons_none hPick, hFew]
        | some picked => simp [List.filterMap_cons_some hPick, hFew]
      · rw [if_neg hFew]
        by_cases hMore : more item = true
        · rw [if_pos hMore]
          cases hPick : pick item with
          | none => simp [List.filterMap_cons_none hPick]
          | some picked =>
              -- One more is picked, and from the rest at least as many.
              have hLength : ((items.filter fewer).filterMap pick).length ≤
                  ((items.filter more).filterMap pick).length := by
                rw [List.filterMap_filter, List.filterMap_filter,
                  List.length_filterMap_eq_countP, List.length_filterMap_eq_countP]
                refine List.countP_mono_left fun other _ hOther => ?_
                by_cases hOtherFew : fewer other = true
                · rw [if_pos hOtherFew] at hOther
                  rwa [if_pos (hFewer other hOtherFew)]
                · rw [if_neg hOtherFew] at hOther
                  cases hOther
              refine iff_of_false (fun hSame => ?_) (fun hNone => ?_)
              · have hMany := congrArg List.length hSame
                rw [List.filterMap_cons_some hPick, List.length_cons] at hMany
                omega
              · cases hNone.1 hMore (Bool.eq_false_iff.mpr hFew)
        · simp [hMore]

namespace Session

/-- **Reports of sweeps**: over any calls under either policy, what is reported are the sweeps for
which the store was asked, each with its table and its kind, in the order of the calls.  Those that
succeed answer the number of rows of their table and have touched them all.  The reports are those
of the sweeps that succeed just if the store refuses none: a sweep that it refuses is reported all
the same, and no other failure is. -/
theorem sweeps_reported (schema : Schema ι) (session : Session)
    (calls : List (World × Except Json.Failure Call)) :
    (session.after schema calls).sweepReports =
        session.sweepReports ++ announcements schema
          ((exchanges schema session calls).filter fun exchange =>
            reachedStore exchange.result) ∧
    (∀ exchange ∈ exchanges schema session calls, ∀ key mutation answer,
      schema.sweep? exchange.call = some (key, mutation) → exchange.result = .ok answer →
        ∃ stored, exchange.before.store.table? (schema.table key).name = some stored ∧
          answer = .ofNat stored.rows.length ∧
          mutation.Swept (schema.table key) stored exchange.before.store exchange.after.store) ∧
    ((session.after schema calls).sweepReports =
        session.sweepReports ++ announcements schema
          ((exchanges schema session calls).filter fun exchange => exchange.result.isOk) ↔
      ∀ exchange ∈ exchanges schema session calls, ∀ refusal,
        exchange.result = .error (.storage refusal) → schema.sweep? exchange.call = none) := by
  refine ⟨sweepReports_after schema session calls, ?_, ?_⟩
  · exact forall_exchanges schema (fun world call session key mutation answer hSweep hDone =>
      swept_of_attempt hSweep hDone) session calls
  · have hFewer : ∀ exchange : Exchange, exchange.result.isOk = true →
        reachedStore exchange.result = true := by
      rintro ⟨call, before, _ | answer, after⟩ hOk
      · cases hOk
      · rfl
    rw [sweepReports_after, List.append_cancel_left_eq, announcements, announcements,
      filterMap_filter_eq_iff hFewer]
    refine forall₂_congr fun exchange _ => ?_
    rw [announcement?, Option.map_eq_none_iff]
    rcases exchange.result with e | answer
    · cases e <;> simp [reachedStore, Except.isOk, Except.toBool]
    · simp [reachedStore, Except.isOk, Except.toBool]

/-- All printers are to get the identifier of the first one. -/
def crowdedSweep : Call :=
  { model := "printers"
    method := "updateMany"
    args := .object [("data", .object [("id", .text "p1")])] }

/-- A session on the store with two printers, in which sweeps are allowed. -/
def sweepingSession : Session := .start rivalStore none .warn

-- The store refuses the second printer, and both are as they were; the sweep is reported.
example :
    let (result, after) := sweepingSession.attempt builtIn deskWorld (.ok crowdedSweep)
    result.isOk = false ∧ after.store = rivalStore ∧
      after.sweepReports = [.unboundedMutation "printers" .updateMany] := by
  decide +kernel

end Session

end ModelStore
