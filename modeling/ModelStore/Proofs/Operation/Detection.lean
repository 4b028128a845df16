import ModelStore.Proofs.Operation.Envelopes
import ModelStore.Proofs.Operation.Faults

/-!
# What is wrong with a call shows before anything is sent

A call may not have been understood, address no table or no method, or come with arguments that are
wrong.  All of that shows before the first statement is sent: the call answers an envelope of a kind
that is not the store's, and the store is not asked for anything.  The other way round, a call with
which nothing is wrong answers no such envelope, whatever the store makes of it.

## Main definitions

* `CallFaulty`: what can be wrong with a call.
* `Session.Untouched`: a session after which nothing was sent.

## Main results

* `Session.attempt_of_faulty`, `Session.attempt_of_sound`: what comes of calls, those with which
  something is wrong and the others.
* `Session.faulty_iff_answer`: an envelope that is not the store's tells that something is wrong
  with the call, and nothing was sent.
-/

namespace ModelStore

/-- What can be wrong with a call that may not have been understood. -/
def CallFaulty {ι : Type} (schema : Schema ι) (policy : BulkPolicy) :
    Except Json.Failure Call → Prop
  | .error _ => True
  | .ok call =>
    schema.find? call.model = none ∨ Method.ofName? call.method = none ∨
      ∃ key method, schema.find? call.model = some key ∧
        Method.ofName? call.method = some method ∧
        ArgumentsFaulty schema key policy method call.args

namespace Session

/-! ## Sessions in which nothing was sent -/

/-- Nothing was sent since a session was another one, and the store is the same. -/
structure Untouched (before after : Session) : Prop where
  sent : before.sentSince after = []
  store : after.store = before.store

theorem untouched_refl (session : Session) : session.Untouched session where
  sent := by
    rw [sentSince, List.drop_length]
    rfl
  store := rfl

section Calls

variable {ι : Type} {schema : Schema ι} {world : World} {key : ι} {method : Method} {args : Json}
  {session : Session}

/-- A call adds to the history and takes nothing from it. -/
theorem exists_history_dispatch (schema : Schema ι) (world : World) (key : ι) (method : Method)
    (args : Json) (session : Session) :
    ∃ notes, (session.dispatch schema world key method args).2.history =
      session.history ++ notes := by
  cases hOperation : Operation.ofJson method args with
  | error failure =>
      rw [dispatch, hOperation]
      exact ⟨[], (List.append_nil _).symm⟩
  | ok operation =>
      rw [dispatch_of_ofJson world session hOperation]
      rcases hPrepared : (operation.prepare schema key session.policy
        fun k => world.freshId (session.issued + k)).run.run [] with ⟨_ | work, events⟩
      · rw [perform, hPrepared]
        exact ⟨_, rfl⟩
      · rw [perform, hPrepared]
        dsimp only [remember]
        rcases work.run world.now session.store session.barred with ⟨notes, _ | _⟩
        · exact ⟨_, List.append_assoc _ _ _⟩
        · exact ⟨_, List.append_assoc _ _ _⟩

/-- Taking up a call is no statement. -/
theorem Untouched.of_remember {after : Session} {notes more : List Note}
    (hNotes : Note.sentOf notes = [])
    (hHistory : after.history = (session.remember notes).history ++ more)
    (hUntouched : (session.remember notes).Untouched after) : session.Untouched after where
  sent := by
    have hMore : Note.sentOf more = [] := by
      have hSent := hUntouched.sent
      rwa [sentSince, hHistory, List.drop_left] at hSent
    rw [sentSince, hHistory, remember, List.append_assoc, List.drop_left, Note.sentOf,
      List.filterMap_append, ← Note.sentOf, ← Note.sentOf, hNotes, hMore, List.append_nil]
  store := hUntouched.store

/-! ## Calls with which something is wrong -/

/-- A call with arguments that are wrong. -/
theorem dispatch_of_faulty (world : World)
    (hFaulty : ArgumentsFaulty schema key session.policy method args) :
    ∃ e, (session.dispatch schema world key method args).1 = .error e ∧ e.kind ≠ .storage ∧
      session.Untouched (session.dispatch schema world key method args).2 := by
  have hDetects := detects_compile schema world key method args session
  obtain ⟨e, hCompile, hKind⟩ := hDetects.iff_error.mp hFaulty
  obtain ⟨hAnswer, hSent, hStore⟩ := dispatch_of_compile_error hCompile
  exact ⟨e, hAnswer, hKind, hSent, hStore⟩

/-- **What is wrong with a call shows before anything is sent.** -/
theorem attempt_of_faulty (world : World) {call : Except Json.Failure Call}
    (hFaulty : CallFaulty schema session.policy call) :
    ∃ e, (session.attempt schema world call).1 = .error e ∧ e.kind ≠ .storage ∧
      session.Untouched (session.attempt schema world call).2 := by
  cases call with
  | error failure => exact ⟨_, rfl, nofun, session.untouched_refl⟩
  | ok call =>
      show ∃ e, (session.call schema world call).1 = .error e ∧ e.kind ≠ .storage ∧
        session.Untouched (session.call schema world call).2
      rw [Session.call]
      rcases hModel : schema.find? call.model with _ | key
      · exact ⟨_, rfl, nofun, session.untouched_refl⟩
      · rcases hMethod : Method.ofName? call.method with _ | method
        · exact ⟨_, rfl, nofun, session.untouched_refl⟩
        · have hArguments : ArgumentsFaulty schema key session.policy method call.args := by
            simpa [CallFaulty, hModel, hMethod] using hFaulty
          have hTaken : ArgumentsFaulty schema key
              (session.remember [.dispatching call.model method.name]).policy method call.args :=
            hArguments
          obtain ⟨e, hAnswer, hKind, hUntouched⟩ := dispatch_of_faulty world hTaken
          obtain ⟨more, hHistory⟩ := exists_history_dispatch schema world key method call.args
            (session.remember [.dispatching call.model method.name])
          exact ⟨e, hAnswer, hKind, hUntouched.of_remember rfl hHistory⟩

/-! ## Calls with which nothing is wrong -/

/-- What comes of a call with which nothing is wrong: the store refuses a statement, or there is an
outcome whose rows have fields with names of the schema. -/
def Comes (schema : Schema ι) (result : Except Error Json) : Prop :=
  (∃ e, result = .error (.storage e)) ∨ ∃ outcome : Outcome, result = .ok outcome.toJson ∧
    ∀ property, schema.NamesHave property → outcome.NamesHave property

theorem comes_of_dispatch
    (hSound : ¬ArgumentsFaulty schema key session.policy method args) :
    Comes schema (session.dispatch schema world key method args).1 := by
  have hDetects := detects_compile schema world key method args session
  cases hCompile : session.compile schema world key method args with
  | error e =>
      rw [hCompile] at hDetects
      exact absurd hDetects.1 hSound
  | ok work =>
      rw [(dispatch_of_compile hCompile).1]
      rcases hRun : (work.run world.now session.store session.barred).2 with e | ⟨outcome, after⟩
      · exact .inl ⟨e, rfl⟩
      · refine .inr ⟨outcome, rfl, fun property hNames => ?_⟩
        exact Work.namesHave_of_run (namesHave_of_compile hNames hCompile) hRun

/-- A call with which nothing is wrong fails only with the store. -/
theorem attempt_of_sound (world : World) {call : Except Json.Failure Call}
    (hSound : ¬CallFaulty schema session.policy call) :
    Comes schema (session.attempt schema world call).1 := by
  cases call with
  | error failure => exact absurd trivial hSound
  | ok call =>
      show Comes schema (session.call schema world call).1
      rw [Session.call]
      rcases hModel : schema.find? call.model with _ | key
      · exact absurd (.inl hModel) hSound
      · rcases hMethod : Method.ofName? call.method with _ | method
        · exact absurd (.inr (.inl hMethod)) hSound
        · refine comes_of_dispatch fun hArguments => hSound ?_
          exact .inr (.inr ⟨key, method, hModel, hMethod, hArguments⟩)

/-! ## Answers -/

/-- Where no field is called like that of an envelope, an answer is an envelope that is not the
store's just if something is wrong with the call. -/
theorem faulty_iff_answer (hApart : schema.NamesHave (· ≠ "isError")) (world : World)
    (session : Session) (call : Except Json.Failure Call) :
    CallFaulty schema session.policy call ↔ ∃ kind message, kind ≠ .storage ∧
      (session.answer schema world call).1 = ErrorKind.envelope kind message := by
  have hAnswer : (session.answer schema world call).1 =
      answerOf (session.attempt schema world call).1 := rfl
  rw [hAnswer]
  constructor
  · intro hFaulty
    obtain ⟨e, hError, hKind, -⟩ := attempt_of_faulty world hFaulty
    rw [hError]
    exact ⟨e.kind, e.message, hKind, rfl⟩
  · rintro ⟨kind, message, hKind, hEnvelope⟩
    by_contra hSound
    rcases attempt_of_sound world hSound with ⟨e, hError⟩ | ⟨outcome, hOk, hNames⟩
    · have hStorage : ErrorKind.storage.envelope (Error.storage e).message =
          kind.envelope message := by
        rw [← hEnvelope, hError]
        rfl
      exact hKind (ErrorKind.envelope_inj hStorage).symm
    · rw [hOk] at hEnvelope
      exact Outcome.toJson_ne_envelope (hNames _ hApart) kind message hEnvelope

end Calls

/-- No field of the built-in tables is called like that of an envelope, also under relations. -/
theorem builtIn_namesHave_apart : builtIn.NamesHave (· ≠ "isError") where
  table key := by cases key <;> decide
  column key := by cases key <;> decide
  relation key := by cases key <;> decide
  localField key := by cases key <;> decide
  joined key relation hMem name hName hJoined := by
    have hBar : '_' ∈ (joinedName relation.name name).toList := by
      simp [joinedName]
    rw [hJoined] at hBar
    exact absurd hBar (by decide)

/-- **What is wrong with a call is detected before anything is sent.**  A call answers an envelope
of a kind other than the store's just if something is wrong with it; and then no statement was sent,
and the store is as it was. -/
theorem detected_before_sending (world : World) (session : Session)
    (call : Except Json.Failure Call) :
    (CallFaulty builtIn session.policy call ↔ ∃ kind message, kind ≠ .storage ∧
      (session.answer builtIn world call).1 = ErrorKind.envelope kind message) ∧
    ∀ kind message, kind ≠ .storage →
      (session.answer builtIn world call).1 = ErrorKind.envelope kind message →
        session.Untouched (session.answer builtIn world call).2 := by
  have hIff := faulty_iff_answer builtIn_namesHave_apart world session call
  refine ⟨hIff, fun kind message hKind hEnvelope => ?_⟩
  obtain ⟨e, -, -, hUntouched⟩ := attempt_of_faulty world
    (hIff.mpr ⟨kind, message, hKind, hEnvelope⟩)
  exact hUntouched

/-- An upsert of a printer that is there, whose new row has a column that there is not. -/
def strayUpsert : Call :=
  { model := "printers"
    method := "upsert"
    args := .object
      [ ("where", .object [("id", .text "p1")])
      , ("update", .object [("name", .text "Lobby")])
      , ("create", .object [("colour", .text "grey")]) ] }

/-- The new row is refused although it would not have been sent, and neither is the lookup. -/
theorem detected_before_sending_strayUpsert :
    CallFaulty builtIn deskSession.policy (.ok strayUpsert) ∧
      deskSession.Untouched (deskSession.answer builtIn deskWorld (.ok strayUpsert)).2 := by
  obtain ⟨hIff, hBefore⟩ := detected_before_sending deskWorld deskSession (.ok strayUpsert)
  have hEnvelope : (deskSession.answer builtIn deskWorld (.ok strayUpsert)).1 =
      ErrorKind.schema.envelope "Unknown column `colour` on table `printers`" := by
    rfl
  have hKind : ErrorKind.schema ≠ .storage := nofun
  exact ⟨hIff.mpr ⟨_, _, hKind, hEnvelope⟩, hBefore _ _ hKind hEnvelope⟩

end Session

end ModelStore
