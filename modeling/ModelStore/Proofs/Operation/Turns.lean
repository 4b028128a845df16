import Mathlib.Logic.Function.Basic
import ModelStore.Proofs.Operation.Invariance
import ModelStore.Proofs.Query.Planning

/-!
# Operations that take turns

A store may be shared.  Then an operation goes in two turns: it is prepared by itself, and its work
is done under a lock, as one transaction.  Between the two, and before and after, others may have
their turns.  Whoever has a turn, the whole of it is one step.

An order of turns is a list; any list will do.  A call that has no turn left lets its turn pass, and
one that never gets its second turn is left with work that is not done.

## Main definitions

* `Session.prepareTurn`, `Session.workTurn`: the two turns of an operation.
* `Errand`, `Shared`: how far a call has come, and a session with the calls that share it.
* `Shared.advance`, `Shared.after`: one turn, and turns one after another.

## Main results

* `Session.perform_eq_turns`: an operation alone takes its two turns, one after the other.
* `Shared.advance_advance`: so does a call whose turns are not interrupted.
* `Shared.after_keeps`: what every turn keeps, all turns keep.
-/

namespace ModelStore

variable {ι : Type}

/-! ## The two turns of an operation -/

namespace Session

/-- The first turn: the work of an operation, or what is wrong with it.  Identifiers are used up, but
the store is not looked at. -/
def prepareTurn (schema : Schema ι) (world : World) (key : ι) (operation : Operation)
    (session : Session) : Except Error Work × Session :=
  let ids := fun k => world.freshId (session.issued + k)
  let (prepared, events) := (operation.prepare schema key session.policy ids).run.run []
  let issued := session.issued + operation.idCount (schema.table key)
  (prepared, { session.remember (events.map .reported) with issued := issued })

/-- The second turn: the work is done on the store as it is by then. -/
def workTurn (world : World) (work : Work) (session : Session) : Except Error Outcome × Session :=
  let (notes, result) := work.run world.now session.store session.barred
  let session := session.remember notes
  match result with
  | .error e => (.error (.storage e), session)
  | .ok (outcome, store) => (.ok outcome, { session with store := store })

variable {schema : Schema ι} {world : World} {key : ι} {operation : Operation} {session : Session}

/-- **Turns**: an operation alone takes its two turns, one after the other. -/
theorem perform_eq_turns :
    session.perform schema world key operation =
      match session.prepareTurn schema world key operation with
      | (.error e, between) => (.error e, between)
      | (.ok work, between) => between.workTurn world work := by
  rcases hPrepared : (operation.prepare schema key session.policy
    fun k => world.freshId (session.issued + k)).run.run [] with ⟨e | work, events⟩
  · rw [perform, prepareTurn, hPrepared]
  · rw [perform, prepareTurn, hPrepared]
    rfl

/-- Work that is there after the first turn is what the operation was prepared to. -/
theorem yields_of_prepareTurn {work : Work}
    (hTurn : (session.prepareTurn schema world key operation).1 = .ok work) :
    Yields (operation.prepare schema key session.policy
      fun k => world.freshId (session.issued + k)) work :=
  ⟨[], _, Prod.ext hTurn rfl⟩

variable (world session) in
/-- What comes of the second turn is what comes of the work. -/
theorem workTurn_eq (work : Work) :
    ((session.workTurn world work).1, (session.workTurn world work).2.store) =
      session.concluded (work.run world.now session.store session.barred).2 := by
  unfold workTurn
  rcases work.run world.now session.store session.barred with ⟨notes, _ | ⟨outcome, left⟩⟩ <;> rfl

end Session

/-! ## Sharing -/

/-- How far a call has come. -/
inductive Errand where
  | asked
  | prepared (work : Work)
  | done (result : Except Error Outcome)

/-- A session, and how far the calls have come that share it. -/
structure Shared (κ : Type) where
  session : Session
  errand : κ → Errand

namespace Shared

variable {κ : Type}

/-- A session of which all calls have still to be made. -/
def start (session : Session) : Shared κ := ⟨session, fun _ => .asked⟩

variable [DecidableEq κ]

/-- What becomes of the errand of one call. -/
def record (shared : Shared κ) (call : κ) (errand : Errand) (session : Session) : Shared κ :=
  ⟨session, Function.update shared.errand call errand⟩

section Record

variable {shared : Shared κ} {call : κ} {errand : Errand} {session : Session}

@[simp] theorem session_record : (shared.record call errand session).session = session := rfl

@[simp] theorem errand_record_self : (shared.record call errand session).errand call = errand :=
  Function.update_self ..

@[simp] theorem errand_record_of_ne {other : κ} (hOther : other ≠ call) :
    (shared.record call errand session).errand other = shared.errand other :=
  Function.update_of_ne hOther ..

@[simp] theorem record_record (later : Errand) (last : Session) :
    (shared.record call errand session).record call later last = shared.record call later last :=
  congrArg (Shared.mk last) (Function.update_idem ..)

end Record

variable (schema : Schema ι) (calls : κ → ι × Operation)

/-- One turn of one call. -/
def advance (shared : Shared κ) (world : World) (call : κ) : Shared κ :=
  match shared.errand call with
  | .asked =>
    match shared.session.prepareTurn schema world (calls call).1 (calls call).2 with
    | (.error e, session) => shared.record call (.done (.error e)) session
    | (.ok work, session) => shared.record call (.prepared work) session
  | .prepared work =>
    let (result, session) := shared.session.workTurn world work
    shared.record call (.done result) session
  | .done _ => shared

/-- Turns one after another, each with what surrounds it. -/
def after (shared : Shared κ) (turns : List (World × κ)) : Shared κ :=
  turns.foldl (fun shared turn => shared.advance schema calls turn.1 turn.2) shared

variable {schema calls} {shared : Shared κ}

/-! ## What a turn does -/

section Turns

variable {world : World} {call : κ}

theorem advance_of_refused {e : Error} {between : Session} (hAsked : shared.errand call = .asked)
    (hPrepared : shared.session.prepareTurn schema world (calls call).1 (calls call).2 =
      (.error e, between)) :
    shared.advance schema calls world call = shared.record call (.done (.error e)) between := by
  rw [advance, hAsked, hPrepared]

theorem advance_of_asked {work : Work} {between : Session} (hAsked : shared.errand call = .asked)
    (hPrepared : shared.session.prepareTurn schema world (calls call).1 (calls call).2 =
      (.ok work, between)) :
    shared.advance schema calls world call = shared.record call (.prepared work) between := by
  rw [advance, hAsked, hPrepared]

theorem advance_of_prepared {work : Work} (hPrepared : shared.errand call = .prepared work) :
    shared.advance schema calls world call =
      shared.record call (.done (shared.session.workTurn world work).1)
        (shared.session.workTurn world work).2 := by
  rw [advance, hPrepared]

theorem advance_of_done {result : Except Error Outcome}
    (hDone : shared.errand call = .done result) :
    shared.advance schema calls world call = shared := by
  rw [advance, hDone]

end Turns

/-- What every turn keeps, all turns keep. -/
theorem after_keeps {P : Shared κ → Prop}
    (hAdvance : ∀ (shared : Shared κ) world call,
      P shared → P (shared.advance schema calls world call))
    (turns : List (World × κ)) (hBefore : P shared) : P (shared.after schema calls turns) := by
  induction turns generalizing shared with
  | nil => exact hBefore
  | cons turn turns ih => exact ih (hAdvance shared turn.1 turn.2 hBefore)

/-- **Calls that are not interrupted**: two turns of a call, one right after the other, perform its
operation. -/
theorem advance_advance (world : World) {call : κ} (hAsked : shared.errand call = .asked) :
    (shared.advance schema calls world call).advance schema calls world call =
      shared.record call
        (.done (shared.session.perform schema world (calls call).1 (calls call).2).1)
        (shared.session.perform schema world (calls call).1 (calls call).2).2 := by
  rw [Session.perform_eq_turns]
  rcases hPrepared : shared.session.prepareTurn schema world (calls call).1 (calls call).2 with
    ⟨e | work, between⟩
  · rw [advance_of_refused hAsked hPrepared, advance_of_done errand_record_self]
  · rw [advance_of_asked hAsked hPrepared, advance_of_prepared errand_record_self, record_record,
      session_record]

end Shared

end ModelStore
