import ModelStore.Proofs.Operation.Running

/-!
# Compiling calls

A call is compiled before anything is sent: its arguments are read as an operation, and the
operation is prepared.  Either something is wrong with the call, and then it fails with that, or
there is work to do, and then it fails only where the store refuses a statement.  Whatever is sent
is one of the statements of the work.

## Main definitions

* `Connection.SentOnly`: connections on which only some statements were sent.
* `Session.compile`: what a call is compiled to.

## Main results

* `Work.sent_subset`: work sends no statement that it does not have.
* `Session.dispatch_of_compile_error`, `Session.dispatch_of_compile`: what comes of a call, once it
  is compiled.
-/

namespace ModelStore

/-! ## The statements that work sends -/

/-- What was sent on a connection is allowed. -/
def Connection.SentOnly (allowed : List Statement) (connection : Connection) : Prop :=
  ∀ statement ∈ Note.sentOf connection.notes, statement ∈ allowed

/-- A note can be added unless it is a statement that is not allowed. -/
theorem Connection.SentOnly.add {allowed : List Statement} {connection : Connection}
    (hSent : connection.SentOnly allowed) {n : Note}
    (hNote : ∀ statement ∈ n.statement?, statement ∈ allowed) (store : Store) :
    (⟨store, connection.barred, connection.notes ++ [n]⟩ : Connection).SentOnly allowed := by
  intro statement hMem
  rw [Note.sentOf, List.filterMap_append, List.mem_append] at hMem
  rcases hMem with hMem | hMem
  · exact hSent statement hMem
  · obtain ⟨last, hLast, hIs⟩ := List.mem_filterMap.mp hMem
    obtain rfl := List.mem_singleton.mp hLast
    exact hNote statement hIs

theorem sentOnly_send {allowed : List Statement} (now : Int) {statement : Statement}
    (hMem : statement ∈ allowed) :
    (send now statement).Preserves (Connection.SentOnly allowed) := by
  intro connection hBefore
  have hNote : ∀ other ∈ (Note.sent statement).statement?, other ∈ allowed := by
    simpa [Note.statement?] using hMem
  rw [run_send]
  split
  · exact hBefore.add hNote connection.store
  · exact hBefore.add hNote _

/-- **Work sends no statement that it does not have.** -/
theorem Work.sent_subset (now : Int) (store : Store) (barred : Option StoreError) (work : Work) :
    ∀ statement ∈ Note.sentOf (work.run now store barred).1, statement ∈ work.statements := by
  have hPreserves : (work.perform now).Preserves (Connection.SentOnly work.statements) :=
    Work.preserves_perform (fun _ hMem => sentOnly_send now hMem) fun connection _ _ hBefore =>
      hBefore.add (by simp [Note.statement?]) connection.store
  have hStart : (⟨store, barred, []⟩ : Connection).SentOnly work.statements := by
    simp [Connection.SentOnly, Note.sentOf]
  exact hPreserves _ hStart

/-! ## Compiling -/

namespace Session

variable {ι : Type}

/-- What a call is compiled to before anything is sent: the work to do, or what is wrong. -/
def compile (schema : Schema ι) (world : World) (key : ι) (method : Method) (args : Json)
    (session : Session) : Except Error Work :=
  match Operation.ofJson method args with
  | .error failure => .error (.invalidArguments failure)
  | .ok operation =>
    ((operation.prepare schema key session.policy
      fun k => world.freshId (session.issued + k)).run.run []).1

variable {schema : Schema ι} {world : World} {key : ι} {method : Method} {args : Json}
  {session : Session}

/-- What is wrong with a call is answered, and nothing is done. -/
theorem dispatch_of_compile_error {e : Error}
    (hCompile : session.compile schema world key method args = .error e) :
    (session.dispatch schema world key method args).1 = .error e ∧
      session.sentSince (session.dispatch schema world key method args).2 = [] ∧
      (session.dispatch schema world key method args).2.store = session.store := by
  rw [compile] at hCompile
  cases hOperation : Operation.ofJson method args with
  | error failure =>
      rw [hOperation] at hCompile
      cases hCompile
      refine ⟨?_, sentSince_of_ofJson_error hOperation, ?_⟩
      · rw [dispatch, hOperation]
      · rw [dispatch, hOperation]
  | ok operation =>
      rw [hOperation] at hCompile
      obtain ⟨hFails, hSent⟩ := sentSince_of_prepare_error (Prod.ext hCompile rfl)
      rw [dispatch_of_ofJson _ _ hOperation]
      refine ⟨?_, hSent, ?_⟩
      · rw [hFails]
        rfl
      · have hPrepared : (operation.prepare schema key session.policy
            fun k => world.freshId (session.issued + k)).run.run [] =
              (.error e, _) := Prod.ext hCompile rfl
        rw [perform, hPrepared]
        rfl

/-- Where there is work to do, its statements are sent, and the call fails only with the work. -/
theorem dispatch_of_compile {work : Work}
    (hCompile : session.compile schema world key method args = .ok work) :
    (session.dispatch schema world key method args).1 =
        (match (work.run world.now session.store session.barred).2 with
        | .ok (outcome, _) => .ok outcome.toJson
        | .error e => .error (.storage e)) ∧
      session.sentSince (session.dispatch schema world key method args).2 =
        Note.sentOf (work.run world.now session.store session.barred).1 := by
  rw [compile] at hCompile
  cases hOperation : Operation.ofJson method args with
  | error failure =>
      rw [hOperation] at hCompile
      cases hCompile
  | ok operation =>
      rw [hOperation] at hCompile
      have hPrepared : (operation.prepare schema key session.policy
          fun k => world.freshId (session.issued + k)).run.run [] =
            (.ok work, _) := Prod.ext hCompile rfl
      rw [dispatch_of_ofJson _ _ hOperation]
      refine ⟨?_, sentSince_of_prepared hPrepared⟩
      rw [perform_of_prepared _ _ hPrepared]
      rcases (work.run world.now session.store session.barred).2 with _ | _ <;> rfl

end Session

end ModelStore
