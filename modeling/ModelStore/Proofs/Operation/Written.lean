import ModelStore.Proofs.Operation.Searching
import ModelStore.Proofs.Query.Written

/-!
# Searches that are written and searches that are built

A search is performed alike whether it is built by steps or called with the object that writes them:
the statements, the answer and the store are the same.

## Main results

* `Session.call_json`: a call with the object that writes some steps answers what the search that
  they build answers.
-/

namespace ModelStore

open SearchStep (json levels search Writable)

variable {ι : Type}

/-- The searches that some options stand for. -/
def FindOptions.operations (options : FindOptions) : List Operation :=
  [.findMany options, .findFirst options]

theorem Method.ofName?_name (method : Method) : Method.ofName? method.name = some method := by
  cases method <;> decide

/-- A call with the object that writes some steps is for the search that they build. -/
theorem Operation.ofJson_json {steps : List SearchStep}
    (hWritable : ∀ level ∈ levels steps, Writable level) {operation : Operation}
    (hOperation : operation ∈ (search steps).toOptions.operations) :
    Operation.ofJson operation.method (json steps) = .ok operation := by
  have hRead : orElse .empty (decode findShape) (json steps) = .ok (search steps).toOptions :=
    SearchStep.decode_json hWritable
  rcases List.mem_cons.mp hOperation with rfl | hFirst
  · exact congrArg (Except.map findMany) hRead
  · cases List.mem_singleton.mp hFirst
    exact congrArg (Except.map findFirst) hRead

namespace Session

/-- What was noted before makes no difference to an answer. -/
theorem perform_remember (session : Session) (notes : List Note) (schema : Schema ι)
    (world : World) (key : ι) (operation : Operation) :
    ((session.remember notes).perform schema world key operation).1 =
      (session.perform schema world key operation).1 := by
  unfold perform remember
  dsimp only
  rcases (operation.prepare schema key session.policy
    fun k => world.freshId (session.issued + k)).run.run [] with ⟨_ | work, events⟩
  · rfl
  · dsimp only
    rcases work.run world.now session.store session.barred with ⟨sent, _ | _⟩ <;> rfl

/-- **Two ways to a search**: a call with the object that writes some steps does what the search
that they build does, on every store, as long as the object can say them.  The object is one, and it
is read as that search. -/
theorem call_json {steps : List SearchStep} (hWritable : ∀ level ∈ levels steps, Writable level) :
    (json steps).KeysDistinct ∧
      decode findShape (json steps) = .ok (search steps).toOptions ∧
      ∀ (schema : Schema ι) (key : ι) (world : World) (session : Session),
        ∀ operation ∈ (search steps).toOptions.operations,
          session.dispatch schema world key operation.method (json steps) =
              ((session.perform schema world key operation).1.map Outcome.toJson,
                (session.perform schema world key operation).2) ∧
            ∀ model, schema.find? model = some key →
              (session.call schema world ⟨model, operation.method.name, json steps⟩).1 =
                (session.perform schema world key operation).1.map Outcome.toJson := by
  refine ⟨SearchStep.keysDistinct_json hWritable, SearchStep.decode_json hWritable, ?_⟩
  intro schema key world session operation hOperation
  have hRead : Operation.ofJson operation.method (json steps) = .ok operation :=
    Operation.ofJson_json hWritable hOperation
  refine ⟨dispatch_of_ofJson _ _ hRead, fun model hModel => ?_⟩
  rw [call, hModel]
  dsimp only
  rw [Method.ofName?_name]
  dsimp only
  rw [dispatch_of_ofJson _ _ hRead, perform_remember]

/-- The users of a role that have a name, with their default printers and all their templates. -/
def usersByStep : List SearchStep :=
  [.filter (.test "role" (.eq (.text "USER"))), .take 9, .select ["name"], .joinAll "templates",
    .filter (.both (.test "name" .isNotNull) (.test "email" (.among [.text "a@b", .null]))),
    .orderBy "email" .descending,
    .join "printers"
      [.filter (.test "isDefault" (.eq (.bool true))), .join "owner" [.select ["email"]]],
    .select ["email", "name"], .take 2]

theorem call_json_usersByStep :
    (∀ level ∈ levels usersByStep, Writable level) ∧
      decode findShape (json usersByStep) = .ok (search usersByStep).toOptions ∧
      (deskSession.call builtIn deskWorld ⟨"users", "findMany", json usersByStep⟩).1 =
        (deskSession.perform builtIn deskWorld .users
          (.findMany (search usersByStep).toOptions)).1.map Outcome.toJson := by
  have hWritable : ∀ level ∈ levels usersByStep, Writable level := by decide +kernel
  obtain ⟨-, hRead, hPerformed⟩ := call_json (ι := BuiltIn) hWritable
  obtain ⟨-, hCalled⟩ := hPerformed builtIn .users deskWorld deskSession
    (.findMany (search usersByStep).toOptions) List.mem_cons_self
  exact ⟨hWritable, hRead, hCalled "users" (by decide +kernel)⟩

end Session

end ModelStore
