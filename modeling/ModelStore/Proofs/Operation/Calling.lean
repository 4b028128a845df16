import ModelStore.Proofs.Json.Reading
import ModelStore.Proofs.Operation.Repeating

/-!
# What searches answer that are called from text

The arguments of a call that is read from text have no key twice.  So the search that is called asks
for no relation twice, and unlike one that is built by steps it is never refused for a reference,
whatever it asks for.

## Main results

* `Session.refusesColumn_of_perform`: a search that names no relation twice is not refused for a
  reference.
* `Session.refusesColumn_of_text`: nor is a search that is called from text.
-/

namespace ModelStore

variable {ι : Type}

/-! ## Arguments -/

theorem Json.keysDistinct_firstArgument {args : Json} (hKeys : args.KeysDistinct) :
    (firstArgument args).KeysDistinct := by
  cases args with
  | list items =>
      cases items with
      | nil => trivial
      | cons first rest => exact hKeys.1
  | _ => exact hKeys

namespace Operation

/-- The options of a search name no relation twice, whether they are given or left out. -/
theorem namesOnce_of_orElse {value : Json} {options : FindOptions} (hKeys : value.KeysDistinct)
    (hRead : orElse .empty (decode findShape) value = .ok options) : options.NamesOnce := by
  cases value with
  | null =>
      cases hRead
      exact fun _ hNone => nomatch hNone
  | _ => exact namesOnce_of_decode hKeys hRead

/-- A call of a search is for one that names no relation twice. -/
theorem exists_search_of_ofJson {method : Method} {args : Json} {operation : Operation}
    (hSearch : method = .findMany ∨ method = .findFirst) (hKeys : args.KeysDistinct)
    (hRead : ofJson method args = .ok operation) :
    ∃ options : FindOptions, options.NamesOnce ∧ operation ∈ options.operations := by
  have hFirst : (firstArgument args).KeysDistinct := Json.keysDistinct_firstArgument hKeys
  rw [ofJson] at hRead
  rcases hSearch with rfl | rfl
  · obtain ⟨options, hOptions, rfl⟩ := map_eq_ok.mp hRead
    exact ⟨options, namesOnce_of_orElse hFirst hOptions, List.mem_cons_self⟩
  · obtain ⟨options, hOptions, rfl⟩ := map_eq_ok.mp hRead
    exact ⟨options, namesOnce_of_orElse hFirst hOptions,
      List.mem_cons_of_mem _ (List.mem_singleton_self _)⟩

end Operation

/-! ## Searches -/

namespace Session

variable {schema : Schema ι} (hNamed : schema.WellNamed) {world : World} {session : Session}
  (hStore : session.store.Holds schema) {e : StoreError}

include hNamed hStore

/-- A search that names no relation twice is not refused for a reference: it has no plan, and is
refused for something else, or its plan is one of which each reference fits one column. -/
theorem refusesColumn_of_perform {key : ι} {options : FindOptions} (hOnce : options.NamesOnce)
    {operation : Operation} (hOperation : operation ∈ options.operations)
    (hFails : (session.perform schema world key operation).1 = .error (.storage e)) :
    e.refusesColumn = false := by
  rcases hBuilt : (Plan.build schema key options).run.run [] with ⟨failure | plan, events⟩
  · have hFailure : (session.perform schema world key operation).1 = .error failure :=
      (refused_of_build hBuilt operation hOperation).1
    have hDetects : Detects (options.Faulty schema key)
        ((Plan.build schema key options).run.run []).1 := detects_build key options []
    rw [hBuilt] at hDetects
    cases hFailure.symm.trans hFails
    exact absurd rfl hDetects.2
  · obtain ⟨read, hRead, hAnswered, hRefused⟩ := exists_statement hBuilt operation hOperation
    obtain ⟨query, hReadPlanned, hReadOnce, -⟩ := (planned_of_build hBuilt).of_windows hRead
    cases hRun : (Statement.find read).run world.now session.store with
    | ok result =>
        obtain ⟨outcome, hOutcome⟩ := hAnswered result hRun
        cases hOutcome.symm.trans hFails
    | error refusal =>
        cases (hRefused refusal hRun).symm.trans hFails
        exact hReadPlanned.refusesColumn_eq_false hNamed hStore
          (hReadOnce.mpr (hOnce.asksOnce key)) hRun

/-- **Searches from text**: a search that is called from text is never refused for a reference. -/
theorem refusesColumn_of_text {line : String} {call : Call}
    (hCall : decodeText callShape line = .ok call) {method : Method}
    (hMethod : Method.ofName? call.method = some method)
    (hSearch : method = .findMany ∨ method = .findFirst)
    (hFails : (session.attempt schema world (decodeText callShape line)).1 = .error (.storage e)) :
    e.refusesColumn = false := by
  rw [hCall, attempt, Session.call] at hFails
  rcases hModel : schema.find? call.model with _ | key
  · rw [hModel] at hFails
    cases hFails
  · rw [hModel, hMethod] at hFails
    dsimp only at hFails
    cases hOperation : Operation.ofJson method call.args with
    | error failure =>
        rw [dispatch, hOperation] at hFails
        cases hFails
    | ok operation =>
        obtain ⟨options, hOnce, hMem⟩ :=
          Operation.exists_search_of_ofJson hSearch (keysDistinct_of_call hCall) hOperation
        rw [dispatch_of_ofJson _ _ hOperation, perform_remember] at hFails
        cases hResult : (session.perform schema world key operation).1 with
        | ok outcome =>
            rw [hResult] at hFails
            cases hFails
        | error failure =>
            rw [hResult] at hFails
            cases hFails
            exact refusesColumn_of_perform hNamed hStore hOnce hMem hResult

end Session

end ModelStore
