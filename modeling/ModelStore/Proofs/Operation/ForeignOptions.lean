import ModelStore.Proofs.Operation.BulkPolicy

/-!
# Options that a method does not have

Every method that reads options reads them as a closed record: an option that the method does not
have is a fault, so a filter that is handed to a method without one is not passed over.  The fault
shows before anything else is done, and the session is left as it was.

The removal of every row reads no options at all.  What is handed to it goes unseen, a filter too,
and the call removes every row as it would have done without options.

## Main definitions

* `Method.optionNames`: the options that a method has.

## Main results

* `Json.FromValue.fill_eq_error`: a closed record is not read from an object with a foreign field.
* `Session.foreign_option_refused_iff`: a call with a foreign option is refused, unless it removes
  every row; then its options are ignored.
-/

namespace ModelStore

open Json (RecordShape FromValue Source Cause)

/-! ## Foreign fields of a record -/

namespace Json

section Record

variable {δ α : Type} {shape : RecordShape FromValue δ α} {fields : Fields Json} {name : String}

/-- A record has no field of a name just if it is not among its names. -/
theorem RecordShape.field?_eq_none_iff : shape.field? name = none ↔ name ∉ shape.names := by
  rw [field?, List.find?_eq_none, names, List.mem_map]
  constructor
  · rintro hNone ⟨field, hField, rfl⟩
    exact hNone field hField (beq_self_eq_true _)
  · intro hForeign field hField hName
    exact hForeign ⟨field, hField, eq_of_beq hName⟩

variable (hClosed : shape.closed = true) (hName : name ∈ fields.names)
  (hForeign : name ∉ shape.names)

include hClosed hName hForeign

/-- A closed record takes no foreign field, whatever stands before it. -/
theorem FromValue.fill_eq_error (draft : δ) :
    ∃ cause, FromValue.fill shape fields draft = .error cause := by
  induction fields generalizing draft with
  | nil => cases hName
  | cons entry rest ih =>
      obtain ⟨key, value⟩ := entry
      cases hField : shape.field? key with
      | none =>
          refine ⟨.unknownField key shape.names, ?_⟩
          simp [fill, hField, hClosed]
      | some field =>
          -- The name at hand is one of the record, so the foreign one stands behind it.
          have hRest : name ∈ Fields.names rest := by
            rcases List.mem_cons.mp hName with rfl | hRest
            · rw [RecordShape.field?_eq_none_iff.mpr hForeign] at hField
              cases hField
            · exact hRest
          rw [fill, hField]
          dsimp only
          split
          · exact ⟨_, rfl⟩
          · cases field.read value with
            | error cause => exact ⟨cause, rfl⟩
            | ok write => exact ih hRest (write draft)

/-- A closed record is not read from an object with a foreign field. -/
theorem FromValue.record_eq_error :
    ∃ cause, FromValue.record shape (.object fields) = .error cause := by
  obtain ⟨cause, hFill⟩ := FromValue.fill_eq_error hClosed hName hForeign shape.start
  refine ⟨cause, ?_⟩
  rw [record, hFill]
  rfl

end Record

end Json

/-- What has a closed shape is not read from an object with a foreign field. -/
theorem decode_eq_error {δ α : Type}
    {shape : (m : Type → Type) → [Source m] → RecordShape m δ α} {fields : Fields Json}
    {name : String} (hClosed : (shape FromValue).closed = true) (hName : name ∈ fields.names)
    (hForeign : name ∉ (shape FromValue).names) :
    ∃ failure, decode shape (.object fields) = .error failure := by
  obtain ⟨cause, hRecord⟩ := Json.FromValue.record_eq_error hClosed hName hForeign
  refine ⟨⟨cause, none⟩, ?_⟩
  have hRead : (Source.record (shape FromValue) : FromValue α) (.object fields) =
      .error cause := hRecord
  rw [decode, hRead]
  rfl

/-! ## Foreign options of a method -/

/-- The options that a method has. -/
def Method.optionNames : Method → List String
  | .findFirst | .findMany => ["where", "select", "orderBy", "take", "skip", "include"]
  | .create | .updateAll => ["data"]
  | .update | .updateMany => ["where", "data"]
  | .upsert => ["where", "update", "create"]
  | .delete | .deleteMany | .count => ["where"]
  | .deleteAll => []

/-- A method that reads options does not read a foreign one. -/
theorem Operation.ofOptions_eq_error {method : Method} (hReads : method ≠ .deleteAll)
    {fields : Fields Json} {name : String} (hName : name ∈ fields.names)
    (hForeign : name ∉ method.optionNames) :
    ∃ failure, Operation.ofOptions method (.object fields) = .error failure := by
  -- The names of each shape are the options of its method.
  have hRead {δ α : Type} (shape : (m : Type → Type) → [Source m] → RecordShape m δ α)
      (make : α → Operation) (hClosed : (shape FromValue).closed = true)
      (hNames : (shape FromValue).names = method.optionNames) :
      ∃ failure, make <$> decode shape (.object fields) = .error failure := by
    obtain ⟨failure, hDecode⟩ := decode_eq_error hClosed hName (hNames ▸ hForeign)
    exact ⟨failure, by rw [hDecode]; rfl⟩
  cases method with
  | findFirst => exact hRead findShape .findFirst rfl rfl
  | findMany => exact hRead findShape .findMany rfl rfl
  | create => exact hRead createShape .create rfl rfl
  | update => exact hRead updateShape .update rfl rfl
  | updateMany => exact hRead updateManyShape .updateMany rfl rfl
  | updateAll => exact hRead updateAllShape .updateAll rfl rfl
  | upsert => exact hRead upsertShape .upsert rfl rfl
  | delete => exact hRead deleteShape .delete rfl rfl
  | deleteMany => exact hRead filterShape .deleteMany rfl rfl
  | deleteAll => exact absurd rfl hReads
  | count => exact hRead filterShape .count rfl rfl

/-! ## Calls with foreign options -/

namespace Session

variable {ι : Type} (schema : Schema ι) (world : World) (session : Session) (key : ι)

/-- The removal of every row is the same whatever its options are, and it is sent. -/
theorem dispatch_deleteAll (args : Json) :
    session.dispatch schema world key .deleteAll args =
        session.dispatch schema world key .deleteAll .null ∧
      session.sentSince (session.dispatch schema world key .deleteAll args).2 =
        [.delete (schema.table key).name [] none] := by
  have hPrepared : (Operation.deleteAll.prepare schema key session.policy
      fun k => world.freshId (session.issued + k)).run.run [] =
        (.ok (.number (.delete (schema.table key).name [] none)), []) := rfl
  refine ⟨rfl, ?_⟩
  have hOperation : Operation.ofJson .deleteAll args = .ok .deleteAll := rfl
  rw [dispatch_of_ofJson world session hOperation, sentSince_of_prepared hPrepared,
    Work.run_number]
  rfl

/-- **Foreign options**: a call with an option that its method does not have is refused before
anything is done, unless the method is the removal of every row.  That one ignores its options and
sends the removal of every row. -/
theorem foreign_option_refused_iff (method : Method) {args : Json} {fields : Fields Json}
    {name : String} (hOptions : firstArgument args = .object fields)
    (hName : name ∈ fields.names) (hForeign : name ∉ method.optionNames) :
    ((∃ failure, session.dispatch schema world key method args =
        (.error (.invalidArguments failure), session)) ↔ method ≠ .deleteAll) ∧
      (method = .deleteAll →
        session.dispatch schema world key method args =
            session.dispatch schema world key method .null ∧
          session.sentSince (session.dispatch schema world key method args).2 =
            [.delete (schema.table key).name [] none]) := by
  constructor
  · constructor
    · rintro ⟨failure, hRefused⟩ rfl
      obtain ⟨-, hSent⟩ := dispatch_deleteAll schema world session key args
      rw [hRefused, sentSince, List.drop_length] at hSent
      cases hSent
    · intro hReads
      obtain ⟨failure, hRead⟩ := Operation.ofOptions_eq_error hReads hName hForeign
      refine ⟨failure, ?_⟩
      rw [dispatch, Operation.ofJson, hOptions, hRead]
  · rintro rfl
    exact dispatch_deleteAll schema world session key args

/-- A filter that no user satisfies. -/
def strayFilter : Json := .object [("where", .object [("id", .text "nobody")])]

/-- Handed to the change of every row the filter is refused; handed to the removal of every row it
goes unseen, and no user is left. -/
theorem foreign_option_strayFilter :
    (∃ failure, deskSession.dispatch builtIn deskWorld .users .updateAll strayFilter =
        (.error (.invalidArguments failure), deskSession)) ∧
      deskSession.store.rowsOf "users" ≠ [] ∧
      deskSession.dispatch builtIn deskWorld .users .deleteAll strayFilter =
        deskSession.dispatch builtIn deskWorld .users .deleteAll .null ∧
      (deskSession.dispatch builtIn deskWorld .users .deleteAll
        strayFilter).2.store.rowsOf "users" = [] := by
  have hOptions : firstArgument strayFilter =
      .object [("where", .object [("id", .text "nobody")])] := rfl
  have hName : "where" ∈ Fields.names [("where", Json.object [("id", .text "nobody")])] := by
    decide
  have hChange := foreign_option_refused_iff builtIn deskWorld deskSession .users .updateAll
    hOptions hName (by decide)
  have hRemoval := foreign_option_refused_iff builtIn deskWorld deskSession .users .deleteAll
    hOptions hName (by decide)
  exact ⟨hChange.1.mpr (by decide), by decide +kernel, (hRemoval.2 rfl).1, by decide +kernel⟩

end Session

end ModelStore
