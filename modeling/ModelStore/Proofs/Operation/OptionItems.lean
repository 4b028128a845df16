import ModelStore.Proofs.Json.Items
import ModelStore.Proofs.Operation.ForeignOptions

/-!
# Options that are no object

The options of a call are an object, or nothing at all.  A text, a number or a truth value in their
place is a fault, and the session is left as it was.  A list is a fault only if it cannot be read as
the options in their order: otherwise the call does what it does with the object in which the items
stand under the names of the options, and the empty list is as good as the empty object.  So the
removal of the rows under a condition removes all rows if it is handed an empty list.

The removal of every row reads no options, and what is handed to it goes unseen.

## Main definitions

* `Method.listed`: the object in which items stand under the names of the options.
* `Method.Takes`: items that a method reads as its options.

## Main results

* `Operation.ofOptions_list_eq_ok`: a list is read just if the object of its items is.
* `Session.unnamed_options`: what comes of a call whose options are neither null nor an object.
-/

namespace ModelStore

open Json (FieldShape RecordShape FromValue Source)

/-! ## Shapes of options -/

/-- What is read into one part of a draft leaves the others as they are. -/
theorem fieldOf_spares {δ β : Type} {name : String} {required : Bool} {filled : δ → Bool}
    {read : FromValue β} {write : β → δ → δ} {other : FieldShape FromValue δ}
    (hWrite : ∀ value draft, other.filled (write value draft) = other.filled draft) :
    (fieldOf name required filled read write).Spares other := by
  intro item result draft hRead
  obtain ⟨value, -, rfl⟩ := map_eq_ok.mp hRead
  exact hWrite value draft

section Listable

variable {δ α : Type} {shape : RecordShape FromValue δ α} {field other : FieldShape FromValue δ}

/-- A record of one field. -/
theorem listable_of_one (hShape : shape.fields = [field])
    (hStart : field.filled shape.start = false)
    (hRequired : field.required = true →
      ∀ draft result, shape.finish draft = .ok result → field.filled draft = true) :
    shape.Listable where
  names := by simp [RecordShape.names, hShape]
  start := by simpa [hShape] using hStart
  spares := by simp [hShape]
  required := by simpa [hShape] using hRequired

/-- A record of two fields. -/
theorem listable_of_two (hShape : shape.fields = [field, other]) (hNames : field.name ≠ other.name)
    (hStart : field.filled shape.start = false ∧ other.filled shape.start = false)
    (hSpares : field.Spares other)
    (hRequired : field.required = true →
      ∀ draft result, shape.finish draft = .ok result → field.filled draft = true)
    (hOther : other.required = true →
      ∀ draft result, shape.finish draft = .ok result → other.filled draft = true) :
    shape.Listable where
  names := by simpa [RecordShape.names, hShape] using hNames
  start := by simpa [hShape] using hStart
  spares := by simpa [hShape] using hSpares
  required := by simpa [hShape] using ⟨hRequired, hOther⟩

end Listable

theorem listable_find : (findShape FromValue).Listable where
  names := by decide
  start := by
    simp only [findShape, findShapeWith, List.forall_mem_cons]
    exact ⟨rfl, rfl, rfl, rfl, rfl, rfl, nofun⟩
  spares := by
    simp only [findShape, findShapeWith, List.pairwise_cons, List.forall_mem_cons]
    refine ⟨⟨?_, ?_, ?_, ?_, ?_, nofun⟩, ⟨?_, ?_, ?_, ?_, nofun⟩, ⟨?_, ?_, ?_, nofun⟩,
      ⟨?_, ?_, nofun⟩, ⟨?_, nofun⟩, nofun, .nil⟩ <;> exact fieldOf_spares fun _ _ => rfl
  required := by
    simp only [findShape, findShapeWith, List.forall_mem_cons]
    exact ⟨nofun, nofun, nofun, nofun, nofun, nofun, nofun⟩

theorem listable_create : (createShape FromValue).Listable := by
  refine listable_of_one rfl rfl fun _ => ?_
  rintro ⟨_, _ | data, _, _⟩ result hFinish
  · cases hFinish
  · rfl

theorem listable_updateAll : (updateAllShape FromValue).Listable := by
  refine listable_of_one rfl rfl fun _ => ?_
  rintro ⟨_, _ | data, _, _⟩ result hFinish
  · cases hFinish
  · rfl

theorem listable_delete : (deleteShape FromValue).Listable := by
  refine listable_of_one rfl rfl fun _ => ?_
  rintro ⟨_ | filter, _, _, _⟩ result hFinish
  · cases hFinish
  · rfl

theorem listable_filter : (filterShape FromValue).Listable :=
  listable_of_one rfl rfl nofun

theorem listable_update : (updateShape FromValue).Listable := by
  refine listable_of_two rfl (by decide) ⟨rfl, rfl⟩ (fieldOf_spares fun _ _ => rfl)
    (fun _ => ?_) (fun _ => ?_)
  · rintro ⟨_ | filter, _, _, _⟩ result hFinish
    · cases hFinish
    · rfl
  · rintro ⟨_ | _ | filter, _ | data, _, _⟩ result hFinish
    all_goals first | rfl | cases hFinish

theorem listable_updateMany : (updateManyShape FromValue).Listable := by
  refine listable_of_two rfl (by decide) ⟨rfl, rfl⟩ (fieldOf_spares fun _ _ => rfl) nofun
    (fun _ => ?_)
  rintro ⟨_, _ | data, _, _⟩ result hFinish
  · cases hFinish
  · rfl

theorem listable_upsert : (upsertShape FromValue).Listable where
  names := by decide
  start := by
    simp only [upsertShape, List.forall_mem_cons]
    exact ⟨rfl, rfl, rfl, nofun⟩
  spares := by
    simp only [upsertShape, List.pairwise_cons, List.forall_mem_cons]
    refine ⟨⟨?_, ?_, nofun⟩, ⟨?_, nofun⟩, nofun, .nil⟩ <;> exact fieldOf_spares fun _ _ => rfl
  required := by
    simp only [upsertShape, List.forall_mem_cons]
    refine ⟨nofun, nofun, fun _ => ?_, nofun⟩
    rintro ⟨_, _, _, _ | create⟩ result hFinish
    · cases hFinish
    · rfl

/-! ## Options as items -/

/-- A list is read just if it is not too long and the object of its items is read. -/
theorem decode_list_eq_ok {δ α : Type}
    {shape : (m : Type → Type) → [Source m] → RecordShape m δ α}
    (hListable : (shape FromValue).Listable) {items : List Json} {result : α} :
    decode shape (.list items) = .ok result ↔
      items.length ≤ (shape FromValue).names.length ∧
        decode shape (.object ((shape FromValue).names.zip items)) = .ok result := by
  have hOk : ∀ value, decode shape value = .ok result ↔
      FromValue.record (shape FromValue) value = .ok result := by
    intro value
    show (FromValue.record (shape FromValue) value).mapError _ = _ ↔ _
    cases FromValue.record (shape FromValue) value with
    | error cause => constructor <;> (intro hResult; cases hResult)
    | ok found => simp [Except.mapError]
  rw [hOk, hOk]
  exact FromValue.record_list_eq_ok hListable

/-- The object in which items stand under the names of the options of a method. -/
def Method.listed (method : Method) (items : List Json) : Json :=
  .object (method.optionNames.zip items)

/-- Items that a method reads as its options: there are no more of them than options, and the
method reads them under the names of these. -/
def Method.Takes (method : Method) (items : List Json) : Prop :=
  items.length ≤ method.optionNames.length ∧
    ∃ operation, Operation.ofOptions method (method.listed items) = .ok operation

namespace Operation

/-- A list is read just if it is not too long and the object of its items is read. -/
theorem ofOptions_list_eq_ok {method : Method} (hReads : method ≠ .deleteAll) {items : List Json}
    {operation : Operation} :
    ofOptions method (.list items) = .ok operation ↔
      items.length ≤ method.optionNames.length ∧
        ofOptions method (method.listed items) = .ok operation := by
  -- The names of each shape are the options of its method.
  have hRead {δ α : Type} (shape : (m : Type → Type) → [Source m] → RecordShape m δ α)
      (make : α → Operation) (hListable : (shape FromValue).Listable)
      (hNames : (shape FromValue).names = method.optionNames) :
      make <$> decode shape (.list items) = .ok operation ↔
        items.length ≤ method.optionNames.length ∧
          make <$> decode shape (method.listed items) = .ok operation := by
    rw [map_eq_ok, map_eq_ok, Method.listed, ← hNames]
    simp only [decode_list_eq_ok hListable, and_assoc, exists_and_left]
  cases method with
  | findFirst => exact hRead findShape .findFirst listable_find rfl
  | findMany => exact hRead findShape .findMany listable_find rfl
  | create => exact hRead createShape .create listable_create rfl
  | update => exact hRead updateShape .update listable_update rfl
  | updateMany => exact hRead updateManyShape .updateMany listable_updateMany rfl
  | updateAll => exact hRead updateAllShape .updateAll listable_updateAll rfl
  | upsert => exact hRead upsertShape .upsert listable_upsert rfl
  | delete => exact hRead deleteShape .delete listable_delete rfl
  | deleteMany => exact hRead filterShape .deleteMany listable_filter rfl
  | deleteAll => exact absurd rfl hReads
  | count => exact hRead filterShape .count listable_filter rfl

/-- A text, a number or a truth value is not read as options. -/
theorem ofOptions_of_scalar {method : Method} (hReads : method ≠ .deleteAll) {options : Json}
    (hNull : options.isNull = false) (hScalar : options.isCompound = false) :
    ∃ failure, ofOptions method options = .error failure := by
  cases method with
  | deleteAll => exact absurd rfl hReads
  | _ =>
      cases options with
      | null => cases hNull
      | list items => cases hScalar
      | object fields => cases hScalar
      | _ => exact ⟨_, rfl⟩

end Operation

/-! ## Calls whose options are no object -/

namespace Session

variable {ι : Type} (schema : Schema ι) (world : World) (session : Session) (key : ι)

/-- **Options that are no object**: they are not read unless they are a list that the method takes
as its options, or the method is the removal of every row, which reads none.  A call with options
that are not read is refused before anything is done.  A list is taken for the object of its items,
and the removal of every row is sent whatever stands in place of its options. -/
theorem unnamed_options (method : Method) {args : Json}
    (hNull : (firstArgument args).isNull = false)
    (hObject : ∀ fields, firstArgument args ≠ .object fields) :
    ((∃ failure, Operation.ofJson method args = .error failure) ↔
        method ≠ .deleteAll ∧ ∀ items, firstArgument args = .list items → ¬method.Takes items) ∧
      (∀ failure, Operation.ofJson method args = .error failure →
        session.dispatch schema world key method args =
          (.error (.invalidArguments failure), session)) ∧
      (∀ items, firstArgument args = .list items → method ≠ .deleteAll → method.Takes items →
        session.dispatch schema world key method args =
          session.dispatch schema world key method (method.listed items)) ∧
      (method = .deleteAll →
        session.dispatch schema world key method args =
            session.dispatch schema world key method .null ∧
          session.sentSince (session.dispatch schema world key method args).2 =
            [.delete (schema.table key).name [] none]) := by
  have hList : ∀ items, firstArgument args = .list items → method ≠ .deleteAll →
      ∀ operation, Operation.ofJson method args = .ok operation ↔
        items.length ≤ method.optionNames.length ∧
          Operation.ofOptions method (method.listed items) = .ok operation := by
    intro items hItems hReads operation
    rw [Operation.ofJson, hItems]
    exact Operation.ofOptions_list_eq_ok hReads
  refine ⟨⟨?_, ?_⟩, ?_, ?_, ?_⟩
  · rintro ⟨failure, hRefused⟩
    have hReads : method ≠ .deleteAll := by
      rintro rfl
      cases hRefused
    refine ⟨hReads, fun items hItems hTakes => ?_⟩
    obtain ⟨hShort, operation, hOperation⟩ := hTakes
    have hRead := (hList items hItems hReads operation).mpr ⟨hShort, hOperation⟩
    rw [hRefused] at hRead
    cases hRead
  · rintro ⟨hReads, hNotTaken⟩
    cases hOperation : Operation.ofJson method args with
    | error failure => exact ⟨failure, rfl⟩
    | ok operation =>
        exfalso
        by_cases hScalar : (firstArgument args).isCompound = false
        · obtain ⟨failure, hRefused⟩ := Operation.ofOptions_of_scalar hReads hNull hScalar
          rw [Operation.ofJson, hRefused] at hOperation
          cases hOperation
        · cases hOptions : firstArgument args with
          | list items =>
              obtain ⟨hShort, hRead⟩ := (hList items hOptions hReads operation).mp hOperation
              exact hNotTaken items hOptions ⟨hShort, operation, hRead⟩
          | object fields => exact hObject fields hOptions
          | _ => exact hScalar (by rw [hOptions]; rfl)
  · intro failure hRefused
    rw [dispatch, hRefused]
  · intro items hItems hReads hTakes
    obtain ⟨hShort, operation, hOperation⟩ := hTakes
    have hArgs : Operation.ofJson method args = .ok operation :=
      (hList items hItems hReads operation).mpr ⟨hShort, hOperation⟩
    have hListed : Operation.ofJson method (method.listed items) = .ok operation := hOperation
    rw [dispatch_of_ofJson world session hArgs, dispatch_of_ofJson world session hListed]
  · rintro rfl
    exact dispatch_deleteAll schema world session key args

/-- Handed an empty list, the removal of the rows under a condition does what it does with the empty
object, and where bulk mutations are not forbidden, no user is left.  A text in its place is
refused. -/
theorem unnamed_options_emptyList :
    Method.deleteMany.Takes [] ∧ deskSession.store.rowsOf "users" ≠ [] ∧
      ({ deskSession with policy := .warn }.dispatch builtIn deskWorld .users .deleteMany
        (.list [.list []])).2.store.rowsOf "users" = [] ∧
      ∃ failure, deskSession.dispatch builtIn deskWorld .users .deleteMany (.text "users") =
        (.error (.invalidArguments failure), deskSession) := by
  have hTakes : Method.deleteMany.Takes [] := ⟨by decide, _, rfl⟩
  have hList : (firstArgument (.list [.list []])).isNull = false := rfl
  have hText : (firstArgument (.text "users")).isNull = false := rfl
  obtain ⟨-, -, hListed, -⟩ := unnamed_options builtIn deskWorld
    { deskSession with policy := .warn } .users .deleteMany hList nofun
  obtain ⟨hRead, hDispatched, -⟩ := unnamed_options builtIn deskWorld deskSession .users
    .deleteMany hText nofun
  obtain ⟨failure, hRefused⟩ := hRead.mpr ⟨by decide, nofun⟩
  refine ⟨hTakes, by decide +kernel, ?_, failure, hDispatched failure hRefused⟩
  rw [hListed [] rfl (by decide) hTakes]
  decide +kernel

end Session

end ModelStore
