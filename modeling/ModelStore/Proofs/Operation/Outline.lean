import ModelStore.Proofs.Operation.ForeignOptions
import ModelStore.Proofs.Query.Outline

/-!
# Outlines of operations

The outline of an operation is that of its options.  The arguments of a call are read from their
outline just if they are read at all, and as the outline of the operation: whether a call is
understood, and as which operation, does not depend on its values.

## Main definitions

* `Operation.outline`: the outline of an operation.
* `outlineArguments`: the outline of the arguments of a method.

## Main results

* `commutes_ofOptions`: operations are read from the outline of their options.
-/

namespace ModelStore

open Json (FromValue Commutes RecordShape Source)

/-! ## Operations -/

namespace Operation

/-- The outline of an operation. -/
def outline : Operation → Operation
  | findFirst options => findFirst options.outline
  | findMany options => findMany options.outline
  | create options => create ⟨options.data.outline⟩
  | update options => update ⟨options.filter.outline, options.data.outline⟩
  | updateMany options =>
    updateMany ⟨options.filter.map Conditions.outline, options.data.outline⟩
  | updateAll options => updateAll ⟨options.data.outline⟩
  | upsert options =>
    upsert ⟨options.filter.map Conditions.outline, options.update.outline, options.create.outline⟩
  | delete options => delete ⟨options.filter.outline⟩
  | deleteMany options => deleteMany ⟨options.filter.map Conditions.outline⟩
  | deleteAll => deleteAll
  | count options => count ⟨options.filter.map Conditions.outline⟩

end Operation

/-- The outline of the arguments of a method. -/
def outlineArguments (method : Method) (args : Json) : Json :=
  Json.changeRecord outlineOption method.optionNames (firstArgument args)

/-! ## Options of mutations -/

/-- The outline of the options of a mutation, as far as they have been read. -/
def MutationDraft.outline (draft : MutationDraft) : MutationDraft :=
  { filter := draft.filter.map (Option.map Conditions.outline)
    data := draft.data.map Payload.outline
    update := draft.update.map Payload.outline
    create := draft.create.map Payload.outline }

/-- Of a payload nothing is kept. -/
theorem commutes_payload {name : String}
    (hName : name ∉ ["where", "select", "orderBy", "take", "skip", "include"]) :
    Commutes FromValue.object (outlineOption name) Payload.outline := by
  simp only [List.mem_cons, List.not_mem_nil, or_false, not_or] at hName
  obtain ⟨hWhere, hSelect, hOrder, hTake, hSkip, hInclude⟩ := hName
  have hKept : kept name = fun _ => false := by
    funext value
    cases value <;> simp [kept, hWhere, hSelect, hOrder, hTake, hSkip, hInclude]
  rw [outlineOption_eq hInclude, hKept]
  exact commutes_object _

theorem fieldCommutes_filter :
    Json.FieldCommutes outlineOption MutationDraft.outline (filterField FromValue) :=
  fieldCommutes commutes_filter (fun _ => Option.isSome_map) fun _ _ => rfl

theorem fieldCommutes_requiredFilter :
    Json.FieldCommutes outlineOption MutationDraft.outline (requiredFilterField FromValue) := by
  have hRead : Commutes (conditionsShape FromValue) (outlineOption "where") Conditions.outline := by
    rw [outlineOption_eq (by decide)]
    exact (commutes_object _).refine commutes_conditions
  exact fieldCommutes hRead (fun _ => Option.isSome_map) fun _ _ => rfl

theorem fieldCommutes_data :
    Json.FieldCommutes outlineOption MutationDraft.outline (dataField FromValue) :=
  fieldCommutes (commutes_payload (by decide)) (fun _ => Option.isSome_map) fun _ _ => rfl

/-- A part of a draft that has to be there. -/
theorem commutes_require {α : Type} (name : String) (result : α → α) :
    Commutes (Json.require name) (Option.map result) result := by
  intro part
  cases part <;> rfl

theorem commutes_create :
    Commutes (FromValue.record (createShape FromValue))
      (Json.changeRecord outlineOption Method.create.optionNames)
      fun options => ⟨Payload.outline options.data⟩ := by
  refine Commutes.record (List.forall_mem_singleton.mpr fieldCommutes_data) rfl fun draft => ?_
  exact Json.toOption_bind (commutes_require "data" _ draft.data) fun data => rfl

theorem commutes_updateAll :
    Commutes (FromValue.record (updateAllShape FromValue))
      (Json.changeRecord outlineOption Method.updateAll.optionNames)
      fun options => ⟨Payload.outline options.data⟩ := by
  refine Commutes.record (List.forall_mem_singleton.mpr fieldCommutes_data) rfl fun draft => ?_
  exact Json.toOption_bind (commutes_require "data" _ draft.data) fun data => rfl

theorem commutes_update :
    Commutes (FromValue.record (updateShape FromValue))
      (Json.changeRecord outlineOption Method.update.optionNames)
      fun options => ⟨Conditions.outline options.filter, Payload.outline options.data⟩ := by
  refine Commutes.record (List.forall_mem_cons.mpr ⟨fieldCommutes_requiredFilter,
    List.forall_mem_singleton.mpr fieldCommutes_data⟩) rfl fun draft => ?_
  have hFilter := commutes_require "where" Conditions.outline draft.filter.join
  rw [← Option.join_map_eq_map_join] at hFilter
  refine Json.toOption_bind hFilter fun filter => ?_
  exact Json.toOption_bind (commutes_require "data" _ draft.data) fun data => rfl

theorem commutes_updateMany :
    Commutes (FromValue.record (updateManyShape FromValue))
      (Json.changeRecord outlineOption Method.updateMany.optionNames)
      fun options => ⟨options.filter.map Conditions.outline, Payload.outline options.data⟩ := by
  refine Commutes.record (List.forall_mem_cons.mpr ⟨fieldCommutes_filter,
    List.forall_mem_singleton.mpr fieldCommutes_data⟩) rfl fun draft => ?_
  refine Json.toOption_bind (commutes_require "data" _ draft.data) fun data => ?_
  have hFilter : draft.outline.filter.join = draft.filter.join.map Conditions.outline :=
    Option.join_map_eq_map_join
  rw [hFilter]
  rfl

theorem commutes_upsert :
    Commutes (FromValue.record (upsertShape FromValue))
      (Json.changeRecord outlineOption Method.upsert.optionNames)
      fun options => ⟨options.filter.map Conditions.outline, Payload.outline options.update,
        Payload.outline options.create⟩ := by
  have hFields : ∀ field ∈ (upsertShape FromValue).fields,
      Json.FieldCommutes outlineOption MutationDraft.outline field := by
    simp only [upsertShape, List.forall_mem_cons]
    exact
      ⟨fieldCommutes_filter,
        fieldCommutes (commutes_payload (by decide)) (fun _ => Option.isSome_map) fun _ _ => rfl,
        fieldCommutes (commutes_payload (by decide)) (fun _ => Option.isSome_map) fun _ _ => rfl,
        by simp⟩
  refine Commutes.record hFields rfl fun draft => ?_
  refine Json.toOption_bind (commutes_require "create" _ draft.create) fun create => ?_
  have hFilter : draft.outline.filter.join = draft.filter.join.map Conditions.outline :=
    Option.join_map_eq_map_join
  have hUpdate : draft.outline.update.getD [] = Payload.outline (draft.update.getD []) := by
    cases hDraft : draft.update with
    | none => simp [MutationDraft.outline, hDraft, Payload.outline, Json.outlineFields]
    | some update => simp [MutationDraft.outline, hDraft]
  rw [hFilter, hUpdate]
  rfl

theorem commutes_delete :
    Commutes (FromValue.record (deleteShape FromValue))
      (Json.changeRecord outlineOption Method.delete.optionNames)
      fun options => ⟨Conditions.outline options.filter⟩ := by
  refine Commutes.record (List.forall_mem_singleton.mpr fieldCommutes_requiredFilter) rfl
    fun draft => ?_
  have hFilter := commutes_require "where" Conditions.outline draft.filter.join
  rw [← Option.join_map_eq_map_join] at hFilter
  exact Json.toOption_bind hFilter fun filter => rfl

theorem commutes_filterOptions :
    Commutes (FromValue.record (filterShape FromValue))
      (Json.changeRecord outlineOption ["where"])
      fun options => ⟨options.filter.map Conditions.outline⟩ := by
  refine Commutes.record (List.forall_mem_singleton.mpr fieldCommutes_filter) rfl fun draft => ?_
  have hFilter : draft.outline.filter.join = draft.filter.join.map Conditions.outline :=
    Option.join_map_eq_map_join
  show some (⟨draft.outline.filter.join⟩ : FilterOptions) = _
  rw [hFilter]
  rfl

/-! ## Arguments -/

/-- A null stays a null, and nothing else becomes one. -/
theorem isNull_changeRecord (names : List String) (value : Json) :
    (Json.changeRecord outlineOption names value).isNull = value.isNull := by
  cases value with
  | object fields => rfl
  | list items => rfl
  | _ => exact Json.isNull_outline rfl _

/-- Options that may be left out altogether. -/
theorem commutes_orElse {α : Type} {initial : α} {read : Json → Except Json.Failure α}
    {change : Json → Json} {result : α → α} (hRead : Commutes read change result)
    (hInitial : result initial = initial)
    (hNull : ∀ value : Json, (change value).isNull = value.isNull) :
    Commutes (Operation.orElse initial read) change result := by
  intro value
  have hOther : ∀ {input : Json}, input.isNull = false →
      Operation.orElse initial read input = read input := by
    intro input hInput
    cases input with
    | null => cases hInput
    | _ => rfl
  cases hValue : value.isNull with
  | true =>
      have hChanged := (hNull value).trans hValue
      rw [Json.isNull_iff.mp hChanged, Json.isNull_iff.mp hValue]
      exact congrArg some hInitial.symm
  | false =>
      rw [hOther hValue, hOther ((hNull value).trans hValue)]
      exact hRead value

/-- **Operations** are read from the outline of their options. -/
theorem commutes_ofOptions (method : Method) :
    Commutes (Operation.ofOptions method)
      (Json.changeRecord outlineOption method.optionNames) Operation.outline := by
  -- What is said of a record holds of the options that are decoded as one.
  have hDecode {δ α : Type} {shape : (m : Type → Type) → [Source m] → RecordShape m δ α}
      {names : List String} {result : α → α}
      (hRecord : Commutes (FromValue.record (shape FromValue))
        (Json.changeRecord outlineOption names) result) :
      Commutes (decode shape) (Json.changeRecord outlineOption names) result :=
    hRecord.mapError _
  cases method with
  | findFirst =>
      exact (commutes_orElse (hDecode commutes_find) rfl (isNull_changeRecord _)).map fun _ => rfl
  | findMany =>
      exact (commutes_orElse (hDecode commutes_find) rfl (isNull_changeRecord _)).map fun _ => rfl
  | create => exact (hDecode commutes_create).map fun _ => rfl
  | update => exact (hDecode commutes_update).map fun _ => rfl
  | updateMany => exact (hDecode commutes_updateMany).map fun _ => rfl
  | updateAll => exact (hDecode commutes_updateAll).map fun _ => rfl
  | upsert => exact (hDecode commutes_upsert).map fun _ => rfl
  | delete => exact (hDecode commutes_delete).map fun _ => rfl
  | deleteMany =>
      exact (commutes_orElse (hDecode commutes_filterOptions) rfl
        (isNull_changeRecord _)).map fun _ => rfl
  | deleteAll => exact fun _ => rfl
  | count =>
      exact (commutes_orElse (hDecode commutes_filterOptions) rfl
        (isNull_changeRecord _)).map fun _ => rfl

end ModelStore
