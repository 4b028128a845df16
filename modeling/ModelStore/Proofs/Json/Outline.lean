import Mathlib
import ModelStore.Query.Decode

/-!
# Outlines of values

The outline of a value keeps the keys of its objects, their order, the lengths of its lists and
where its lists and objects stand.  Of its scalars it keeps those that it is told to keep; all
others become the same blank.  Inside of a list every scalar becomes blank.

A reader that looks at nothing else comes to a result on a value just if it does on the outline,
and the two results differ by no more than the blanks.  Records are read so if all of their fields
are.

## Main definitions

* `Json.outline`: the outline of a value.
* `Json.Commutes`: a reader that comes to the same on changed inputs, up to a change of its result.

## Main results

* `Json.depth_outline`: an outline is as deep as the value.
* `Json.Commutes.record`: a record is read from changed fields as it is from the fields.
-/

namespace ModelStore.Json

/-! ## Outlines -/

mutual

/-- The outline of a value, with the scalars that are to be kept. -/
def outline : (Json → Bool) → Json → Json
  | _, .list items => .list (outlineItems items)
  | keep, .object fields => .object (outlineFields keep fields)
  | keep, value => if keep value then value else .text ""

/-- The outlines of some items. -/
def outlineItems : List Json → List Json
  | [] => []
  | item :: items => outline (fun _ => false) item :: outlineItems items

/-- The outlines of some fields. -/
def outlineFields : (Json → Bool) → List (String × Json) → List (String × Json)
  | _, [] => []
  | keep, (name, value) :: rest => (name, outline keep value) :: outlineFields keep rest

end

theorem outlineItems_eq_map (items : List Json) :
    outlineItems items = items.map (outline fun _ => false) := by
  induction items with
  | nil => rw [outlineItems, List.map_nil]
  | cons item items ih => rw [outlineItems, ih, List.map_cons]

theorem outlineFields_eq_map (keep : Json → Bool) (fields : Fields Json) :
    outlineFields keep fields = fields.map fun entry => (entry.1, entry.2.outline keep) := by
  induction fields with
  | nil => rw [outlineFields, List.map_nil]
  | cons entry fields ih => rw [outlineFields, ih, List.map_cons]

/-- A value is a list, an object or a scalar. -/
@[elab_as_elim]
theorem casesScalar {motive : Json → Prop} (list : ∀ items, motive (.list items))
    (object : ∀ fields, motive (.object fields))
    (scalar : ∀ value : Json, value.isCompound = false → motive value) (value : Json) :
    motive value := by
  cases value with
  | list items => exact list items
  | object fields => exact object fields
  | _ => exact scalar _ rfl

theorem outline_list (keep : Json → Bool) (items : List Json) :
    (Json.list items).outline keep = .list (outlineItems items) := by
  rw [outline]

theorem outline_object (keep : Json → Bool) (fields : Fields Json) :
    (Json.object fields).outline keep = .object (outlineFields keep fields) := by
  rw [outline]

/-- The outline of a scalar is the scalar, or blank. -/
theorem outline_scalar {keep : Json → Bool} {value : Json} (hScalar : value.isCompound = false) :
    value.outline keep = if keep value then value else .text "" := by
  cases value with
  | list items => cases hScalar
  | object fields => cases hScalar
  | _ => rw [outline]; all_goals simp

/-- An outline is a list or an object where the value is one. -/
@[simp] theorem isCompound_outline (keep : Json → Bool) (value : Json) :
    (value.outline keep).isCompound = value.isCompound := by
  cases value using casesScalar with
  | list items => rw [outline_list]; rfl
  | object fields => rw [outline_object]; rfl
  | scalar value hScalar =>
      rw [outline_scalar hScalar]
      split
      · rfl
      · exact hScalar.symm

/-- Where nulls are kept, an outline is null just where the value is. -/
theorem isNull_outline {keep : Json → Bool} (hNull : keep .null = true) (value : Json) :
    (value.outline keep).isNull = value.isNull := by
  cases value using casesScalar with
  | list items => rw [outline_list]; rfl
  | object fields => rw [outline_object]; rfl
  | scalar value hScalar =>
      rw [outline_scalar hScalar]
      split
      · rfl
      · cases value <;> simp_all [isNull]

mutual

/-- An outline is as deep as the value. -/
theorem depth_outline : ∀ (keep : Json → Bool) (value : Json),
    (value.outline keep).depth = value.depth
  | _, .list items => by rw [outline, depth, depth, depthOfItems_outlineItems items]
  | keep, .object fields => by rw [outline, depth, depth, depthOfFields_outlineFields keep fields]
  | keep, .null => by rw [outline_scalar rfl]; split <;> rfl
  | keep, .bool _ => by rw [outline_scalar rfl]; split <;> rfl
  | keep, .int _ => by rw [outline_scalar rfl]; split <;> rfl
  | keep, .real _ => by rw [outline_scalar rfl]; split <;> rfl
  | keep, .text _ => by rw [outline_scalar rfl]; split <;> rfl

theorem depthOfItems_outlineItems : ∀ items : List Json,
    depthOfItems (outlineItems items) = depthOfItems items
  | [] => by rw [outlineItems]
  | item :: items => by
      rw [outlineItems, depthOfItems, depthOfItems, depth_outline _ item,
        depthOfItems_outlineItems items]

theorem depthOfFields_outlineFields : ∀ (keep : Json → Bool) (fields : List (String × Json)),
    depthOfFields (outlineFields keep fields) = depthOfFields fields
  | _, [] => by rw [outlineFields]
  | keep, (name, value) :: rest => by
      rw [outlineFields, depthOfFields, depthOfFields, depth_outline keep value,
        depthOfFields_outlineFields keep rest]

end

/-! ## Readers that commute with changes -/

/-- A reader comes to a result on a changed input just if it does on the input, and then to the
changed result.  Why it comes to none may differ. -/
def Commutes {κ ε α : Type} (read : κ → Except ε α) (change : κ → κ) (result : α → α) : Prop :=
  ∀ input, (read (change input)).toOption = (read input).toOption.map result

section Results

variable {ε ε' α β : Type}

/-- Both come to nothing, or both to results of which one is the other one changed. -/
theorem cases_of_toOption {x : Except ε α} {y : Except ε' β} {change : β → α}
    (hToOption : x.toOption = y.toOption.map change) :
    (∃ e e', x = .error e ∧ y = .error e') ∨ ∃ value, x = .ok (change value) ∧ y = .ok value := by
  cases x with
  | error e =>
      cases y with
      | error e' => exact .inl ⟨e, e', rfl, rfl⟩
      | ok value => cases hToOption
  | ok changed =>
      cases y with
      | error e' => cases hToOption
      | ok value => exact .inr ⟨value, congrArg Except.ok (Option.some.inj hToOption), rfl⟩

/-- Going on from both results to results of which again one is the other one changed. -/
theorem toOption_bind {x y : Except ε α} {middle : α → α} {result : β → β}
    {next' next : α → Except ε β} (hToOption : x.toOption = y.toOption.map middle)
    (hNext : ∀ value, (next' (middle value)).toOption = (next value).toOption.map result) :
    (x >>= next').toOption = (y >>= next).toOption.map result := by
  rcases cases_of_toOption hToOption with ⟨e, e', rfl, rfl⟩ | ⟨value, rfl, rfl⟩
  · rfl
  · exact hNext value

end Results

namespace Commutes

variable {κ ε α β : Type} {change : κ → κ} {read : κ → Except ε α} {result : α → α}
  (hRead : Commutes read change result)

include hRead

/-- A reader and then another one. -/
theorem bind {next : α → Except ε β} {result' : β → β} (hNext : Commutes next result result') :
    Commutes (fun input => read input >>= next) change result' :=
  fun input => toOption_bind (hRead input) hNext

/-- The wording of a refusal does not count. -/
theorem mapError {ε' : Type} (reason : ε → ε') :
    Commutes (fun input => (read input).mapError reason) change result := by
  intro input
  dsimp only
  rcases cases_of_toOption (hRead input) with ⟨e, e', hChanged, hInput⟩ | ⟨value, hChanged, hInput⟩
  · rw [hChanged, hInput]
    rfl
  · rw [hChanged, hInput]
    rfl

/-- What is read, under a constructor. -/
theorem map {make : α → β} {result' : β → β}
    (hMake : ∀ value, make (result value) = result' (make value)) :
    Commutes (fun input => make <$> read input) change result' := by
  intro input
  dsimp only
  rcases cases_of_toOption (hRead input) with ⟨e, e', hChanged, hInput⟩ | ⟨value, hChanged, hInput⟩
  · rw [hChanged, hInput]
    rfl
  · rw [hChanged, hInput]
    exact congrArg some (hMake value)

end Commutes

/-- A reader for each item of a list. -/
theorem Commutes.mapM {κ ε α : Type} {read : κ → Except ε α} {change : κ → κ} {result : α → α}
    (hRead : Commutes read change result) :
    Commutes (List.mapM read) (List.map change) (List.map result) := by
  intro items
  induction items with
  | nil => rfl
  | cons item items ih =>
      rw [List.map_cons, List.mapM_cons, List.mapM_cons]
      exact toOption_bind (hRead item) fun value => toOption_bind ih fun values => rfl

theorem isNull_iff {value : Json} : value.isNull = true ↔ value = .null := by
  cases value <;> simp [isNull]

theorem FromValue.optional_of_not_isNull {α : Type} (read : FromValue α) {value : Json}
    (hNull : value.isNull = false) : FromValue.optional read value = some <$> read value := by
  cases value with
  | null => cases hNull
  | _ => rfl

/-- A value that may be null, where the change keeps nulls apart. -/
theorem Commutes.optional {α : Type} {read : FromValue α} {change : Json → Json} {result : α → α}
    (hRead : Commutes read change result)
    (hNull : ∀ value : Json, (change value).isNull = value.isNull) :
    Commutes (FromValue.optional read) change (Option.map result) := by
  intro value
  cases hValue : value.isNull with
  | true =>
      have hChanged := hNull value
      rw [hValue, isNull_iff] at hChanged
      rw [hChanged, isNull_iff.mp hValue]
      rfl
  | false =>
      rw [FromValue.optional_of_not_isNull read (hNull value ▸ hValue),
        FromValue.optional_of_not_isNull read hValue]
      have hSome : Commutes (fun value => some <$> read value) change (Option.map result) :=
        hRead.map fun _ => rfl
      exact hSome value

/-- A value that a conversion accepts. -/
theorem Commutes.refine {α β : Type} {read : FromValue α} {accept : α → Except String β}
    {change : Json → Json} {middle : α → α} {result : β → β} (hRead : Commutes read change middle)
    (hAccept : Commutes accept middle result) :
    Commutes (FromValue.refine read accept) change result := by
  refine hRead.bind fun value => ?_
  rcases cases_of_toOption (hAccept value) with
    ⟨e, e', hChanged, hValue⟩ | ⟨accepted, hChanged, hValue⟩
  · rw [hChanged, hValue]
    rfl
  · rw [hChanged, hValue]
    rfl

/-! ## Records -/

/-- The fields of an object, each changed as its name says. -/
def changeFields (change : String → Json → Json) (fields : Fields Json) : Fields Json :=
  fields.map fun entry => (entry.1, change entry.1 entry.2)

/-- The items of a list that stands for a record, each changed as the name of its field says. -/
def changeItems (change : String → Json → Json) : List String → List Json → List Json
  | name :: names, item :: items => change name item :: changeItems change names items
  | _, items => items.map (outline fun _ => false)

theorem changeItems_nil (change : String → Json → Json) (names : List String) :
    changeItems change names [] = [] := by
  cases names <;> rfl

/-- A record whose fields are changed; of what is no record nulls are kept. -/
def changeRecord (change : String → Json → Json) (names : List String) : Json → Json
  | .object fields => .object (changeFields change fields)
  | .list items => .list (changeItems change names items)
  | value => value.outline isNull

/-- A field is read into changed drafts from changed values as it is into drafts from values. -/
structure FieldCommutes {δ : Type} (change : String → Json → Json) (draft : δ → δ)
    (field : FieldShape FromValue δ) : Prop where
  filled : ∀ d, field.filled (draft d) = field.filled d
  read : ∀ value d,
    (field.read (change field.name value)).toOption.map (fun write => write (draft d)) =
      (field.read value).toOption.map fun write => draft (write d)

section Record

variable {δ α : Type} {shape : RecordShape FromValue δ α} {change : String → Json → Json}
  {draft : δ → δ}

/-- What is read of a field on either side. -/
theorem FieldCommutes.cases_on {field : FieldShape FromValue δ}
    (hField : FieldCommutes change draft field) (value : Json) (d : δ) :
    (∃ e e', field.read (change field.name value) = .error e ∧ field.read value = .error e') ∨
      ∃ write' write, field.read (change field.name value) = .ok write' ∧
        field.read value = .ok write ∧ write' (draft d) = draft (write d) := by
  have hRead := hField.read value d
  cases hChanged : field.read (change field.name value) with
  | error e =>
      cases hValue : field.read value with
      | error e' => exact .inl ⟨e, e', rfl, rfl⟩
      | ok write =>
          rw [hChanged, hValue] at hRead
          cases hRead
  | ok write' =>
      cases hValue : field.read value with
      | error e' =>
          rw [hChanged, hValue] at hRead
          cases hRead
      | ok write =>
          rw [hChanged, hValue] at hRead
          exact .inr ⟨write', write, rfl, rfl, Option.some.inj hRead⟩

/-- Drafts are filled from changed fields as they are from the fields. -/
theorem fill_changeFields (hFields : ∀ field ∈ shape.fields, FieldCommutes change draft field)
    (fields : Fields Json) (d : δ) :
    (FromValue.fill shape (changeFields change fields) (draft d)).toOption =
      (FromValue.fill shape fields d).toOption.map draft := by
  induction fields generalizing d with
  | nil => rfl
  | cons entry fields ih =>
      obtain ⟨name, value⟩ := entry
      rw [changeFields, List.map_cons, ← changeFields, FromValue.fill, FromValue.fill]
      cases hFind : shape.field? name with
      | none =>
          dsimp only
          split
          · rfl
          · exact ih d
      | some field =>
          obtain rfl : field.name = name := by
            simpa using List.find?_some hFind
          have hField := hFields field (List.mem_of_find?_eq_some hFind)
          dsimp only
          rw [hField.filled]
          split
          · rfl
          · rcases hField.cases_on value d with
              ⟨e, e', hChanged, hValue⟩ | ⟨write', write, hChanged, hValue, hWrite⟩
            · rw [hChanged, hValue]
              rfl
            · rw [hChanged, hValue]
              show (FromValue.fill shape _ (write' (draft d))).toOption = _
              rw [hWrite]
              exact ih (write d)

/-- Drafts are filled from changed items as they are from the items. -/
theorem fillItems_changeItems (shape : RecordShape FromValue δ α) (length length' : Nat)
    {fields : List (FieldShape FromValue δ)} (hFields : ∀ field ∈ fields, FieldCommutes change draft field)
    (items : List Json) (index : Nat) (d : δ) :
    (FromValue.fillItems shape length' fields (changeItems change (fields.map (·.name)) items)
        index (draft d)).toOption =
      (FromValue.fillItems shape length fields items index d).toOption.map draft := by
  induction fields generalizing items index d with
  | nil => cases items <;> rfl
  | cons field fields ih =>
      obtain ⟨hField, hRest⟩ := List.forall_mem_cons.mp hFields
      cases items with
      | nil =>
          have hNil := ih hRest [] (index + 1) d
          rw [changeItems_nil] at hNil ⊢
          rw [FromValue.fillItems, FromValue.fillItems]
          split
          · rfl
          · exact hNil
      | cons value items =>
          rw [List.map_cons, changeItems, FromValue.fillItems, FromValue.fillItems]
          rcases hField.cases_on value d with
            ⟨e, e', hChanged, hValue⟩ | ⟨write', write, hChanged, hValue, hWrite⟩
          · rw [hChanged, hValue]
            rfl
          · rw [hChanged, hValue]
            show (FromValue.fillItems shape length' fields _ _ (write' (draft d))).toOption = _
            rw [hWrite]
            exact ih hRest items (index + 1) (write d)

/-- **Reading a changed record**: it is read just if the record is, and as that with its drafts
changed. -/
theorem Commutes.record {result : α → α}
    (hFields : ∀ field ∈ shape.fields, FieldCommutes change draft field)
    (hStart : draft shape.start = shape.start) (hFinish : Commutes shape.finish draft result) :
    Commutes (FromValue.record shape) (changeRecord change shape.names) result := by
  intro value
  cases value with
  | object fields =>
      have hFill := fill_changeFields hFields fields shape.start
      rw [hStart] at hFill
      exact toOption_bind hFill hFinish
  | list items =>
      have hFill := fillItems_changeItems shape items.length
        (changeItems change shape.names items).length hFields items 0 shape.start
      rw [hStart] at hFill
      exact toOption_bind hFill hFinish
  | _ =>
      rw [changeRecord, outline_scalar rfl]
      · split <;> rfl
      all_goals simp

end Record

end ModelStore.Json
