import ModelStore.Proofs.Json.Keys

/-!
# Lists that stand for records

A record may be read from a list: the items are then the fields, in the order of the shape.  Reading
the items comes to what reading the object comes to in which they stand under the names of the
fields.  A list may leave out fields at its end as an object may, and it may not have more items than
there are fields.

## Main definitions

* `Json.RecordShape.Listable`: records of which lists and objects are read alike.

## Main results

* `Json.FromValue.record_list_eq_ok`: a record is read from a list just if it is read from the
  object of its items.
-/

namespace ModelStore.Json

variable {δ α : Type} {shape : RecordShape FromValue δ α}

/-! ## Shapes -/

/-- Whether reading a field leaves it open if another one has been filled. -/
def FieldShape.Spares (field other : FieldShape FromValue δ) : Prop :=
  ∀ value write draft, field.read value = .ok write →
    other.filled (write draft) = other.filled draft

/-- A record whose fields are told apart by their names and filled one by one, and that is no record
without what is required. -/
structure RecordShape.Listable (shape : RecordShape FromValue δ α) : Prop where
  names : shape.names.Nodup
  start : ∀ field ∈ shape.fields, field.filled shape.start = false
  spares : shape.fields.Pairwise FieldShape.Spares
  required : ∀ field ∈ shape.fields, field.required = true →
    ∀ draft result, shape.finish draft = .ok result → field.filled draft = true

/-- A field is found under its name. -/
theorem RecordShape.field?_name (hNames : shape.names.Nodup) {field : FieldShape FromValue δ}
    (hField : field ∈ shape.fields) : shape.field? field.name = some field := by
  refine find?_eq_some_of_unique hField (beq_self_eq_true _) fun other hOther hName => ?_
  exact List.inj_on_of_nodup_map hNames hOther hField (eq_of_beq hName)

namespace FromValue

/-! ## Items -/

/-- More items than fields are refused. -/
theorem fillItems_of_length_lt {length : Nat} {fields : List (FieldShape FromValue δ)} :
    ∀ {items : List Json} {index : Nat} {draft : δ}, fields.length < items.length →
      ∃ cause, fillItems shape length fields items index draft = .error cause := by
  induction fields with
  | nil =>
      intro items index draft hLong
      cases items with
      | nil => simp at hLong
      | cons item items => exact ⟨_, rfl⟩
  | cons field fields ih =>
      intro items index draft hLong
      cases items with
      | nil => simp at hLong
      | cons item items =>
          rw [fillItems]
          cases field.read item with
          | error cause => exact ⟨cause, rfl⟩
          | ok write =>
              simp only [List.length_cons] at hLong
              exact ih (by omega)

/-- Items are read as the fields under whose names they stand. -/
theorem fillItems_eq_ok_iff {length : Nat} {result : α} {fields : List (FieldShape FromValue δ)}
    (hFound : ∀ field ∈ fields, shape.field? field.name = some field)
    (hSpares : fields.Pairwise FieldShape.Spares)
    (hRequired : ∀ field ∈ fields, field.required = true →
      ∀ draft result, shape.finish draft = .ok result → field.filled draft = true) :
    ∀ {items : List Json} {index : Nat} {draft : δ}, items.length ≤ fields.length →
      (∀ field ∈ fields, field.filled draft = false) →
      ((fillItems shape length fields items index draft >>= shape.finish) = .ok result ↔
        (fill shape ((fields.map (·.name)).zip items) draft >>= shape.finish) = .ok result) := by
  induction fields with
  | nil =>
      intro items index draft hShort _
      have hNone : items = [] := List.length_eq_zero_iff.mp (by simpa using hShort)
      subst hNone
      rfl
  | cons field fields ih =>
      intro items index draft hShort hOpen
      obtain ⟨hField, hFound⟩ := List.forall_mem_cons.mp hFound
      obtain ⟨hSpare, hSpares⟩ := List.pairwise_cons.mp hSpares
      obtain ⟨hNeeded, hRequired⟩ := List.forall_mem_cons.mp hRequired
      obtain ⟨hHere, hOpen⟩ := List.forall_mem_cons.mp hOpen
      cases items with
      | nil =>
          rw [fillItems]
          by_cases hMust : field.required = true
          · -- The list has no item for the field, and the object has no value for it.
            rw [if_pos hMust, List.zip_nil_right, fill, ok_bind]
            constructor
            · intro hOk
              cases hOk
            · intro hFinish
              have hFilled := hNeeded hMust draft result hFinish
              rw [hHere] at hFilled
              cases hFilled
          · rw [if_neg hMust, ih hFound hSpares hRequired (Nat.zero_le _) hOpen,
              List.zip_nil_right, List.zip_nil_right]
      | cons item items =>
          have hKept : ∀ write, field.read item = .ok write →
              ∀ other ∈ fields, other.filled (write draft) = false := by
            intro write hRead other hOther
            rw [hSpare other hOther item write draft hRead, hOpen other hOther]
          rw [fillItems, List.map_cons, List.zip_cons_cons, fill, hField]
          simp only [hHere, Bool.false_eq_true, if_false]
          cases hRead : field.read item with
          | error cause => constructor <;> (intro hOk; cases hOk)
          | ok write =>
              simp only [List.length_cons] at hShort
              exact ih hFound hSpares hRequired (by omega) (hKept write hRead)

/-- **Lists**: a record is read from a list just if the list is not too long and the record is read
from the object in which the items stand under the names of the fields. -/
theorem record_list_eq_ok (hListable : shape.Listable) {items : List Json} {result : α} :
    record shape (.list items) = .ok result ↔
      items.length ≤ shape.names.length ∧
        record shape (.object (shape.names.zip items)) = .ok result := by
  have hLength : shape.names.length = shape.fields.length := List.length_map _
  by_cases hShort : items.length ≤ shape.fields.length
  · rw [and_iff_right (by rwa [hLength])]
    exact fillItems_eq_ok_iff (fun field hField => shape.field?_name hListable.names hField)
      hListable.spares hListable.required hShort hListable.start
  · obtain ⟨cause, hRefused⟩ : ∃ cause,
        fillItems shape items.length shape.fields items 0 shape.start = .error cause :=
      fillItems_of_length_lt (Nat.lt_of_not_le hShort)
    have hRecord : record shape (.list items) = .error cause := by
      show fillItems shape items.length shape.fields items 0 shape.start >>= shape.finish = _
      rw [hRefused]
      rfl
    rw [hRecord]
    constructor
    · intro hOk
      cases hOk
    · rintro ⟨hBound, -⟩
      exact absurd (hLength ▸ hBound) hShort

end FromValue

end ModelStore.Json
