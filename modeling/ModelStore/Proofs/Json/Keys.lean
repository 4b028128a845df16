import ModelStore.Proofs.Store.Holding
import ModelStore.Json.Shape

/-!
# Keys of a JSON object

An object holds a value under each of its keys, and so it has no key twice.

## Main definitions

* `Json.KeysDistinct`: values in which no object has a key twice.

## Main results

* `Json.FromValue.exists_draft_of_record`: what each field keeps of a draft, a record keeps.
-/

namespace ModelStore

open Json (FieldShape FromValue RecordShape)

/-! ## Fields -/

/-- A value under a name that does not occur goes to the end. -/
theorem Fields.set_of_not_mem {α : Type} {fields : Fields α} {name : String} {value : α}
    (hNew : name ∉ fields.map Prod.fst) : fields.set name value = fields ++ [(name, value)] := by
  induction fields with
  | nil => rfl
  | cons entry fields ih =>
      obtain ⟨key, old⟩ := entry
      rw [List.map_cons, List.mem_cons, not_or] at hNew
      rw [Fields.set, if_neg fun hKey => hNew.1 hKey.symm, ih hNew.2, List.cons_append]

/-- Values under distinct names go to the end, in their order. -/
theorem Fields.setAll_of_nodup {α : Type} {entries : List (String × α)} :
    ∀ {fields : Fields α}, ((fields ++ entries).map Prod.fst).Nodup →
      fields.setAll entries = fields ++ entries := by
  induction entries with
  | nil => intro fields _; simp [Fields.setAll]
  | cons entry entries ih =>
      intro fields hNodup
      have hNew : entry.1 ∉ fields.map Prod.fst := by
        rw [List.map_append, List.map_cons] at hNodup
        exact fun hOld => List.disjoint_of_nodup_append hNodup hOld List.mem_cons_self
      have hRest : (fields.set entry.1 entry.2).setAll entries =
          fields.set entry.1 entry.2 ++ entries := by
        refine ih ?_
        rw [Fields.set_of_not_mem hNew]
        simpa using hNodup
      rw [Fields.setAll, List.foldl_cons, ← Fields.setAll, hRest, Fields.set_of_not_mem hNew,
        List.append_assoc, List.singleton_append]

/-- Writing a value leaves the names in place, a new one behind them. -/
theorem Fields.names_set {α : Type} (fields : Fields α) (name : String) (value : α) :
    (fields.set name value).map Prod.fst =
      if name ∈ fields.map Prod.fst then fields.map Prod.fst
      else fields.map Prod.fst ++ [name] := by
  induction fields with
  | nil => rfl
  | cons entry fields ih =>
      obtain ⟨key, old⟩ := entry
      rw [Fields.set]
      by_cases hKey : key = name
      · subst hKey
        simp
      · have hOther : ¬name = key := fun hName => hKey hName.symm
        rw [if_neg hKey, List.map_cons, ih]
        split <;> simp_all

/-- A name that is written does not occur again. -/
theorem Fields.nodup_set {α : Type} {fields : Fields α} {name : String} {value : α}
    (hNodup : (fields.map Prod.fst).Nodup) : ((fields.set name value).map Prod.fst).Nodup := by
  rw [Fields.names_set]
  split
  · exact hNodup
  · rename_i hNew
    rw [List.nodup_append_comm, List.singleton_append, List.nodup_cons]
    exact ⟨hNew, hNodup⟩

/-- What a value is written over is left out. -/
theorem Fields.mem_of_mem_set {α : Type} {fields : Fields α} {name : String} {value : α}
    {entry : String × α} (hMem : entry ∈ fields.set name value) :
    entry ∈ fields ∨ entry.2 = value := by
  induction fields with
  | nil => exact .inr (List.mem_singleton.mp hMem ▸ rfl)
  | cons first fields ih =>
      obtain ⟨key, old⟩ := first
      rw [Fields.set] at hMem
      split at hMem
      · rcases List.mem_cons.mp hMem with rfl | hRest
        · exact .inr rfl
        · exact .inl (List.mem_cons_of_mem _ hRest)
      · rcases List.mem_cons.mp hMem with rfl | hRest
        · exact .inl List.mem_cons_self
        · exact (ih hRest).imp (List.mem_cons_of_mem _) id

/-- Values may be changed before they are written or after. -/
theorem Fields.map_setAll {α β : Type} (change : α → β) (entries : List (String × α)) :
    ∀ fields : Fields α, (Fields.setAll fields entries).map (Prod.map id change) =
      Fields.setAll (fields.map (Prod.map id change)) (entries.map (Prod.map id change)) := by
  have hSet : ∀ (fields : Fields α) (name : String) (value : α),
      (fields.set name value).map (Prod.map id change) =
        Fields.set (fields.map (Prod.map id change)) name (change value) := by
    intro fields name value
    induction fields with
    | nil => rfl
    | cons entry fields ih =>
        obtain ⟨key, old⟩ := entry
        rw [Fields.set, List.map_cons, Prod.map_apply, id, Fields.set]
        split
        · rfl
        · rw [List.map_cons, ih]
          rfl
  induction entries with
  | nil => intro fields; rfl
  | cons entry entries ih =>
      intro fields
      have hRest := ih (fields.set entry.1 entry.2)
      rw [hSet] at hRest
      exact hRest

/-! ## Values -/

mutual

/-- Values in which no object has a key twice, at any level.  Every value that is read from text is
one. -/
def Json.KeysDistinct : Json → Prop
  | .list items => Json.AllKeysDistinct items
  | .object fields => (fields.map (·.1)).Nodup ∧ Json.FieldsKeysDistinct fields
  | _ => True

/-- Items in which no object has a key twice. -/
def Json.AllKeysDistinct : List Json → Prop
  | [] => True
  | item :: items => item.KeysDistinct ∧ Json.AllKeysDistinct items

/-- Fields in whose values no object has a key twice. -/
def Json.FieldsKeysDistinct : List (String × Json) → Prop
  | [] => True
  | (_, value) :: fields => value.KeysDistinct ∧ Json.FieldsKeysDistinct fields

end

namespace Json

theorem allKeysDistinct_iff {items : List Json} :
    AllKeysDistinct items ↔ ∀ item ∈ items, item.KeysDistinct := by
  induction items with
  | nil => simp [AllKeysDistinct]
  | cons item items ih => rw [AllKeysDistinct, ih, List.forall_mem_cons]

theorem fieldsKeysDistinct_iff {fields : Fields Json} :
    FieldsKeysDistinct fields ↔ ∀ field ∈ fields, field.2.KeysDistinct := by
  induction fields with
  | nil => simp [FieldsKeysDistinct]
  | cons field fields ih => rw [FieldsKeysDistinct, ih, List.forall_mem_cons]

theorem keysDistinct_object {fields : Fields Json} :
    (object fields).KeysDistinct ↔
      (fields.map (·.1)).Nodup ∧ ∀ field ∈ fields, field.2.KeysDistinct := by
  rw [KeysDistinct, fieldsKeysDistinct_iff]

theorem keysDistinct_of_scalar {value : Json} (hScalar : value.isCompound = false) :
    value.KeysDistinct := by
  cases value with
  | list items => cases hScalar
  | object fields => cases hScalar
  | _ => trivial

/-- Writing a value into an object leaves each key once. -/
theorem keysDistinct_set {fields : Fields Json} {name : String} {value : Json}
    (hFields : (object fields).KeysDistinct) (hValue : value.KeysDistinct) :
    (object (fields.set name value)).KeysDistinct := by
  obtain ⟨hNodup, hEach⟩ := keysDistinct_object.mp hFields
  refine keysDistinct_object.mpr ⟨Fields.nodup_set hNodup, fun field hField => ?_⟩
  rcases Fields.mem_of_mem_set hField with hOld | hNew
  · exact hEach field hOld
  · exact hNew ▸ hValue

/-! ## Records -/

namespace FromValue

section Record

variable {δ α : Type} {shape : RecordShape FromValue δ α} {Given : Json → Prop} {Keeps : δ → Prop}
  (hFields : ∀ field ∈ shape.fields, ∀ value write draft,
    Given value → field.read value = .ok write → Keeps draft → Keeps (write draft))

include hFields

/-- What each field keeps of a draft, the fields of an object keep. -/
theorem keeps_of_fill {fields : Fields Json} :
    ∀ {draft result : δ}, (∀ field ∈ fields, Given field.2) → Keeps draft →
      fill shape fields draft = .ok result → Keeps result := by
  induction fields with
  | nil =>
      intro draft result _ hKeeps hFill
      cases hFill
      exact hKeeps
  | cons entry fields ih =>
      intro draft result hGiven hKeeps hFill
      obtain ⟨hValue, hRest⟩ := List.forall_mem_cons.mp hGiven
      obtain ⟨name, value⟩ := entry
      rw [fill] at hFill
      split at hFill
      · split at hFill
        · cases hFill
        · exact ih hRest hKeeps hFill
      · rename_i field hField
        split at hFill
        · cases hFill
        · obtain ⟨write, hRead, hFill⟩ := bind_eq_ok.mp hFill
          have hMem : field ∈ shape.fields := List.mem_of_find?_eq_some hField
          exact ih hRest (hFields field hMem value write draft hValue hRead hKeeps) hFill

/-- What each field keeps of a draft, the items of a list keep. -/
theorem keeps_of_fillItems {length : Nat} {fields : List (FieldShape FromValue δ)} :
    ∀ {items : List Json} {index : Nat} {draft result : δ}, fields ⊆ shape.fields →
      (∀ item ∈ items, Given item) → Keeps draft →
      fillItems shape length fields items index draft = .ok result → Keeps result := by
  induction fields with
  | nil =>
      intro items index draft result _ _ hKeeps hFill
      cases items with
      | nil =>
          cases hFill
          exact hKeeps
      | cons item items => cases hFill
  | cons field fields ih =>
      intro items index draft result hSub hGiven hKeeps hFill
      obtain ⟨hField, hSub⟩ := List.cons_subset.mp hSub
      cases items with
      | nil =>
          rw [fillItems] at hFill
          split at hFill
          · cases hFill
          · exact ih hSub hGiven hKeeps hFill
      | cons item items =>
          obtain ⟨hItem, hRest⟩ := List.forall_mem_cons.mp hGiven
          obtain ⟨write, hRead, hFill⟩ := bind_eq_ok.mp hFill
          exact ih hSub hRest (hFields field hField item write draft hItem hRead hKeeps) hFill

/-- **Records**: a record ends with a draft that keeps what each of its fields keeps. -/
theorem exists_draft_of_record {value : Json} {result : α} (hStart : Keeps shape.start)
    (hObject : ∀ fields, value = .object fields → ∀ field ∈ fields, Given field.2)
    (hList : ∀ items, value = .list items → ∀ item ∈ items, Given item)
    (hRead : record shape value = .ok result) :
    ∃ draft, Keeps draft ∧ shape.finish draft = .ok result := by
  cases value with
  | object fields =>
      obtain ⟨draft, hFill, hFinish⟩ := bind_eq_ok.mp hRead
      exact ⟨draft, keeps_of_fill hFields (hObject fields rfl) hStart hFill, hFinish⟩
  | list items =>
      obtain ⟨draft, hFill, hFinish⟩ := bind_eq_ok.mp hRead
      have hKeeps : Keeps draft :=
        keeps_of_fillItems hFields (List.Subset.refl _) (hList items rfl) hStart hFill
      exact ⟨draft, hKeeps, hFinish⟩
  | null => cases hRead
  | bool b => cases hRead
  | int i => cases hRead
  | real x => cases hRead
  | text s => cases hRead

end Record

end FromValue

end Json

end ModelStore
