import ModelStore.Proofs.Json.Keys
import ModelStore.Proofs.Query.Reference
import ModelStore.Query.Decode

/-!
# Searches that name no relation twice

The relations that a search asks for are the keys of an object, and an object has no key twice.  So
a search that is read from JSON asks for no relation twice, at any level.  A search that is put
together in another way may do so.

## Main definitions

* `FindOptions.NamesOnce`: searches that name no relation twice.

## Main results

* `namesOnce_of_decode`: a search that is read from JSON names no relation twice.
* `FindOptions.NamesOnce.asksOnce`: such a search asks for no relation twice, whatever the tables.
-/

namespace ModelStore

open Json (FromValue)

/-! ## Searches -/

mutual

/-- Requests for a relation that name no relation twice, at any level. -/
def Include.NamesOnce : Include → Prop
  | .flag _ => True
  | .nested _ none => True
  | .nested _ (some includes) => (includes.map (·.1)).Nodup ∧ Include.AllNameOnce includes

/-- Requests all of which name no relation twice. -/
def Include.AllNameOnce : List (String × Include) → Prop
  | [] => True
  | (_, ask) :: rest => ask.NamesOnce ∧ Include.AllNameOnce rest

end

/-- Relations asked for of which no two have the same name, at any level. -/
def Includes.NamesOnce (includes : Includes) : Prop :=
  (includes.map (·.1)).Nodup ∧ Include.AllNameOnce includes

/-- Searches that name no relation twice, at any level. -/
def FindOptions.NamesOnce (options : FindOptions) : Prop :=
  ∀ includes ∈ options.includes, Includes.NamesOnce includes

theorem Include.namesOnce_nested {own : SearchOptions} {includes : Option Includes} :
    (Include.nested own includes).NamesOnce ↔
      ∀ asked ∈ includes, Includes.NamesOnce asked := by
  cases includes with
  | none => simp [Include.NamesOnce]
  | some asked => simp [Include.NamesOnce, Includes.NamesOnce]

/-! ## Reading -/

/-- What holds of every item and its result holds of a list and its results, one by one. -/
theorem forall₂_of_mapM {ε α β : Type} {f : α → Except ε β} {R : α → β → Prop} {items : List α} :
    ∀ {results : List β}, (∀ item ∈ items, ∀ result, f item = .ok result → R item result) →
      items.mapM f = .ok results → List.Forall₂ R items results := by
  induction items with
  | nil =>
      intro results _ hResults
      rw [List.mapM_nil] at hResults
      cases hResults
      exact .nil
  | cons item items ih =>
      intro results hEach hResults
      obtain ⟨hItem, hItems⟩ := List.forall_mem_cons.mp hEach
      rw [List.mapM_cons] at hResults
      obtain ⟨first, hFirst, hRest⟩ := bind_eq_ok.mp hResults
      obtain ⟨others, hOthers, hPure⟩ := bind_eq_ok.mp hRest
      cases hPure
      exact .cons (hItem first hFirst) (ih hItems hOthers)

/-- Requests under the keys of an object name no relation twice if none of them does. -/
theorem namesOnce_of_forall₂ {fields : Fields Json} {includes : Includes}
    (hEach : List.Forall₂ (fun field entry => entry.1 = field.1 ∧ entry.2.NamesOnce)
      fields includes)
    (hNodup : (fields.map (·.1)).Nodup) : Includes.NamesOnce includes := by
  have hNames : includes.map (·.1) = fields.map (·.1) := by
    clear hNodup
    induction hEach with
    | nil => rfl
    | cons hEntry _ ih => rw [List.map_cons, List.map_cons, hEntry.1, ih]
  have hAsks : Include.AllNameOnce includes := by
    clear hNodup hNames
    induction hEach with
    | nil => trivial
    | cons hEntry _ ih => exact ⟨hEntry.2, ih⟩
  exact ⟨hNames ▸ hNodup, hAsks⟩

/-- A result is there whatever would be said of a failure. -/
theorem ok_of_mapError {ε ε' α : Type} {result : Except ε α} {reason : ε → ε'} {a : α}
    (hOk : result.mapError reason = .ok a) : result = .ok a := by
  cases result with
  | ok b => exact congrArg _ (Except.ok.inj hOk)
  | error e => cases hOk

/-- What is read from a field that may be left out is converted from an object, if it is there. -/
theorem exists_object_of_optional {α : Type} {convert : Fields Json → Except String α}
    {value : Json} {result : α}
    (hRead : FromValue.optional (FromValue.refine FromValue.object convert) value =
      .ok (some result)) :
    ∃ fields, value = .object fields ∧ convert fields = .ok result := by
  cases value with
  | object fields =>
      obtain ⟨_, hResult, hSome⟩ := map_eq_ok.mp hRead
      cases hSome
      obtain ⟨_, hObject, hConverted⟩ := bind_eq_ok.mp hResult
      cases hObject
      split at hConverted
      · rename_i hOk
        cases hConverted
        exact ⟨fields, rfl, hOk⟩
      · cases hConverted
  | null => cases hRead
  | list items => cases hRead
  | bool b => cases hRead
  | int i => cases hRead
  | real x => cases hRead
  | text s => cases hRead

/-- The includes of a search that was read are those that were converted. -/
theorem includes_of_findShapeWith {convert : Fields Json → Except String Includes}
    {Sound : Includes → Prop}
    (hConvert : ∀ fields includes, (Json.object fields).KeysDistinct →
      convert fields = .ok includes → Sound includes)
    {value : Json} {options : FindOptions} (hKeys : value.KeysDistinct)
    (hRead : FromValue.record (findShapeWith FromValue convert) value = .ok options) :
    ∀ includes ∈ options.includes, Sound includes := by
  have hFields : ∀ field ∈ (findShapeWith FromValue convert).fields, ∀ value write draft,
      value.KeysDistinct → field.read value = .ok write →
      (∀ includes ∈ draft.includes.join, Sound includes) →
      ∀ includes ∈ (write draft).includes.join, Sound includes := by
    intro field hField value write draft hKeys hRead hDraft
    simp only [findShapeWith, List.mem_cons, List.not_mem_nil, or_false] at hField
    rcases hField with rfl | rfl | rfl | rfl | rfl | rfl <;>
      obtain ⟨asked, hAsked, rfl⟩ := map_eq_ok.mp hRead
    -- Only the last field writes what is asked for.
    iterate 5 exact hDraft
    intro includes hIncludes
    cases hIncludes
    obtain ⟨fields, rfl, hConverted⟩ := exists_object_of_optional hAsked
    exact hConvert fields includes hKeys hConverted
  obtain ⟨draft, hDraft, hFinish⟩ := FromValue.exists_draft_of_record hFields
    (by intro includes hNone; cases hNone)
    (by rintro fields rfl; exact (Json.keysDistinct_object.mp hKeys).2)
    (by rintro items rfl; exact Json.allKeysDistinct_iff.mp hKeys) hRead
  cases hFinish
  exact hDraft

/-- A request that was read names no relation twice if the includes inside do not. -/
theorem namesOnce_of_includeOfJson {convert : Fields Json → Except String Includes}
    (hConvert : ∀ fields includes, (Json.object fields).KeysDistinct →
      convert fields = .ok includes → Includes.NamesOnce includes)
    {relation : String} {value : Json} {ask : Include} (hKeys : value.KeysDistinct)
    (hRead : includeOfJson convert relation value = .ok ask) : ask.NamesOnce := by
  cases value with
  | object fields =>
      rw [includeOfJson] at hRead
      split at hRead
      · rename_i options hOptions
        cases hRead
        rw [Include.namesOnce_nested]
        exact includes_of_findShapeWith hConvert hKeys hOptions
      · cases hRead
  | null => cases hRead; trivial
  | bool b => cases hRead; trivial
  | list items => cases hRead
  | int i => cases hRead
  | real x => cases hRead
  | text s => cases hRead

/-- The includes of an object name no relation twice. -/
theorem namesOnce_of_includesAt {levels : Nat} :
    ∀ (fields : Fields Json) (includes : Includes), (Json.object fields).KeysDistinct →
      includesAt levels fields = .ok includes → Includes.NamesOnce includes := by
  induction levels with
  | zero =>
      intro fields includes _ hRead
      cases fields with
      | nil =>
          cases hRead
          exact ⟨List.nodup_nil, trivial⟩
      | cons field fields => cases hRead
  | succ levels ih =>
      intro fields includes hKeys hRead
      obtain ⟨hNodup, hValues⟩ := Json.keysDistinct_object.mp hKeys
      cases fields with
      | nil =>
          cases hRead
          exact ⟨List.nodup_nil, trivial⟩
      | cons field fields =>
          refine namesOnce_of_forall₂
            (forall₂_of_mapM (fun entry hEntry result hResult => ?_) hRead) hNodup
          obtain ⟨ask, hAsk, hPure⟩ := bind_eq_ok.mp hResult
          cases hPure
          exact ⟨rfl, namesOnce_of_includeOfJson ih (hValues entry hEntry) hAsk⟩

/-- **Reading**: a search that is read from JSON names no relation twice. -/
theorem namesOnce_of_decode {value : Json} {options : FindOptions} (hKeys : value.KeysDistinct)
    (hRead : decode findShape value = .ok options) : options.NamesOnce := by
  exact includes_of_findShapeWith (fun fields includes => namesOnce_of_includesAt fields includes)
    hKeys (ok_of_mapError hRead)

/-! ## Resolving -/

variable {ι : Type} {schema : Schema ι}

theorem names_followRelation_sublist {key : ι} {name : String} {sub : ι → Query ι} :
    ((followRelation schema key name sub).map (·.1.name)).Sublist [name] := by
  rw [followRelation]
  split
  · exact List.nil_sublist _
  · rename_i relation hRelation
    have hName : relation.name = name := by simpa using List.find?_some hRelation
    rw [List.map_singleton, hName]

theorem names_resolveOne_sublist {key : ι} {name : String} (ask : Include) :
    ((resolveOne schema key name ask).map (·.1.name)).Sublist [name] := by
  match ask with
  | .flag false => exact List.nil_sublist _
  | .flag true =>
      rw [resolveOne]
      exact names_followRelation_sublist
  | .nested own includes =>
      rw [resolveOne]
      exact names_followRelation_sublist

/-- The relations that are searched are among those that are asked for, in the same order. -/
theorem names_resolveAll_sublist {key : ι} (includes : Includes) :
    ((resolveAll schema key includes).map (·.1.name)).Sublist (includes.map (·.1)) := by
  induction includes with
  | nil => exact List.nil_sublist _
  | cons entry includes ih =>
      rw [resolveAll, List.map_append, List.map_cons]
      exact (names_resolveOne_sublist entry.2).append ih

theorem forall_mem_followRelation {key : ι} {name : String} {sub : ι → Query ι}
    (hSub : ∀ target, (sub target).AsksOnce) :
    ∀ entry ∈ followRelation schema key name sub, entry.2.AsksOnce := by
  intro entry hEntry
  rw [followRelation] at hEntry
  split at hEntry
  · cases hEntry
  · rw [List.mem_singleton.mp hEntry]
    exact hSub _

mutual

/-- A search that names no relation twice asks for none twice. -/
theorem asksOnce_resolve {own : SearchOptions} :
    ∀ (includes : Option Includes) (key : ι), (∀ asked ∈ includes, Includes.NamesOnce asked) →
      (Query.resolve schema key own includes).AsksOnce
  | none, key, _ => by
      rw [Query.resolve]
      exact ⟨List.nodup_nil, trivial⟩
  | some includes, key, hOnce => by
      obtain ⟨hNodup, hEach⟩ := hOnce includes rfl
      rw [Query.resolve, Query.AsksOnce, Query.allAskOnce_iff]
      exact ⟨hNodup.sublist (names_resolveAll_sublist includes),
        asksOnce_resolveAll includes key hEach⟩

theorem asksOnce_resolveAll :
    ∀ (includes : Includes) (key : ι), Include.AllNameOnce includes →
      ∀ entry ∈ resolveAll schema key includes, entry.2.AsksOnce
  | [], key, _ => by simp [resolveAll]
  | (name, ask) :: includes, key, hEach => by
      rw [resolveAll, List.forall_mem_append]
      exact ⟨asksOnce_resolveOne ask key hEach.1, asksOnce_resolveAll includes key hEach.2⟩

theorem asksOnce_resolveOne {name : String} :
    ∀ (ask : Include) (key : ι), ask.NamesOnce →
      ∀ entry ∈ resolveOne schema key name ask, entry.2.AsksOnce
  | .flag false, key, _ => by simp [resolveOne]
  | .flag true, key, _ => by
      rw [resolveOne]
      exact forall_mem_followRelation fun _ => ⟨List.nodup_nil, trivial⟩
  | .nested own includes, key, hOnce => by
      rw [resolveOne]
      exact forall_mem_followRelation fun target =>
        asksOnce_resolve includes target (Include.namesOnce_nested.mp hOnce)

end

/-- **Searches**: a search that names no relation twice asks for none twice, whatever the tables. -/
theorem FindOptions.NamesOnce.asksOnce {options : FindOptions} (hOnce : options.NamesOnce)
    (key : ι) : (Query.resolve schema key options.own options.includes).AsksOnce :=
  asksOnce_resolve options.includes key hOnce

end ModelStore
