import ModelStore.Query.Builder

/-!
# Searches built step by step

A search is built by steps in any order: filters, selections, sort keys, counts, and relations, each
of which may be searched by steps of its own.  What the steps come to is said part by part: each
part of the options depends on the steps that are about it, in their order, and on no others.

## Main definitions

* `SearchStep`, `SearchStep.search`: steps, and the search that they build.
* `SearchStep.levels`: the steps of a search and of the searches inside.

## Main results

* `SearchStep.induction`: what holds of steps whenever it holds of those inside holds of all steps.
* `SearchStep.toOptions_search`: the options that steps come to, part by part.
-/

namespace ModelStore

/-! ## Steps -/

/-- The tests of a filter, each with its column, in their order. -/
def Filter.tests : Filter → List (String × Test)
  | test column t => [(column, t)]
  | both left right => left.tests ++ right.tests

theorem Filter.conditions_eq_map (filter : Filter) :
    filter.conditions = filter.tests.map (Prod.map id Test.condition) := by
  induction filter with
  | test column t => rfl
  | both left right ihLeft ihRight => rw [conditions, tests, ihLeft, ihRight, List.map_append]

/-- A step of building a search. -/
inductive SearchStep where
  | filter (filter : Filter)
  | select (columns : List String)
  | orderBy (column : String) (direction : Direction)
  | take (limit : UInt32)
  | skip (offset : UInt32)
  /-- A relation, searched as further steps say. -/
  | join (relation : String) (steps : List SearchStep)
  /-- All of a relation. -/
  | joinAll (relation : String)

namespace SearchStep

/-- What holds of steps whenever it holds of the steps inside of each holds of all steps. -/
@[elab_as_elim]
theorem induction {motive : List SearchStep → Prop}
    (steps : ∀ steps, (∀ relation inner, join relation inner ∈ steps → motive inner) → motive steps)
    (all : List SearchStep) : motive all := by
  have hInner : ∀ relation inner, join relation inner ∈ all → motive inner :=
    @SearchStep.rec_1
      (fun step => ∀ relation inner, step = join relation inner → motive inner)
      (fun all => ∀ relation inner, join relation inner ∈ all → motive inner)
      (fun _ _ _ hStep => nomatch hStep) (fun _ _ _ hStep => nomatch hStep)
      (fun _ _ _ _ hStep => nomatch hStep) (fun _ _ _ hStep => nomatch hStep)
      (fun _ _ _ hStep => nomatch hStep)
      (fun _ inner hInner _ _ hStep => by
        cases hStep
        exact steps inner hInner)
      (fun _ _ _ hStep => nomatch hStep)
      (fun _ _ hMem => nomatch hMem)
      (fun step rest hHead hTail relation inner hMem => by
        rcases List.mem_cons.mp hMem with hHere | hRest
        · exact hHead relation inner hHere.symm
        · exact hTail relation inner hRest)
      all
  exact steps all hInner

mutual

/-- Takes a step. -/
def apply : SearchStep → Search → Search
  | .filter demanded, search => search.filter demanded
  | .select columns, search => search.select columns
  | .orderBy column direction, search => search.orderBy column direction
  | .take limit, search => search.take limit.toNat
  | .skip offset, search => search.skip offset.toNat
  | .join relation steps, search => search.join relation (applyAll steps .empty)
  | .joinAll relation, search => search.joinAll relation

/-- Takes some steps, one after another. -/
def applyAll : List SearchStep → Search → Search
  | [], search => search
  | step :: steps, search => applyAll steps (step.apply search)

end

/-- The search that some steps build. -/
def search (steps : List SearchStep) : Search := applyAll steps .empty

mutual

/-- The steps of the searches inside of a step. -/
def levelsInside : SearchStep → List (List SearchStep)
  | .join _ steps => steps :: levelsBelow steps
  | _ => []

/-- The steps of the searches inside of some steps. -/
def levelsBelow : List SearchStep → List (List SearchStep)
  | [] => []
  | step :: steps => step.levelsInside ++ levelsBelow steps

end

/-- Some steps, and those of the searches inside of them. -/
def levels (steps : List SearchStep) : List (List SearchStep) := steps :: levelsBelow steps

theorem levelsBelow_eq_flatMap (steps : List SearchStep) :
    levelsBelow steps = steps.flatMap levelsInside := by
  induction steps with
  | nil => rw [levelsBelow, List.flatMap_nil]
  | cons step steps ih => rw [levelsBelow, List.flatMap_cons, ih]

/-- The levels of a search inside are levels of the search. -/
theorem levels_subset {relation : String} {inner steps : List SearchStep}
    (hMem : join relation inner ∈ steps) : levels inner ⊆ levels steps := by
  have hInside : levels inner ⊆ levelsBelow steps := by
    rw [levelsBelow_eq_flatMap]
    exact fun level hLevel => List.mem_flatMap.mpr ⟨_, hMem, by rwa [levelsInside]⟩
  exact List.subset_cons_of_subset _ hInside

/-! ## What a step is about -/

/-- The filter that a step demands. -/
def filter? : SearchStep → Option Filter
  | .filter demanded => some demanded
  | _ => none

/-- The columns that a step selects. -/
def columns? : SearchStep → Option (List String)
  | select columns => some columns
  | _ => none

/-- The sort key that a step adds. -/
def sortKey? : SearchStep → Option (String × Direction)
  | orderBy column direction => some (column, direction)
  | _ => none

/-- How many rows a step says to return at most. -/
def limit? : SearchStep → Option UInt32
  | take limit => some limit
  | _ => none

/-- How many rows a step says to leave out. -/
def offset? : SearchStep → Option UInt32
  | skip offset => some offset
  | _ => none

/-- What a step asks of a relation. -/
def ask? : SearchStep → Option (String × Include)
  | join relation steps =>
    some (relation, .nested (search steps).toOptions.own (search steps).toOptions.includes)
  | joinAll relation => some (relation, .flag true)
  | _ => none

/-- The tests that some steps demand, each with its column. -/
def tests (steps : List SearchStep) : List (String × Test) :=
  (steps.filterMap filter?).flatMap Filter.tests

/-- The relations that some steps ask for. -/
def relations (steps : List SearchStep) : List String := (steps.filterMap ask?).map Prod.fst

/-- What depends only on the steps that say something about it, is what these say of it one after
another. -/
theorem foldl_applyAll {α β : Type} (part : Search → β) (said? : SearchStep → Option α)
    (say : β → α → β)
    (hStep : ∀ step search, part (apply step search) =
      (said? step).elim (part search) (say (part search))) (steps : List SearchStep) :
    ∀ search, part (applyAll steps search) = (steps.filterMap said?).foldl say (part search) := by
  induction steps with
  | nil => intro search; rw [applyAll]; rfl
  | cons step steps ih =>
      intro search
      rw [applyAll, ih, hStep]
      cases hSaid : said? step with
      | none => rw [List.filterMap_cons_none hSaid]; rfl
      | some said => rw [List.filterMap_cons_some hSaid]; rfl

end SearchStep

/-! ## The options that steps come to -/

/-- A value, if anything was said of it. -/
def ifSaid {α β : Type} (said : List α) (value : β) : Option β :=
  if said.isEmpty then none else some value

theorem eq_of_ifSaid {α β : Type} {said : List α} {value result : β}
    (hSaid : ifSaid said value = some result) : value = result := by
  rw [ifSaid] at hSaid
  split at hSaid
  · cases hSaid
  · exact Option.some.inj hSaid

theorem getD_ifSaid {α : Type} (said : List α) : (ifSaid said said).getD [] = said := by
  cases said <;> rfl

/-- Adding to what was said before, or to nothing. -/
theorem foldl_said {α β : Type} (add : β → α → β) (nothing : β) (said : List α) :
    said.foldl (fun before item => some (add (before.getD nothing) item)) none =
      ifSaid said (said.foldl add nothing) := by
  have hSome : ∀ (rest : List α) (value : β),
      rest.foldl (fun before item => some (add (before.getD nothing) item)) (some value) =
        some (rest.foldl add value) := by
    intro rest
    induction rest with
    | nil => intro value; rfl
    | cons item rest ih => intro value; exact ih _
  cases said with
  | nil => rfl
  | cons item rest => exact hSome rest _

/-- What was said last counts. -/
theorem foldl_last {α β : Type} (make : α → β) (said : List α) :
    ∀ before, said.foldl (fun _ item => some (make item)) before =
      (said.getLast?.map make).or before := by
  induction said with
  | nil => intro before; rfl
  | cons item said ih =>
      intro before
      rw [List.foldl_cons, ih]
      cases said with
      | nil => rfl
      | cons next rest => simp [List.getLast?_cons]

/-- Items that are added one by one. -/
theorem foldl_concat {α : Type} (said : List α) :
    said.foldl (fun before item => some (before.getD [] ++ [item])) none = ifSaid said said := by
  have hAll : said.foldl (fun before item => before ++ [item]) [] = said := by
    rw [← List.flatMap_eq_foldl, List.flatMap_singleton']
  have hSaid := foldl_said (fun before (item : α) => before ++ [item]) [] said
  rw [hAll] at hSaid
  exact hSaid

namespace SearchStep

variable (steps : List SearchStep)

/-- The options that some steps come to.  Conditions and sort keys stand in the order in which they
are demanded, a column is selected once, the last counts count, and every relation that is asked for
is asked for. -/
theorem toOptions_search : (search steps).toOptions =
    { own :=
        { filter := ifSaid (steps.filterMap filter?)
            ((tests steps).map (Prod.map id Test.condition))
          select := ifSaid (steps.filterMap columns?)
            (Fields.setAll [] ((steps.filterMap columns?).flatten.map fun name => (name, true)))
          orderBy := ifSaid (steps.filterMap sortKey?) (steps.filterMap sortKey?)
          take := (steps.filterMap limit?).getLast?.map UInt32.toNat
          skip := (steps.filterMap offset?).getLast?.map UInt32.toNat }
      includes := ifSaid (steps.filterMap ask?) (steps.filterMap ask?) } := by
  have hConditions : (tests steps).map (Prod.map id Test.condition) =
      (steps.filterMap filter?).flatMap Filter.conditions := by
    rw [tests, List.map_flatMap]
    exact congrArg (List.flatMap · _) (funext fun demanded => demanded.conditions_eq_map.symm)
  have hFiltered : (search steps).filtered.map Filter.conditions =
      ifSaid (steps.filterMap filter?) ((tests steps).map (Prod.map id Test.condition)) := by
    rw [hConditions, search, foldl_applyAll
      (fun search => search.filtered.map Filter.conditions) filter?
      (fun before demanded => some (before.getD [] ++ demanded.conditions)) ?_ steps .empty,
      List.flatMap_eq_foldl]
    · exact foldl_said (fun before (demanded : Filter) => before ++ demanded.conditions) [] _
    · intro step search
      cases step with
      | filter demanded =>
          cases hBefore : search.filtered <;>
            simp [apply, filter?, Search.filter, hBefore, Filter.conditions]
      | _ => rfl
  have hFilter : (search steps).options.own.filter = none := by
    -- No step is about the conditions of the options: they are kept beside these.
    rw [search, foldl_applyAll (fun search => search.options.own.filter)
      (fun _ => (none : Option Filter)) (fun before _ => before)
      (by intro step search; cases step <;> rfl) steps .empty,
      List.filterMap_eq_nil_iff.mpr fun _ _ => rfl]
    rfl
  have hSelect : (search steps).options.own.select = ifSaid (steps.filterMap columns?)
      (Fields.setAll [] ((steps.filterMap columns?).flatten.map fun name => (name, true))) := by
    rw [search, foldl_applyAll (fun search => search.options.own.select) columns?
      (fun before columns =>
        some (Fields.setAll (before.getD []) (columns.map fun name => (name, true))))
      (by intro step search; cases step <;> rfl) steps .empty, Fields.setAll, List.foldl_map,
      List.foldl_flatten]
    simp only [Fields.setAll, List.foldl_map]
    exact foldl_said _ [] _
  have hOrder : (search steps).options.own.orderBy =
      ifSaid (steps.filterMap sortKey?) (steps.filterMap sortKey?) := by
    rw [search, foldl_applyAll (fun search => search.options.own.orderBy) sortKey?
      (fun before key => some (before.getD [] ++ [key]))
      (by intro step search; cases step <;> rfl) steps .empty]
    exact foldl_concat _
  have hTake : (search steps).options.own.take =
      (steps.filterMap limit?).getLast?.map UInt32.toNat := by
    rw [search, foldl_applyAll (fun search => search.options.own.take) limit?
      (fun _ limit => some limit.toNat) (by intro step search; cases step <;> rfl) steps .empty,
      foldl_last]
    exact Option.or_none
  have hSkip : (search steps).options.own.skip =
      (steps.filterMap offset?).getLast?.map UInt32.toNat := by
    rw [search, foldl_applyAll (fun search => search.options.own.skip) offset?
      (fun _ offset => some offset.toNat) (by intro step search; cases step <;> rfl) steps .empty,
      foldl_last]
    exact Option.or_none
  have hIncludes : (search steps).options.includes =
      ifSaid (steps.filterMap ask?) (steps.filterMap ask?) := by
    rw [search, foldl_applyAll (fun search => search.options.includes) ask?
      (fun before entry => some (before.getD [] ++ [entry]))
      (by intro step search; cases step <;> rfl) steps .empty]
    exact foldl_concat _
  rw [← hFiltered, ← hSelect, ← hOrder, ← hTake, ← hSkip, ← hIncludes, Search.toOptions, hFilter]
  cases (search steps).filtered with
  | none => rw [Option.map_none, ← hFilter]
  | some demanded => rfl

theorem orderBy_search :
    (search steps).toOptions.own.orderBy.getD [] = steps.filterMap sortKey? := by
  rw [toOptions_search]
  exact getD_ifSaid _

theorem includes_search :
    (search steps).toOptions.includes.getD [] = steps.filterMap ask? := by
  rw [toOptions_search]
  exact getD_ifSaid _

end SearchStep

end ModelStore
