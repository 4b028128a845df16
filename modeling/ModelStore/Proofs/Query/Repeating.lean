import ModelStore.Proofs.Query.Faults
import ModelStore.Proofs.Query.Naming
import ModelStore.Proofs.Query.Steps

/-!
# Relations that are asked for twice

Steps name columns and relations of tables, and may ask for one relation several times.  If all
that they name is known, only two things can be wrong with the search that they build: a path of
relations may lead back to a table, and an operand may be no cell.

A relation that is asked for twice is joined twice under one name.  The condition of such a join
refers to a field under that name, which is there twice, so the plan is refused by the store.

## Main definitions

* `SearchStep.AllKnown`: steps that name columns and relations of a table.
* `KnownFault`: what can be wrong where all names are known.

## Main results

* `SearchStep.knownFault_of_mem_faults`: nothing else is wrong with what known steps build.
* `SearchStep.asksOnce_iff`: the search asks for a relation twice just if the steps of a level do.
* `Query.PlannedAs.exists_refusal`: a plan that joins a relation twice is refused.
-/

namespace ModelStore

open Sql (ColumnRef)

variable {ι : Type}

/-! ## Known names -/

namespace SearchStep

variable (schema : Schema ι)

mutual

/-- Steps on the table of a key that name columns and relations which are there. -/
def Known (key : ι) : SearchStep → Prop
  | filter demanded =>
    ∀ entry ∈ demanded.tests, ((schema.table key).column? entry.1).isSome = true
  | select columns => ∀ column ∈ columns, ((schema.table key).column? column).isSome = true
  | orderBy column _ => ((schema.table key).column? column).isSome = true
  | take _ => True
  | skip _ => True
  | join name steps =>
    ∃ relation, (schema.table key).relation? name = some relation ∧
      AllKnown relation.target steps
  | joinAll name => ∃ relation, (schema.table key).relation? name = some relation

/-- Steps all of which name what is there. -/
def AllKnown (key : ι) : List SearchStep → Prop
  | [] => True
  | step :: steps => step.Known key ∧ AllKnown key steps

end

variable {schema} {key : ι} {steps : List SearchStep}

theorem allKnown_iff : AllKnown schema key steps ↔ ∀ step ∈ steps, step.Known schema key := by
  induction steps with
  | nil => simp [AllKnown]
  | cons step steps ih => rw [AllKnown, ih, List.forall_mem_cons]

end SearchStep

/-- What can be wrong with a search all of whose names are known: it comes back to a table, or an
operand is no cell. -/
inductive KnownFault : Error → Prop
  | cycle (chain : List String) : KnownFault (.includeCycle chain)
  | operand (column : String) : KnownFault (.refused (.compoundValue column))

/-- Whether the relations of all tables refer to columns. -/
def Schema.RefersToColumns (schema : Schema ι) : Prop :=
  ∀ key, ∀ relation ∈ (schema.table key).relations,
    ((schema.table relation.target).column? relation.referencedField).isSome = true

theorem Table.unknownFaults_eq_nil {table : Table ι} {names : List String}
    (hKnown : ∀ name ∈ names, (table.column? name).isSome = true) :
    table.unknownFaults names = [] := by
  rw [Table.unknownFaults_eq_nil_iff]
  rintro ⟨name, hName, hNone⟩
  have hSome := hKnown name hName
  rw [hNone] at hSome
  cases hSome

section Faults

variable {schema : Schema ι} {key : ι} {chain : List String}

/-- With known columns, only operands can be wrong on the own table of a search. -/
theorem knownFault_of_mem_own {own : SearchOptions}
    (hFilter : ∀ conditions ∈ own.filter, ∀ entry ∈ conditions,
      ((schema.table key).column? entry.1).isSome = true)
    (hOrder : ∀ entry ∈ own.orderBy.getD [], ((schema.table key).column? entry.1).isSome = true) :
    ∀ e ∈ own.faults (schema.table key), KnownFault e := by
  intro e he
  rw [SearchOptions.faults, Table.unknownFaults_eq_nil (List.forall_mem_map.mpr hOrder),
    List.append_nil] at he
  cases hConditions : own.filter with
  | none =>
      rw [hConditions] at he
      cases he
  | some conditions =>
      have hNames : (schema.table key).unknownFaults (conditions.map (·.1)) = [] :=
        Table.unknownFaults_eq_nil (List.forall_mem_map.mpr (hFilter conditions hConditions))
      rw [hConditions, Option.elim_some, Conditions.faults, hNames, List.nil_append] at he
      obtain ⟨entry, -, hOperand⟩ := List.mem_flatMap.mp he
      obtain ⟨operand, -, rfl⟩ := List.mem_map.mp hOperand
      exact .operand entry.1

/-- With a known relation, only what is asked of it or a cycle can be wrong. -/
theorem knownFault_of_mem_join (hRefers : schema.RefersToColumns) {name : String}
    {relation : Relation ι} (hRelation : (schema.table key).relation? name = some relation)
    {sub : ι → List String → List Error}
    (hSub : ∀ deeper, ∀ e ∈ sub relation.target deeper, KnownFault e) :
    ∀ e ∈ joinFaults schema chain key name sub, KnownFault e := by
  have hField : (schema.table relation.target).unknownFaults [relation.referencedField] = [] :=
    Table.unknownFaults_eq_nil (List.forall_mem_singleton.mpr
      (hRefers key relation (List.mem_of_find?_eq_some hRelation)))
  intro e he
  rw [joinFaults, hRelation] at he
  dsimp only at he
  rw [hField, List.append_nil] at he
  split at he
  · rw [List.mem_singleton.mp he]
    exact .cycle _
  · exact hSub _ e he

/-- **Faults**: where all names are known, a search comes back to a table or an operand is no cell,
or nothing is wrong. -/
theorem SearchStep.knownFault_of_mem_faults (hRefers : schema.RefersToColumns)
    {steps : List SearchStep} :
    ∀ {chain : List String} {key : ι}, AllKnown schema key steps →
      ∀ e ∈ searchFaults schema chain key (search steps).toOptions.own
        (search steps).toOptions.includes, KnownFault e := by
  induction steps using SearchStep.induction with
  | steps steps ih =>
      intro chain key hKnown e he
      rw [allKnown_iff] at hKnown
      rw [searchFaults_eq, includes_search, includesFaults_eq_flatMap, List.mem_append,
        List.mem_flatMap] at he
      rcases he with hOwn | ⟨⟨name, ask⟩, hAsk, hFault⟩
      · refine knownFault_of_mem_own ?_ ?_ e hOwn
        · intro conditions hConditions entry hEntry
          rw [toOptions_search] at hConditions
          rw [← eq_of_ifSaid hConditions] at hEntry
          obtain ⟨test, hTest, rfl⟩ := List.mem_map.mp hEntry
          obtain ⟨demanded, hDemanded, hTest⟩ := List.mem_flatMap.mp hTest
          obtain ⟨step, hStep, hFilter⟩ := List.mem_filterMap.mp hDemanded
          cases step with
          | filter other =>
              cases hFilter
              exact hKnown _ hStep test hTest
          | _ => cases hFilter
        · rw [orderBy_search]
          intro sortKey hSortKey
          obtain ⟨step, hStep, hKey⟩ := List.mem_filterMap.mp hSortKey
          cases step with
          | orderBy column direction =>
              cases hKey
              exact hKnown _ hStep
          | _ => cases hKey
      · obtain ⟨step, hStep, hAsked⟩ := List.mem_filterMap.mp hAsk
        cases step with
        | join name inner =>
            cases hAsked
            obtain ⟨relation, hRelation, hInner⟩ := hKnown _ hStep
            rw [includeFaults] at hFault
            exact knownFault_of_mem_join hRefers hRelation
              (fun deeper => ih name inner hStep hInner) e hFault
        | joinAll name =>
            cases hAsked
            obtain ⟨relation, hRelation⟩ := hKnown _ hStep
            rw [includeFaults] at hFault
            exact knownFault_of_mem_join hRefers hRelation
              (fun deeper e hNone => absurd hNone List.not_mem_nil) e hFault
        | _ => cases hAsked

end Faults

/-! ## Steps of a level -/

section Levels

variable {schema : Schema ι}

theorem Query.resolve_eq {key : ι} {own : SearchOptions} {includes : Option Includes} :
    Query.resolve schema key own includes =
      .node own (resolveAll schema key (includes.getD [])) := by
  cases includes with
  | none => rw [Query.resolve, Option.getD_none, resolveAll]
  | some includes => rw [Query.resolve, Option.getD_some]

theorem resolveAll_eq_flatMap {key : ι} (includes : Includes) :
    resolveAll schema key includes =
      includes.flatMap fun entry => resolveOne schema key entry.1 entry.2 := by
  induction includes with
  | nil => rw [resolveAll, List.flatMap_nil]
  | cons entry includes ih =>
      obtain ⟨name, ask⟩ := entry
      rw [resolveAll, List.flatMap_cons, ih]

/-- A relation that is there is followed. -/
theorem followRelation_eq {key : ι} {name : String} {relation : Relation ι}
    (hRelation : (schema.table key).relation? name = some relation) (sub : ι → Query ι) :
    followRelation schema key name sub = [(relation, sub relation.target)] ∧
      relation.name = name := by
  rw [followRelation, hRelation]
  exact ⟨rfl, by simpa using List.find?_some hRelation⟩

namespace SearchStep

/-- The relation that a known step asks for is there. -/
theorem resolveOne_eq {key : ι} {step : SearchStep} {name : String} {ask : Include}
    (hKnown : step.Known schema key) (hAsk : step.ask? = some (name, ask)) :
    ∃ relation query, resolveOne schema key name ask = [(relation, query)] ∧
      relation.name = name ∧
      ((∃ inner, step = join name inner ∧ AllKnown schema relation.target inner ∧
          query = Query.resolve schema relation.target (search inner).toOptions.own
            (search inner).toOptions.includes) ∨
        (step = joinAll name ∧ query = .node .empty [])) := by
  cases step with
  | join relation inner =>
      cases hAsk
      obtain ⟨found, hFound, hInner⟩ := hKnown
      obtain ⟨hFollow, hName⟩ := followRelation_eq hFound fun target =>
        Query.resolve schema target (search inner).toOptions.own
          (search inner).toOptions.includes
      rw [resolveOne, hFollow]
      exact ⟨found, _, rfl, hName, .inl ⟨inner, rfl, hInner, rfl⟩⟩
  | joinAll relation =>
      cases hAsk
      obtain ⟨found, hFound⟩ := hKnown
      obtain ⟨hFollow, hName⟩ := followRelation_eq hFound fun _ => Query.node .empty []
      rw [resolveOne, hFollow]
      exact ⟨found, _, rfl, hName, .inr ⟨rfl, rfl⟩⟩
  | _ => cases hAsk

/-- The relations that are searched are those that known steps ask for. -/
theorem names_resolveAll {key : ι} {steps : List SearchStep} (hKnown : AllKnown schema key steps) :
    (resolveAll schema key (steps.filterMap ask?)).map (·.1.name) = relations steps := by
  rw [allKnown_iff] at hKnown
  have hOne : ∀ entry ∈ steps.filterMap ask?,
      (resolveOne schema key entry.1 entry.2).map (·.1.name) = [entry.1] := by
    intro entry hEntry
    obtain ⟨step, hStep, hAsk⟩ := List.mem_filterMap.mp hEntry
    obtain ⟨relation, query, hResolve, hName, -⟩ := resolveOne_eq (hKnown step hStep) hAsk
    rw [hResolve, List.map_singleton, hName]
  rw [resolveAll_eq_flatMap, List.map_flatMap, List.flatMap_congr hOne, relations,
    List.map_eq_flatMap]

/-- **Levels**: the search that known steps build asks for no relation twice just if the steps of no
level do. -/
theorem asksOnce_iff {steps : List SearchStep} :
    ∀ {key : ι}, AllKnown schema key steps →
      ((Query.resolve schema key (search steps).toOptions.own
        (search steps).toOptions.includes).AsksOnce ↔
          ∀ level ∈ levels steps, (relations level).Nodup) := by
  induction steps using SearchStep.induction with
  | steps steps ih =>
      intro key hKnown
      have hNames := names_resolveAll hKnown
      rw [allKnown_iff] at hKnown
      rw [Query.resolve_eq, includes_search, Query.AsksOnce, Query.allAskOnce_iff, hNames, levels,
        List.forall_mem_cons]
      refine and_congr_right fun _ => ?_
      rw [resolveAll_eq_flatMap, levelsBelow_eq_flatMap]
      simp only [List.forall_mem_flatMap]
      constructor
      · intro hOnce step hStep level hLevel
        cases step with
        | join name inner =>
            obtain ⟨relation, query, hResolve, -, hQuery⟩ := resolveOne_eq (hKnown _ hStep) rfl
            have hEntry : _ ∈ steps.filterMap ask? := List.mem_filterMap.mpr ⟨_, hStep, rfl⟩
            have hAsked := hOnce _ hEntry (relation, query)
              (hResolve ▸ List.mem_singleton_self _)
            rcases hQuery with ⟨other, hSame, hInner, rfl⟩ | ⟨hOther, -⟩
            · cases hSame
              rw [levelsInside] at hLevel
              exact (ih name inner hStep hInner).mp hAsked level hLevel
            · cases hOther
        | _ => cases hLevel
      · rintro hOnce ⟨name, ask⟩ hEntry entry hResolved
        obtain ⟨step, hStep, hAsk⟩ := List.mem_filterMap.mp hEntry
        obtain ⟨relation, query, hResolve, -, hQuery⟩ := resolveOne_eq (hKnown step hStep) hAsk
        rw [hResolve, List.mem_singleton] at hResolved
        subst hResolved
        rcases hQuery with ⟨inner, rfl, hInner, rfl⟩ | ⟨-, rfl⟩
        · exact (ih name inner hStep hInner).mpr fun level hLevel =>
            hOnce _ hStep level (by rwa [levelsInside])
        · exact ⟨List.nodup_nil, trivial⟩

end SearchStep

end Levels

/-! ## Plans that join a relation twice -/

section Joins

variable {schema : Schema ι}

/-- A plan of a search that asks for a relation twice joins one twice, at some level. -/
theorem Query.PlannedAs.exists_repeating {query : Query ι} :
    ∀ {key : ι} {plan : Plan}, query.PlannedAs schema key plan → ¬query.AsksOnce →
      ∃ level ∈ plan.nodes, ¬(level.2.map (·.1.name)).Nodup := by
  induction query using Query.induction with
  | node own related ih =>
      intro key plan hPlanned hRepeats
      obtain ⟨core, joins⟩ := plan
      obtain ⟨-, hJoins⟩ := hPlanned
      rw [Query.AsksOnce, Query.allAskOnce_iff] at hRepeats
      rw [Plan.nodes]
      by_cases hNodup : (related.map (·.1.name)).Nodup
      · have hInside : ¬∀ entry ∈ related, entry.2.AsksOnce := fun hAll => hRepeats ⟨hNodup, hAll⟩
        push Not at hInside
        obtain ⟨entry, hEntry, hTwice⟩ := hInside
        obtain ⟨join, hJoin, hJoined⟩ := StoredTable.exists_left_of_forall₂
          (Query.allPlannedAs_iff.mp hJoins).flip hEntry
        obtain ⟨level, hLevel, hLevelTwice⟩ := ih entry hEntry hJoined.planned hTwice
        exact ⟨level, List.mem_cons_of_mem _ (Plan.mem_nodesOfJoins.mpr ⟨join, hJoin, hLevel⟩),
          hLevelTwice⟩
      · refine ⟨(core, joins), List.mem_cons_self, ?_⟩
        have hNames := hJoins.names_eq
        dsimp only [Plan.joins] at hNames
        rwa [hNames]

/-- A reference that fits two tables or joined relations in scope is refused. -/
theorem Scope.not_resolves {scope : Scope} {ref : ColumnRef} {first second : ScopeItem}
    (hScope : [first, second].Sublist scope) (hFirst : first.fits ref = true)
    (hSecond : second.fits ref = true) : ¬scope.Resolves ref := by
  have hTwo : 2 ≤ (scope.filter (ScopeItem.fits ref)).length := by
    have hFits : [first, second].filter (ScopeItem.fits ref) = [first, second] := by
      rw [List.filter_eq_self, List.forall_mem_cons]
      exact ⟨hFirst, List.forall_mem_singleton.mpr hSecond⟩
    have hLength := (hScope.filter (ScopeItem.fits ref)).length_le
    rwa [hFits] at hLength
  intro hResolves
  have hNone := hResolves none
  unfold Scope.refusal at hNone
  split at hNone
  · omega
  · omega
  · cases hNone

/-- Where a plan joins a relation twice, the condition of the join fits two columns. -/
theorem exists_unresolved (hNamed : schema.WellNamed) {store : Store} {key : ι} {core : PlanCore}
    {related : List (Relation ι × Query ι)} {joins : List (Link × Plan)}
    (hJoins : Query.AllPlannedAs schema key related joins)
    (hTwice : ¬(joins.map (·.1.name)).Nodup) :
    ∃ ref ∈ references core joins, ¬(scopeOf store core joins).Resolves ref := by
  rw [List.nodup_iff_sublist] at hTwice
  push Not at hTwice
  obtain ⟨name, hTwice⟩ := hTwice
  obtain ⟨pair, hPair, hNames⟩ := List.sublist_map_iff.mp hTwice
  obtain ⟨first, second, rfl⟩ : ∃ first second, pair = [first, second] := by
    have hLength := congrArg List.length hNames
    rw [List.length_map] at hLength
    exact List.length_eq_two.mp hLength.symm
  have hMem : first ∈ joins ∧ second ∈ joins :=
    ⟨hPair.subset List.mem_cons_self, hPair.subset (List.mem_cons_of_mem _ List.mem_cons_self)⟩
  obtain ⟨one, -, hOne⟩ := hJoins.exists_entry first hMem.1
  obtain ⟨other, -, hOther⟩ := hJoins.exists_entry second hMem.2
  -- A table has one relation of a name, so both joins are of the same relation.
  have hSame : one.1 = other.1 := by
    have hDistinct : ((schema.table key).relations.map (foldedName ∘ Relation.name)).Nodup := by
      rw [← List.map_map]
      exact (hNamed key).relations_distinct
    have hName : one.1.name = other.1.name := by
      simp only [List.map_cons, List.map_nil, List.cons.injEq, and_true] at hNames
      rw [← Relation.link_name, ← hOne.link_eq, ← hNames.1, ← Relation.link_name,
        ← hOther.link_eq, hNames.2]
    exact List.inj_on_of_nodup_map hDistinct hOne.relation_mem hOther.relation_mem
      (congrArg foldedName hName)
  have hLink : first.1 = second.1 := by rw [hOne.link_eq, hOther.link_eq, hSame]
  have hFields : first.1.referencedField = one.1.referencedField ∧
      second.1.referencedField = other.1.referencedField := by
    rw [hOne.link_eq, hOther.link_eq]
    exact ⟨rfl, rfl⟩
  have hParts := forall_mem_references_iff.mp fun ref (hRef : ref ∈ references core joins) => hRef
  refine ⟨first.1.referencedRef, (hParts.1.1.2 first hMem.1).2, ?_⟩
  refine Scope.not_resolves ((hPair.map _).trans (List.sublist_cons_self _ _)) ?_ ?_
  · exact ScopeItem.fits_of_mem (hFields.1 ▸ hOne.fetches.mem_names)
  · rw [hLink]
    exact ScopeItem.fits_of_mem (hFields.2 ▸ hOther.fetches.mem_names)

variable (hNamed : schema.WellNamed) {store : Store} (hStore : store.Holds schema) {query : Query ι}
  {key : ι} {plan : Plan} (hPlanned : query.PlannedAs schema key plan)

include hNamed hPlanned

/-- **Refusal**: the plan of a search that asks for a relation twice is refused. -/
theorem Query.PlannedAs.exists_refusal (hRepeats : ¬query.AsksOnce) {sql : String} {offset : Nat} :
    ∃ e, plan.refusalAt store sql offset = some e := by
  rw [← Option.isSome_iff_exists, Option.isSome_iff_ne_none, ne_eq, Plan.refusalAt_eq_none_iff]
  intro hAll
  obtain ⟨level, hLevel, hTwice⟩ := hPlanned.exists_repeating hRepeats
  obtain ⟨target, ⟨own, related⟩, hLevelPlanned, -⟩ := hPlanned.of_mem_nodes level hLevel
  obtain ⟨ref, hRef, hUnresolved⟩ := exists_unresolved hNamed hLevelPlanned.2 hTwice
  exact hUnresolved (hAll level hLevel ref hRef)

include hStore

/-- A plan is refused for a reference that fits several columns, never for one that fits none. -/
theorem Query.PlannedAs.ambiguous_of_refusalAt {sql : String} {offset : Nat} {e : StoreError}
    (hRefusal : plan.refusalAt store sql offset = some e) :
    ∃ cited site, e = .ambiguousColumn cited site := by
  obtain ⟨level, hLevel, ref, hRef, site, hRefused⟩ := Plan.exists_of_refusalAt hRefusal
  obtain ⟨target, ⟨own, related⟩, hLevelPlanned, -⟩ := hPlanned.of_mem_nodes level hLevel
  have hNames := names_references hNamed hStore hLevelPlanned.1 hLevelPlanned.2 ref hRef
  exact ⟨_, site, hNames.refusal_cases hRefused⟩

end Joins

end ModelStore
