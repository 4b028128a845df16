import ModelStore.Proofs.Query.Naming

/-!
# How large the plan of a search can be

No path of includes comes back to a table, so a plan has no more levels than there are tables.  If
no relation is asked for twice, a level joins each relation of its table once at most, and fetches
each column once.  So the number of columns that a plan shows is bounded by the tables alone.

## Main definitions

* `Plan.Within`: plans with so many levels below them.

## Main results

* `within_of_build`: a plan that is built has fewer levels below it than there are tables.
* `Query.PlannedAs.fits`: where the tables are few and small, a plan is within the limits on columns
  and on joined tables.
-/

namespace ModelStore

variable {ι : Type}

/-! ## Levels below a plan -/

mutual

/-- Plans with so many levels below them at most. -/
def Plan.Within (below : Nat) : Plan → Prop
  | .node _ joins => Plan.AllWithin below joins

/-- Joined plans that have with their own level so many levels at most. -/
def Plan.AllWithin (levels : Nat) : List (Link × Plan) → Prop
  | [] => True
  | (_, plan) :: rest => (∃ below, levels = below + 1 ∧ plan.Within below) ∧ AllWithin levels rest

end

theorem Plan.allWithin_iff {levels : Nat} {joins : List (Link × Plan)} :
    Plan.AllWithin levels joins ↔
      ∀ join ∈ joins, ∃ below, levels = below + 1 ∧ join.2.Within below := by
  induction joins with
  | nil => simp [Plan.AllWithin]
  | cons join joins ih => rw [Plan.AllWithin, ih, List.forall_mem_cons]

mutual

/-- A level of a plan has no more levels below it than the plan. -/
theorem Plan.within_of_mem_nodes {level : PlanCore × List (Link × Plan)} :
    ∀ {plan : Plan} {below : Nat}, plan.Within below → level ∈ plan.nodes →
      ∃ deeper ≤ below, (Plan.node level.1 level.2).Within deeper
  | .node core joins, below, hWithin, hLevel => by
      rw [Plan.nodes, List.mem_cons] at hLevel
      rcases hLevel with rfl | hLevel
      · exact ⟨below, Nat.le_refl _, hWithin⟩
      · exact Plan.within_of_mem_nodesOfJoins hWithin hLevel

theorem Plan.within_of_mem_nodesOfJoins {level : PlanCore × List (Link × Plan)} :
    ∀ {joins : List (Link × Plan)} {levels : Nat}, Plan.AllWithin levels joins →
      level ∈ Plan.nodesOfJoins joins →
      ∃ deeper ≤ levels, (Plan.node level.1 level.2).Within deeper
  | [], levels, hWithin, hLevel => by cases hLevel
  | (link, plan) :: joins, levels, hWithin, hLevel => by
      obtain ⟨⟨below, rfl, hPlan⟩, hJoins⟩ := hWithin
      rw [Plan.nodesOfJoins, List.mem_append] at hLevel
      rcases hLevel with hLevel | hLevel
      · obtain ⟨deeper, hDeeper, hLevelWithin⟩ := Plan.within_of_mem_nodes hPlan hLevel
        exact ⟨deeper, by omega, hLevelWithin⟩
      · exact Plan.within_of_mem_nodesOfJoins hJoins hLevel

end

/-! ## Building -/

section Building

variable {schema : Schema ι} {names : Finset String}

/-- A chain of tables that does not come back, and how many tables it leaves out. -/
structure Leaves (names : Finset String) (chain : List String) (below : Nat) : Prop where
  nodup : chain.Nodup
  subset : ∀ name ∈ chain, name ∈ names
  card_eq : names.card = chain.length + below

/-- A chain that is made longer leaves out one table less. -/
theorem Leaves.push {chain : List String} {below : Nat} (hLeaves : Leaves names chain below)
    {name : String} (hName : name ∈ names) (hNew : name ∉ chain) :
    ∃ deeper, below = deeper + 1 ∧ Leaves names (chain ++ [name]) deeper := by
  have hNodup : (chain ++ [name]).Nodup := by
    rw [List.nodup_append_comm, List.singleton_append, List.nodup_cons]
    exact ⟨hNew, hLeaves.nodup⟩
  have hSubset : ∀ other ∈ chain ++ [name], other ∈ names := by
    rw [List.forall_mem_append, List.forall_mem_singleton]
    exact ⟨hLeaves.subset, hName⟩
  have hLength : (chain ++ [name]).length ≤ names.card := by
    rw [← List.toFinset_card_of_nodup hNodup]
    exact Finset.card_le_card fun other hOther => hSubset other (List.mem_toFinset.mp hOther)
  have hCard := hLeaves.card_eq
  rw [List.length_append, List.length_singleton] at hLength
  refine ⟨below - 1, by omega, hNodup, hSubset, ?_⟩
  rw [List.length_append, List.length_singleton]
  omega

/-- Joining a relation: what is joined has one level less below it. -/
theorem within_of_joinRelation (hNames : ∀ key, (schema.table key).name ∈ names)
    {chain : List String} {below : Nat} (hLeaves : Leaves names chain below) {key : ι}
    {name : String} {sub : ι → List String → Reporting Plan} {joins : List (Link × Plan)}
    (hSub : ∀ target chain below plan, Leaves names chain below → Yields (sub target chain) plan →
      plan.Within below)
    (hYields : Yields (joinRelation schema chain key name sub) joins) :
    Plan.AllWithin below joins := by
  rw [joinRelation] at hYields
  split at hYields
  · obtain ⟨_, -, hPure⟩ := hYields.of_bind
    rw [← hPure.of_pure]
    trivial
  · rename_i relation hRelation
    dsimp only at hYields
    split at hYields
    · exact absurd hYields not_yields_throw
    · rename_i hNew
      obtain ⟨base, hBase, hRest⟩ := hYields.of_bind
      obtain ⟨plan, hPlan, hPure⟩ := hRest.of_bind
      have hNotMem : (schema.table relation.target).name ∉ chain := by simpa using hNew
      obtain ⟨deeper, rfl, hDeeper⟩ := hLeaves.push (hNames relation.target) hNotMem
      have hWithin : plan.Within deeper := by
        have hBaseWithin := hSub relation.target _ deeper base hDeeper hBase
        obtain ⟨core, joins⟩ := base
        have hExpose := hPlan.of_liftExcept
        rw [Plan.expose] at hExpose
        split at hExpose
        · cases hExpose
          exact hBaseWithin
        · split at hExpose
          · cases hExpose
            exact hBaseWithin
          · cases hExpose
      rw [← hPure.of_pure]
      exact ⟨⟨deeper, rfl, hWithin⟩, trivial⟩

mutual

/-- A plan has no more levels below it than its chain leaves out tables. -/
theorem within_of_buildPlan (hNames : ∀ key, (schema.table key).name ∈ names)
    {own : SearchOptions} :
    ∀ (includes : Option (List (String × Include))) {chain : List String} {below : Nat} {key : ι}
      {plan : Plan}, Leaves names chain below →
      Yields (buildPlan schema chain key own includes) plan → plan.Within below
  | none, chain, below, key, plan, hLeaves, hYields => by
      rw [buildPlan] at hYields
      obtain ⟨core, -, hPure⟩ := hYields.of_bind
      rw [← hPure.of_pure]
      trivial
  | some includes, chain, below, key, plan, hLeaves, hYields => by
      rw [buildPlan] at hYields
      obtain ⟨core, -, hRest⟩ := hYields.of_bind
      obtain ⟨joins, hJoins, hPure⟩ := hRest.of_bind
      rw [← hPure.of_pure]
      exact within_of_buildJoins hNames includes hLeaves hJoins

theorem within_of_buildJoins (hNames : ∀ key, (schema.table key).name ∈ names) :
    ∀ (includes : List (String × Include)) {chain : List String} {below : Nat} {key : ι}
      {joins : List (Link × Plan)}, Leaves names chain below →
      Yields (buildJoins schema chain key includes) joins → Plan.AllWithin below joins
  | [], chain, below, key, joins, hLeaves, hYields => by
      rw [buildJoins] at hYields
      rw [← hYields.of_pure]
      trivial
  | (name, ask) :: rest, chain, below, key, joins, hLeaves, hYields => by
      rw [buildJoins] at hYields
      obtain ⟨first, hFirst, hRest⟩ := hYields.of_bind
      obtain ⟨others, hOthers, hPure⟩ := hRest.of_bind
      rw [← hPure.of_pure, Plan.allWithin_iff, List.forall_mem_append]
      exact ⟨Plan.allWithin_iff.mp (within_of_buildJoin hNames ask hLeaves hFirst),
        Plan.allWithin_iff.mp (within_of_buildJoins hNames rest hLeaves hOthers)⟩

theorem within_of_buildJoin (hNames : ∀ key, (schema.table key).name ∈ names) :
    ∀ (ask : Include) {chain : List String} {below : Nat} {key : ι} {name : String}
      {joins : List (Link × Plan)}, Leaves names chain below →
      Yields (buildJoin schema chain key name ask) joins → Plan.AllWithin below joins
  | .flag false, chain, below, key, name, joins, hLeaves, hYields => by
      rw [buildJoin] at hYields
      rw [← hYields.of_pure]
      trivial
  | .flag true, chain, below, key, name, joins, hLeaves, hYields => by
      rw [buildJoin] at hYields
      refine within_of_joinRelation hNames hLeaves (fun target _ below plan _ hPlan => ?_) hYields
      obtain ⟨core, -, hPure⟩ := hPlan.of_bind
      rw [← hPure.of_pure]
      trivial
  | .nested own includes, chain, below, key, name, joins, hLeaves, hYields => by
      rw [buildJoin] at hYields
      exact within_of_joinRelation hNames hLeaves
        (fun target chain below plan hDeeper => within_of_buildPlan hNames includes hDeeper)
        hYields

end

/-- **Levels**: a plan that is built has fewer levels below it than there are tables. -/
theorem within_of_build (hNames : ∀ key, (schema.table key).name ∈ names) {key : ι}
    {options : FindOptions} {plan : Plan} {events : List Event}
    (hBuilt : (Plan.build schema key options).run.run [] = (.ok plan, events)) :
    plan.Within (names.card - 1) := by
  have hSome : 0 < names.card := Finset.card_pos.mpr ⟨_, hNames key⟩
  have hLeaves : Leaves names [(schema.table key).name] (names.card - 1) :=
    ⟨List.nodup_singleton _, List.forall_mem_singleton.mpr (hNames key), by
      rw [List.length_singleton]
      omega⟩
  exact within_of_buildPlan hNames options.includes hLeaves ⟨[], events, hBuilt⟩

end Building

/-! ## Columns and joins -/

/-- Tables that have so many columns and so many relations at most. -/
structure Schema.Bounded (schema : Schema ι) (columns relations : Nat) : Prop where
  columns_le : ∀ key, (schema.table key).columns.length ≤ columns
  relations_le : ∀ key, (schema.table key).relations.length ≤ relations

section Widths

variable {schema : Schema ι} (hNamed : schema.WellNamed) {columns relations : Nat}
  (hBounded : schema.Bounded columns relations)

include hNamed hBounded

/-- A plan fetches each column of its table once. -/
theorem PlanCore.PlannedAs.length_fetched_le {key : ι} {own : SearchOptions} {core : PlanCore}
    (hCore : core.PlannedAs (schema.table key) own) :
    core.projection.length + core.hidden.length ≤ columns := by
  have hNodup : (core.projection ++ core.hidden).Nodup :=
    (hCore.nodup_fetched fun key => (hNamed key).spelledApart).of_map
  have hLength := (hNodup.subperm hCore.fetched_mem).length_le
  rw [List.length_append] at hLength
  exact hLength.trans (hBounded.columns_le key)

omit hNamed in
/-- A plan joins each relation of its table once, if none is asked for twice. -/
theorem Query.AllPlannedAs.length_le {key : ι} {related : List (Relation ι × Query ι)}
    {joins : List (Link × Plan)} (hJoins : Query.AllPlannedAs schema key related joins)
    (hOnce : (related.map (·.1.name)).Nodup) : joins.length ≤ relations := by
  have hNodup : (joins.map (·.1.name)).Nodup := hJoins.names_eq ▸ hOnce
  have hSubset : joins.map (·.1.name) ⊆ (schema.table key).relations.map (·.name) := by
    intro name hName
    obtain ⟨join, hJoin, rfl⟩ := List.mem_map.mp hName
    obtain ⟨entry, -, hEntry⟩ := hJoins.exists_entry join hJoin
    rw [hEntry.link_eq]
    exact List.mem_map_of_mem hEntry.relation_mem
  have hLength := (hNodup.subperm hSubset).length_le
  rw [List.length_map, List.length_map] at hLength
  exact hLength.trans (hBounded.relations_le key)

/-- **Columns**: a plan shows no more columns than the tables have along all paths of includes. -/
theorem Query.PlannedAs.length_selectItems_le {query : Query ι} :
    ∀ {below : Nat} {key : ι} {plan : Plan}, query.PlannedAs schema key plan → query.AsksOnce →
      plan.Within below →
      (selectItems plan.core plan.joins).length ≤ columns * (relations + 1) ^ below := by
  induction query using Query.induction with
  | node own related ih =>
      intro below key plan hPlanned hOnce hWithin
      obtain ⟨core, joins⟩ := plan
      obtain ⟨hCore, hJoins⟩ := hPlanned
      rw [Query.AsksOnce, Query.allAskOnce_iff] at hOnce
      rw [Plan.Within, Plan.allWithin_iff] at hWithin
      have hFetched : core.projection.length + core.hidden.length ≤ columns :=
        hCore.length_fetched_le hNamed hBounded
      have hFew : joins.length ≤ relations := hJoins.length_le hBounded hOnce.1
      have hItems : (selectItems core joins).length =
          core.projection.length + core.hidden.length +
            (joins.map fun join => join.2.outputs.length).sum := by
        rw [length_selectItems, Plan.outputs, Plan.outputsOfJoins_eq]
        simp only [List.length_append, List.length_map, List.length_flatMap]
        omega
      have hEach : ∀ join ∈ joins, ∀ deeper, below = deeper + 1 →
          join.2.outputs.length ≤ columns * (relations + 1) ^ deeper := by
        rintro join hJoin deeper rfl
        obtain ⟨entry, hMem, hEntry⟩ := hJoins.exists_entry join hJoin
        obtain ⟨other, hSame, hInner⟩ := hWithin join hJoin
        cases Nat.succ.inj hSame
        have hInnerItems := ih entry hMem hEntry.planned (hOnce.2 entry hMem) hInner
        rw [length_selectItems, Plan.node_core_joins] at hInnerItems
        omega
      refine hItems.trans_le ?_
      cases below with
      | zero =>
          have hNone : joins = [] := List.eq_nil_iff_forall_not_mem.mpr fun join hJoin => by
            obtain ⟨other, hSame, -⟩ := hWithin join hJoin
            cases hSame
          rw [hNone, List.map_nil, List.sum_nil, pow_zero, Nat.mul_one]
          exact hFetched
      | succ deeper =>
          have hSum : (joins.map fun join => join.2.outputs.length).sum ≤
              relations * (columns * (relations + 1) ^ deeper) := by
            refine (List.sum_le_card_nsmul _ _ fun length hLength => ?_).trans
              (Nat.mul_le_mul_right _ ?_)
            · obtain ⟨join, hJoin, rfl⟩ := List.mem_map.mp hLength
              exact hEach join hJoin deeper rfl
            · rwa [List.length_map]
          have hOwn : columns ≤ columns * (relations + 1) ^ deeper :=
            Nat.le_mul_of_pos_right _ (Nat.pow_pos (Nat.succ_pos _))
          calc core.projection.length + core.hidden.length +
                (joins.map fun join => join.2.outputs.length).sum
              ≤ columns * (relations + 1) ^ deeper +
                  relations * (columns * (relations + 1) ^ deeper) := by omega
            _ = columns * (relations + 1) ^ (deeper + 1) := by ring

/-- **Limits**: where the tables are few and small, a plan that joins no relation twice is within
the limits on columns and on joined tables. -/
theorem Query.PlannedAs.fits {query : Query ι} {key : ι} {plan : Plan}
    (hPlanned : query.PlannedAs schema key plan) (hOnce : query.AsksOnce) {below : Nat}
    (hWithin : plan.Within below)
    (hColumns : columns * (relations + 1) ^ below ≤ StoredTable.columnLimit)
    (hRelations : relations < tableLimit) :
    plan.showsTooMany = false ∧ plan.joinsTooMany = false := by
  rw [Plan.showsTooMany, Plan.joinsTooMany, List.any_eq_false, List.any_eq_false]
  constructor
  · intro level hLevel
    obtain ⟨target, other, hLevelPlanned, hOtherOnce⟩ := hPlanned.of_mem_nodes level hLevel
    obtain ⟨deeper, hDeeper, hLevelWithin⟩ := Plan.within_of_mem_nodes hWithin hLevel
    have hItems : (selectItems level.1 level.2).length ≤ columns * (relations + 1) ^ deeper :=
      hLevelPlanned.length_selectItems_le hNamed hBounded (hOtherOnce hOnce) hLevelWithin
    have hPower : columns * (relations + 1) ^ deeper ≤ columns * (relations + 1) ^ below :=
      Nat.mul_le_mul_left _ (Nat.pow_le_pow_right (Nat.succ_pos _) hDeeper)
    rw [decide_eq_true_eq]
    omega
  · intro level hLevel
    obtain ⟨target, ⟨own, related⟩, hLevelPlanned, hOtherOnce⟩ :=
      hPlanned.of_mem_nodes level hLevel
    have hFew : level.2.length ≤ relations :=
      Query.AllPlannedAs.length_le hBounded hLevelPlanned.2 (hOtherOnce hOnce).1
    rw [decide_eq_true_eq]
    omega

end Widths

end ModelStore
