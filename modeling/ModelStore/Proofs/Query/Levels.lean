import ModelStore.Proofs.Query.Spelling
import ModelStore.Query.Scope

/-!
# The levels of a plan

A plan joins plans, and these join others.  Each of them is a level with a select list of its own,
and each is planned from a search that asks for no relation twice if the outermost one does.  So
what is shown of one plan holds at every level.

The store looks up the references of every level: those of the select list, of the conditions of the
joins, of the conjunction and of the sort keys.  It has nothing to refuse just if each of them fits
one column in the scope of its level.

## Main definitions

* `Table.NamesApart`: tables whose names keep apart as they are written.
* `references`: the references of one level.
* `Scope.Resolves`, `Scope.Names`: references that fit one column, and that fit some column.

## Main results

* `Query.PlannedAs.of_mem_nodes`: every level is planned from a search.
* `Query.PlannedAs.nodup_outputs`: the names of a level, shown or hidden, are distinct.
* `Plan.refusalAt_eq_none_iff`: a plan is not refused just if all of its references fit one column.
* `Plan.exists_of_refusalAt`: what is refused of a plan is one of its references.
-/

namespace ModelStore

open Sql (Expr ColumnRef)

variable {ι : Type} {schema : Schema ι}

/-! ## Levels -/

theorem Plan.mem_nodesOfJoins {joins : List (Link × Plan)}
    {level : PlanCore × List (Link × Plan)} :
    level ∈ Plan.nodesOfJoins joins ↔ ∃ join ∈ joins, level ∈ join.2.nodes := by
  induction joins with
  | nil => simp [Plan.nodesOfJoins]
  | cons join joins ih =>
      rw [Plan.nodesOfJoins, List.mem_append, ih]
      simp

/-- **Levels**: every level of a plan is planned from a search, which asks for no relation twice if
the search for the plan does not. -/
theorem Query.PlannedAs.of_mem_nodes {query : Query ι} :
    ∀ {key : ι} {plan : Plan}, query.PlannedAs schema key plan → ∀ level ∈ plan.nodes,
      ∃ target other, Query.PlannedAs schema target other (.node level.1 level.2) ∧
        (query.AsksOnce → other.AsksOnce) := by
  induction query using Query.induction with
  | node own related ih =>
      intro key plan hPlanned level hLevel
      obtain ⟨core, joins⟩ := plan
      rw [Plan.nodes, List.mem_cons] at hLevel
      rcases hLevel with rfl | hLevel
      · exact ⟨key, _, hPlanned, id⟩
      · obtain ⟨join, hJoin, hLevel⟩ := Plan.mem_nodesOfJoins.mp hLevel
        obtain ⟨entry, hMem, hEntry⟩ := Query.AllPlannedAs.exists_entry hPlanned.2 join hJoin
        obtain ⟨target, other, hOther, hOnce⟩ := ih entry hMem hEntry.planned level hLevel
        refine ⟨target, other, hOther, fun hAll => hOnce ?_⟩
        rw [Query.AsksOnce, Query.allAskOnce_iff] at hAll
        exact hAll.2 entry hMem

/-! ## Names as they are written -/

/-- A table whose names keep apart as they are written: those of its columns, those of its
relations, and those under which the columns of a relation are shown. -/
structure Table.NamesApart (table : Table ι) : Prop where
  columns_distinct : table.columnNames.Nodup
  relations_distinct : (table.relations.map (·.name)).Nodup
  unprefixed : ∀ relation ∈ table.relations,
    ∀ name ∈ table.columnNames ++ table.relations.map (·.name),
      ¬(relation.name ++ "_").toList <+: name.toList

instance (table : Table ι) : Decidable table.NamesApart :=
  decidable_of_iff
    (table.columnNames.Nodup ∧ (table.relations.map (·.name)).Nodup ∧
      ∀ relation ∈ table.relations, ∀ name ∈ table.columnNames ++ table.relations.map (·.name),
        ¬(relation.name ++ "_").toList <+: name.toList)
    ⟨fun ⟨h₁, h₂, h₃⟩ => ⟨h₁, h₂, h₃⟩, fun h => ⟨h.1, h.2, h.3⟩⟩

theorem Table.NamesApart.spelledApart {table : Table ι} (hApart : table.NamesApart) :
    table.SpelledApart .exact where
  columns_distinct := hApart.columns_distinct.map Spelling.spell_exact_injective
  relations_distinct := hApart.relations_distinct.map Spelling.spell_exact_injective
  unprefixed := by
    intro relation hRelation name hName
    have hJoined : joinedName relation.name "" = relation.name ++ "_" := by simp [joinedName]
    rw [Spelling.spell_exact, Spelling.spell_exact, hJoined]
    exact hApart.unprefixed relation hRelation name hName

/-- **Distinct names**: the columns that a plan shows have distinct names, together with those that
it fetches besides. -/
theorem Query.PlannedAs.nodup_outputs (hApart : ∀ key, (schema.table key).NamesApart)
    {query : Query ι} {key : ι} {plan : Plan} (hPlanned : query.PlannedAs schema key plan)
    (hOnce : query.AsksOnce) :
    (plan.outputs.map (·.name) ++ plan.core.hidden.map (·.name)).Nodup := by
  have hNodup := hPlanned.nodup_spelled (fun key => (hApart key).spelledApart) hOnce
  rw [← List.map_map, names_selectItems, Plan.node_core_joins] at hNodup
  exact hNodup.of_map

/-! ## References -/

/-- The references of one level of a plan: those of the select list, of the conditions of the joins,
of the conjunction and of the sort keys. -/
def references (core : PlanCore) (joins : List (Link × Plan)) : List ColumnRef :=
  (selectItems core joins).map (·.ref) ++
    joins.flatMap (fun join => [join.1.localRef core.table, join.1.referencedRef]) ++
    core.predicate.map Expr.ref ++ core.order.map (·.ref)

/-- Whether a reference fits one column in scope and no other. -/
def Scope.Resolves (scope : Scope) (ref : ColumnRef) : Prop := ∀ site, scope.refusal ref site = none

/-- Whether a reference names a table or joined relation in scope and a column under it. -/
def Scope.Names (scope : Scope) (ref : ColumnRef) : Prop :=
  ∃ item ∈ scope, ∃ name ∈ item.columns, ref = ⟨some item.name, name⟩

/-- That a reference is refused does not depend on where it stands. -/
theorem Scope.resolves_iff {scope : Scope} {ref : ColumnRef} (site : Option Site) :
    scope.Resolves ref ↔ scope.refusal ref site = none := by
  constructor
  · intro hResolves
    exact hResolves site
  · intro hNone other
    unfold Scope.refusal at hNone ⊢
    split <;> simp_all

theorem ScopeItem.fits_of_mem {item : ScopeItem} {name : String} (hName : name ∈ item.columns) :
    ScopeItem.fits ⟨some item.name, name⟩ item = true := by
  have hAny : item.columns.any (sameName name) = true :=
    List.any_eq_true.mpr ⟨name, hName, sameName_self name⟩
  simp [ScopeItem.fits, ScopeItem.isNamedBy, hAny]

/-- Where the names in scope are distinct, a reference that names one of them and a column under it
fits no other column. -/
theorem Scope.Names.resolves {scope : Scope} {ref : ColumnRef} (hNames : scope.Names ref)
    (hDistinct : DistinctNames (scope.map (·.name))) : scope.Resolves ref := by
  obtain ⟨item, hItem, name, hName, rfl⟩ := hNames
  intro site
  have hOne : scope.filter (ScopeItem.fits ⟨some item.name, name⟩) = [item] := by
    refine hDistinct.filter_eq hItem (ScopeItem.fits_of_mem hName) fun other _ hOther => ?_
    exact (Bool.and_eq_true_iff.mp hOther).1
  rw [Scope.refusal, hOne]
  rfl

theorem Scope.firstRefusal_eq_none_iff {scope : Scope} {sql : String} {gap : Nat}
    {refs : List (ColumnRef × String)} :
    ∀ {offset : Nat}, scope.firstRefusal sql gap offset refs = none ↔
      ∀ ref ∈ refs.map (·.1), scope.Resolves ref := by
  induction refs with
  | nil => simp [Scope.firstRefusal]
  | cons entry refs ih =>
      intro offset
      rw [Scope.firstRefusal, List.map_cons, List.forall_mem_cons,
        Scope.resolves_iff (some ⟨sql, offset⟩)]
      cases hEntry : scope.refusal entry.1 (some ⟨sql, offset⟩) with
      | none => simpa using ih
      | some e => simp

theorem Scope.joinRefusal_eq_none_iff {scope : Scope} {table : String} {link : Link} :
    scope.joinRefusal table link = none ↔
      scope.Resolves (link.localRef table) ∧ scope.Resolves link.referencedRef := by
  rw [Scope.joinRefusal, Option.or_eq_none_iff, Scope.resolves_iff none, Scope.resolves_iff none]

/-- What holds of all references of a level holds of those of each of its parts. -/
theorem forall_mem_references_iff {core : PlanCore} {joins : List (Link × Plan)}
    {p : ColumnRef → Prop} :
    (∀ ref ∈ references core joins, p ref) ↔
      (((∀ ref ∈ (selectItems core joins).map (·.ref), p ref) ∧
        ∀ join ∈ joins, p (join.1.localRef core.table) ∧ p join.1.referencedRef) ∧
        ∀ ref ∈ core.predicate.map Expr.ref, p ref) ∧ ∀ ref ∈ core.order.map (·.ref), p ref := by
  rw [references, List.forall_mem_append, List.forall_mem_append, List.forall_mem_append]
  simp only [List.forall_mem_flatMap, List.forall_mem_cons, List.not_mem_nil, false_implies,
    implies_true, and_true]

mutual

/-- **References**: a plan is not refused just if each reference of each of its levels fits one
column. -/
theorem Plan.refusalAt_eq_none_iff {store : Store} {sql : String} :
    ∀ {plan : Plan} {offset : Nat}, plan.refusalAt store sql offset = none ↔
      ∀ level ∈ plan.nodes, ∀ ref ∈ references level.1 level.2,
        (scopeOf store level.1 level.2).Resolves ref
  | .node core joins, offset => by
      rw [Plan.refusalAt, Plan.nodes, List.forall_mem_cons, forall_mem_references_iff]
      simp only [Option.or_eq_none_iff, Scope.firstRefusal_eq_none_iff, List.map_map,
        List.findSome?_eq_none_iff, Scope.joinRefusal_eq_none_iff, Plan.joinsRefusalAt_eq_none_iff,
        Function.comp_def]
      constructor
      · rintro ⟨⟨⟨⟨hJoins, hItems⟩, hTerms⟩, hLinks⟩, hOrder⟩
        exact ⟨⟨⟨⟨hItems, hLinks⟩, hTerms⟩, hOrder⟩, hJoins⟩
      · rintro ⟨⟨⟨⟨hItems, hLinks⟩, hTerms⟩, hOrder⟩, hJoins⟩
        exact ⟨⟨⟨⟨hJoins, hItems⟩, hTerms⟩, hLinks⟩, hOrder⟩

theorem Plan.joinsRefusalAt_eq_none_iff {store : Store} {sql table : String} :
    ∀ {joins : List (Link × Plan)} {offset : Nat},
      Plan.joinsRefusalAt store sql table offset joins = none ↔
        ∀ level ∈ Plan.nodesOfJoins joins, ∀ ref ∈ references level.1 level.2,
          (scopeOf store level.1 level.2).Resolves ref
  | [], offset => by simp [Plan.joinsRefusalAt, Plan.nodesOfJoins]
  | (link, plan) :: joins, offset => by
      rw [Plan.joinsRefusalAt, Plan.nodesOfJoins, List.forall_mem_append, Option.or_eq_none_iff,
        Plan.refusalAt_eq_none_iff, Plan.joinsRefusalAt_eq_none_iff]

end

/-! ## Refusals -/

/-- A reference in scope is refused only if it fits several columns. -/
theorem Scope.Names.refusal_cases {scope : Scope} {ref : ColumnRef} (hNames : scope.Names ref)
    {site : Option Site} {e : StoreError} (hRefusal : scope.refusal ref site = some e) :
    e = .ambiguousColumn (ColumnRef.cited ref) site := by
  obtain ⟨item, hItem, name, hName, rfl⟩ := hNames
  have hFits : item ∈ scope.filter (ScopeItem.fits ⟨some item.name, name⟩) :=
    List.mem_filter.mpr ⟨hItem, ScopeItem.fits_of_mem hName⟩
  unfold Scope.refusal at hRefusal
  split at hRefusal
  · rename_i hNone
    rw [List.length_eq_zero_iff.mp hNone] at hFits
    cases hFits
  · cases hRefusal
  · exact (Option.some.inj hRefusal).symm

theorem Scope.exists_of_firstRefusal {scope : Scope} {sql : String} {gap : Nat} {e : StoreError}
    {refs : List (ColumnRef × String)} :
    ∀ {offset : Nat}, scope.firstRefusal sql gap offset refs = some e →
      ∃ ref ∈ refs.map (·.1), ∃ site, scope.refusal ref site = some e := by
  induction refs with
  | nil => intro offset hRefusal; cases hRefusal
  | cons entry refs ih =>
      intro offset hRefusal
      rw [Scope.firstRefusal] at hRefusal
      split at hRefusal
      · rename_i hEntry
        cases hRefusal
        exact ⟨entry.1, List.mem_cons_self, _, hEntry⟩
      · obtain ⟨ref, hRef, hSite⟩ := ih hRefusal
        exact ⟨ref, List.mem_cons_of_mem _ hRef, hSite⟩

theorem Scope.exists_of_joinRefusal {scope : Scope} {table : String} {link : Link} {e : StoreError}
    (hRefusal : scope.joinRefusal table link = some e) :
    ∃ ref ∈ [link.localRef table, link.referencedRef], scope.refusal ref none = some e := by
  rcases Option.or_eq_some_iff.mp hRefusal with hLocal | ⟨-, hReferenced⟩
  · exact ⟨_, List.mem_cons_self, hLocal⟩
  · exact ⟨_, List.mem_cons_of_mem _ List.mem_cons_self, hReferenced⟩

mutual

/-- What is refused of a plan is a reference of one of its levels. -/
theorem Plan.exists_of_refusalAt {store : Store} {sql : String} {e : StoreError} :
    ∀ {plan : Plan} {offset : Nat}, plan.refusalAt store sql offset = some e →
      ∃ level ∈ plan.nodes, ∃ ref ∈ references level.1 level.2, ∃ site,
        (scopeOf store level.1 level.2).refusal ref site = some e
  | .node core joins, offset, hRefusal => by
      rw [Plan.refusalAt] at hRefusal
      simp only [Option.or_eq_some_iff] at hRefusal
      have hParts :=
        forall_mem_references_iff.mp fun ref (hRef : ref ∈ references core joins) => hRef
      have hOwn : ∀ {refs : List ColumnRef}, refs ⊆ references core joins →
          (∃ ref ∈ refs, ∃ site, (scopeOf store core joins).refusal ref site = some e) →
          ∃ level ∈ (Plan.node core joins).nodes, ∃ ref ∈ references level.1 level.2, ∃ site,
            (scopeOf store level.1 level.2).refusal ref site = some e := by
        rintro refs hSub ⟨ref, hRef, hSite⟩
        exact ⟨(core, joins), by rw [Plan.nodes]; exact List.mem_cons_self, ref, hSub hRef, hSite⟩
      rcases hRefusal with (((hJoins | ⟨-, hItems⟩) | ⟨-, hTerms⟩) | ⟨-, hLinks⟩) | ⟨-, hOrder⟩
      · obtain ⟨level, hLevel, hRef⟩ := Plan.exists_of_joinsRefusalAt hJoins
        refine ⟨level, ?_, hRef⟩
        rw [Plan.nodes]
        exact List.mem_cons_of_mem _ hLevel
      · refine hOwn ?_ (Scope.exists_of_firstRefusal hItems)
        rw [List.map_map]
        exact fun ref hRef => hParts.1.1.1 ref hRef
      · refine hOwn ?_ (Scope.exists_of_firstRefusal hTerms)
        rw [List.map_map]
        exact fun ref hRef => hParts.1.2 ref hRef
      · obtain ⟨join, hJoin, hLink⟩ := List.exists_of_findSome?_eq_some hLinks
        obtain ⟨ref, hRef, hSite⟩ := Scope.exists_of_joinRefusal hLink
        have hBoth := hParts.1.1.2 join hJoin
        refine @hOwn [ref] ?_ ⟨ref, List.mem_singleton_self ref, none, hSite⟩
        intro other hOther
        rw [List.mem_singleton.mp hOther]
        rcases List.mem_pair.mp hRef with rfl | rfl
        · exact hBoth.1
        · exact hBoth.2
      · refine hOwn ?_ (Scope.exists_of_firstRefusal hOrder)
        rw [List.map_map]
        exact fun ref hRef => hParts.2 ref hRef

theorem Plan.exists_of_joinsRefusalAt {store : Store} {sql table : String} {e : StoreError} :
    ∀ {joins : List (Link × Plan)} {offset : Nat},
      Plan.joinsRefusalAt store sql table offset joins = some e →
        ∃ level ∈ Plan.nodesOfJoins joins, ∃ ref ∈ references level.1 level.2, ∃ site,
          (scopeOf store level.1 level.2).refusal ref site = some e
  | [], offset, hRefusal => by cases hRefusal
  | (link, plan) :: joins, offset, hRefusal => by
      rw [Plan.joinsRefusalAt, Option.or_eq_some_iff] at hRefusal
      rw [Plan.nodesOfJoins]
      rcases hRefusal with hPlan | ⟨-, hJoins⟩
      · obtain ⟨level, hLevel, hRef⟩ := Plan.exists_of_refusalAt hPlan
        exact ⟨level, List.mem_append_left _ hLevel, hRef⟩
      · obtain ⟨level, hLevel, hRef⟩ := Plan.exists_of_joinsRefusalAt hJoins
        exact ⟨level, List.mem_append_right _ hLevel, hRef⟩

end

end ModelStore
