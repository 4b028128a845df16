import ModelStore.Proofs.Query.Reference

/-!
# What a plan is a plan of

Building a plan looks everything up that a search names, and reports on the way.  A plan that was
built has the shape of the search: on its own table it does what the search says of that table,
and it joins one plan for each relation that is asked for and exists, in the order of the caller.
A joined plan fetches its referenced field, shown or not, and nothing else is added to it.

## Main definitions

* `Yields`: the results of a step that reports.
* `PlanCore.PlannedAs`, `Query.PlannedAs`: plans that have the shape of a search.
* `JoinedAs`: joined plans that have the shape of the search for a relation.

## Main results

* `planned_of_buildPlan`: a plan that was built has the shape of the search.
-/

namespace ModelStore

open Sql (Expr ColumnRef)

/-! ## Steps that report -/

/-- A step comes to a result, whatever was reported before. -/
def Yields {α : Type} (step : Reporting α) (a : α) : Prop :=
  ∃ before after, step.run.run before = (.ok a, after)

section Steps

variable {α β : Type}

/-- Changing the result of a step that reports. -/
theorem Reporting.run_map (g : α → β) (step : Reporting α) (before : List Event) :
    (g <$> step).run.run before =
      ((step.run.run before).1.map g, (step.run.run before).2) := by
  rw [ExceptT.run_map, StateT.run_map]
  rfl

/-- Steps that report, one after another: the second one is taken only if the first one comes to a
result. -/
theorem Reporting.run_bind (step : Reporting α) (next : α → Reporting β)
    (before : List Event) :
    (step >>= next).run.run before =
      match step.run.run before with
      | (.ok a, between) => (next a).run.run between
      | (.error e, between) => (.error e, between) := by
  rw [ExceptT.run_bind, StateT.run_bind]
  rcases step.run.run before with ⟨_ | _, between⟩ <;> rfl

/-- Where a sequence of steps comes to a result, each of them does. -/
theorem Yields.of_bind {step : Reporting α} {next : α → Reporting β} {b : β}
    (hYields : Yields (step >>= next) b) : ∃ a, Yields step a ∧ Yields (next a) b := by
  obtain ⟨before, after, hRun⟩ := hYields
  rw [Reporting.run_bind] at hRun
  split at hRun
  · rename_i a between hStep
    exact ⟨a, ⟨before, between, hStep⟩, ⟨between, after, hRun⟩⟩
  · cases hRun

theorem Yields.of_pure {a b : α} (hYields : Yields (pure a) b) : a = b := by
  obtain ⟨before, after, hRun⟩ := hYields
  cases hRun
  rfl

theorem Yields.of_liftExcept {result : Except Error α} {a : α}
    (hYields : Yields (liftExcept result) a) : result = .ok a := by
  obtain ⟨before, after, hRun⟩ := hYields
  cases result with
  | error e => cases hRun
  | ok b =>
      cases hRun
      rfl

theorem not_yields_throw {e : Error} {a : α} : ¬Yields (throw e : Reporting α) a := by
  rintro ⟨before, after, hRun⟩
  cases hRun

end Steps

/-! ## The own table -/

variable {ι : Type}

/-- The selection shows what it is read to show. -/
theorem compileSelect_eq (table : Table ι) (select : Option (Fields Bool)) :
    compileSelect table select = table.selected select := by
  have hFlag : (fun column : Column => ((select.getD []).get? column.name).getD false) =
      fun column => (select.getD []).get? column.name == some true := by
    funext column
    cases (select.getD []).get? column.name with
    | none => rfl
    | some flag => cases flag <;> rfl
  rw [compileSelect, Table.selected, hFlag]

/-- Without a selection, all columns are shown. -/
theorem Table.selected_none (table : Table ι) : table.selected none = table.columns := by
  simp [selected, Fields.get?]

/-- The columns that a selection shows are columns of the table, in its order. -/
theorem Table.selected_sublist (table : Table ι) (select : Option (Fields Bool)) :
    (table.selected select).Sublist table.columns := by
  unfold Table.selected
  dsimp only
  split
  · exact List.Sublist.refl _
  · exact List.filter_sublist

/-- The sort key of a column. -/
def Table.sortKey (table : Table ι) (entry : String × Direction) : SortKey :=
  ⟨⟨some table.name, entry.1⟩, entry.2⟩

theorem compileOrderBy_eq_ok {table : Table ι} {orderBy : List (String × Direction)} :
    ∀ {order : List SortKey}, compileOrderBy table orderBy = .ok order →
      order = orderBy.map table.sortKey ∧
        ∀ entry ∈ orderBy, (table.column? entry.1).isSome = true := by
  induction orderBy with
  | nil =>
      intro order hOrder
      cases hOrder
      simp
  | cons entry orderBy ih =>
      intro order hOrder
      obtain ⟨name, direction⟩ := entry
      rw [compileOrderBy] at hOrder
      split at hOrder
      · cases hOrder
      · rename_i column hColumn
        obtain ⟨others, hOthers, hPure⟩ := bind_eq_ok.mp hOrder
        obtain ⟨rfl, hKnown⟩ := ih hOthers
        rw [← pure_eq_ok.mp hPure]
        exact ⟨rfl, List.forall_mem_cons.mpr ⟨by simp [hColumn], hKnown⟩⟩

/-- What a plan does on its own table, when it is that of a search.  Columns may be fetched besides
those that are shown. -/
structure PlanCore.PlannedAs (table : Table ι) (own : SearchOptions) (core : PlanCore) : Prop where
  table_eq : core.table = table.name
  projection_eq : core.projection = table.selected own.select
  hidden_mem : ∀ column ∈ core.hidden, column ∈ table.columns
  hidden_new : core.hidden.Nodup ∧ ∀ column ∈ core.hidden, column ∉ core.projection
  predicate_eq : compileFilter table (some table.name) own.filter = .ok core.predicate
  order_eq : core.order = (own.orderBy.getD []).map table.sortKey
  order_known : ∀ entry ∈ own.orderBy.getD [], (table.column? entry.1).isSome = true
  window_eq : core.window = ⟨own.take, own.skip⟩

theorem PlanCore.planned_of_build {table : Table ι} {own : SearchOptions} {core : PlanCore}
    (hBuild : PlanCore.build table own = .ok core) : core.PlannedAs table own := by
  obtain ⟨predicate, hPredicate, hRest⟩ := bind_eq_ok.mp hBuild
  obtain ⟨order, hOrder, hPure⟩ := bind_eq_ok.mp hRest
  obtain ⟨hKeys, hKnown⟩ := compileOrderBy_eq_ok hOrder
  rw [← pure_eq_ok.mp hPure]
  exact
    { table_eq := rfl
      projection_eq := compileSelect_eq table own.select
      hidden_mem := by simp
      hidden_new := by simp
      predicate_eq := hPredicate
      order_eq := hKeys
      order_known := hKnown
      window_eq := rfl }

/-! ## Plans -/

/-- How a relation is joined. -/
def Relation.link (relation : Relation ι) : Link :=
  ⟨relation.name, relation.localField, relation.referencedField⟩

@[simp] theorem Relation.link_name (relation : Relation ι) : relation.link.name = relation.name :=
  rfl

/-- Whether a plan fetches a column of a name, shown or not. -/
def Plan.Fetches (plan : Plan) (name : String) : Prop :=
  ∃ column ∈ plan.core.projection ++ plan.core.hidden, column.name = name

section Planned

variable (schema : Schema ι)

mutual

/-- Plans that have the shape of a search on the table of a key. -/
def Query.PlannedAs (key : ι) : Query ι → Plan → Prop
  | .node own related, plan =>
    plan.core.PlannedAs (schema.table key) own ∧ Query.AllPlannedAs key related plan.joins

/-- Joined plans that have the shapes of the searches for some relations of the table of a key. -/
def Query.AllPlannedAs (key : ι) : List (Relation ι × Query ι) → List (Link × Plan) → Prop
  | [], joins => joins = []
  | (relation, query) :: rest, joins =>
    ∃ plan others, joins = (relation.link, plan) :: others ∧
      relation ∈ (schema.table key).relations ∧ query.PlannedAs relation.target plan ∧
      plan.Fetches relation.referencedField ∧ Query.AllPlannedAs key rest others

end

/-- A joined plan that has the shape of the search for a relation of the table of a key. -/
structure JoinedAs (key : ι) (entry : Relation ι × Query ι) (join : Link × Plan) : Prop where
  link_eq : join.1 = entry.1.link
  relation_mem : entry.1 ∈ (schema.table key).relations
  planned : entry.2.PlannedAs schema entry.1.target join.2
  fetches : join.2.Fetches entry.1.referencedField

variable {schema}

theorem Query.PlannedAs.own_planned {key : ι} {query : Query ι} {plan : Plan}
    (hPlanned : query.PlannedAs schema key plan) :
    plan.core.PlannedAs (schema.table key) query.own := by
  cases query
  exact hPlanned.1

/-- Joined plans have the shapes of the searches for some relations if each has that of its own. -/
theorem Query.allPlannedAs_iff {key : ι} {related : List (Relation ι × Query ι)} :
    ∀ {joins : List (Link × Plan)}, Query.AllPlannedAs schema key related joins ↔
      List.Forall₂ (JoinedAs schema key) related joins := by
  induction related with
  | nil =>
      intro joins
      rw [Query.AllPlannedAs, List.forall₂_nil_left_iff]
  | cons entry related ih =>
      intro joins
      obtain ⟨relation, query⟩ := entry
      rw [Query.AllPlannedAs, List.forall₂_cons_left_iff]
      constructor
      · rintro ⟨plan, others, rfl, hMem, hPlan, hFetches, hOthers⟩
        exact ⟨_, others, ⟨rfl, hMem, hPlan, hFetches⟩, ih.mp hOthers, rfl⟩
      · rintro ⟨⟨link, plan⟩, others, hJoin, hOthers, rfl⟩
        have hLink : link = relation.link := hJoin.link_eq
        subst hLink
        exact ⟨plan, others, rfl, hJoin.relation_mem, hJoin.planned, hJoin.fetches, ih.mpr hOthers⟩

/-- Every joined plan has the shape of the search for one of the relations. -/
theorem Query.AllPlannedAs.exists_entry {key : ι} {related : List (Relation ι × Query ι)}
    {joins : List (Link × Plan)} (hJoins : Query.AllPlannedAs schema key related joins) :
    ∀ join ∈ joins, ∃ entry ∈ related, JoinedAs schema key entry join := by
  rw [Query.allPlannedAs_iff] at hJoins
  induction hJoins with
  | nil => simp
  | cons hJoin hJoins ih =>
      rw [List.forall_mem_cons]
      refine ⟨⟨_, List.mem_cons_self, hJoin⟩, fun join hMem => ?_⟩
      obtain ⟨entry, hEntry, hJoined⟩ := ih join hMem
      exact ⟨entry, List.mem_cons_of_mem _ hEntry, hJoined⟩

/-- Plans are joined under the names of the relations that are asked for. -/
theorem Query.AllPlannedAs.names_eq {key : ι} {related : List (Relation ι × Query ι)}
    {joins : List (Link × Plan)} (hJoins : Query.AllPlannedAs schema key related joins) :
    joins.map (·.1.name) = related.map (·.1.name) := by
  rw [Query.allPlannedAs_iff] at hJoins
  induction hJoins with
  | nil => rfl
  | cons hJoin hJoins ih => rw [List.map_cons, List.map_cons, ih, hJoin.link_eq]; rfl

/-- Fetching one more column of the table keeps the shape. -/
theorem Query.PlannedAs.expose {key : ι} {query : Query ι} {base plan : Plan} {field : String}
    (hPlanned : query.PlannedAs schema key base)
    (hExpose : base.expose (schema.table key) field = .ok plan) :
    query.PlannedAs schema key plan ∧ plan.Fetches field := by
  obtain ⟨own, related⟩ := query
  obtain ⟨core, joins⟩ := base
  obtain ⟨hCore, hJoins⟩ := hPlanned
  rw [Plan.expose] at hExpose
  split at hExpose
  · rename_i hAny
    cases hExpose
    refine ⟨⟨hCore, hJoins⟩, ?_⟩
    obtain ⟨column, hColumn, hName⟩ := List.any_eq_true.mp hAny
    exact ⟨column, hColumn, by simpa using hName⟩
  · rename_i hNone
    split at hExpose
    · rename_i column hColumn
      obtain ⟨hMem, rfl⟩ := Table.mem_of_column? hColumn
      have hNew : ∀ other ∈ core.projection ++ core.hidden, other ≠ column := by
        rintro other hOther rfl
        exact hNone (List.any_eq_true.mpr ⟨_, hOther, by simp⟩)
      cases hExpose
      refine ⟨⟨{ hCore with hidden_mem := ?_, hidden_new := ?_ }, hJoins⟩, column, ?_, rfl⟩
      · intro other hOther
        rcases List.mem_append.mp hOther with h | h
        · exact hCore.hidden_mem other h
        · exact List.mem_singleton.mp h ▸ hMem
      · obtain ⟨hNodup, hApart⟩ := hCore.hidden_new
        constructor
        · refine List.nodup_append.mpr ⟨hNodup, List.nodup_singleton _, ?_⟩
          rintro other hOther _ hSingle
          rw [List.mem_singleton.mp hSingle]
          exact hNew other (List.mem_append_right _ hOther)
        · intro other hOther hShown
          rcases List.mem_append.mp hOther with h | h
          · exact hApart other h hShown
          · exact hNew other (List.mem_append_left _ hShown) (List.mem_singleton.mp h)
      · simp [Plan.core]
    · cases hExpose

/-- The search in another window. -/
def Query.withWindow (window : Window) : Query ι → Query ι
  | .node own related => .node { own with take := window.limit, skip := window.offset } related

theorem Query.asksOnce_withWindow {query : Query ι} {window : Window} :
    (query.withWindow window).AsksOnce ↔ query.AsksOnce := by
  cases query
  rfl

/-- A plan in another window has the shape of the search in that window. -/
theorem Query.PlannedAs.withWindow {key : ι} {query : Query ι} {plan : Plan}
    (hPlanned : query.PlannedAs schema key plan) (window : Window) :
    (query.withWindow window).PlannedAs schema key (plan.withWindow window) := by
  obtain ⟨own, related⟩ := query
  obtain ⟨core, joins⟩ := plan
  obtain ⟨hCore, hJoins⟩ := hPlanned
  refine ⟨?_, hJoins⟩
  exact
    { table_eq := hCore.table_eq
      projection_eq := hCore.projection_eq
      hidden_mem := hCore.hidden_mem
      hidden_new := hCore.hidden_new
      predicate_eq := hCore.predicate_eq
      order_eq := hCore.order_eq
      order_known := hCore.order_known
      window_eq := rfl }

/-! ## Building -/

/-- Building what a search does on its own table. -/
theorem planned_of_buildCore {key : ι} {own : SearchOptions} {core : PlanCore}
    (hYields : Yields (buildCore schema key own) core) :
    core.PlannedAs (schema.table key) own :=
  PlanCore.planned_of_build hYields.of_liftExcept

/-- Joining a relation: it is passed over just if the table does not have it. -/
theorem planned_of_joinRelation {chain : List String} {key : ι} {name : String}
    {sub : ι → List String → Reporting Plan} {query : ι → Query ι} {joins : List (Link × Plan)}
    (hSub : ∀ target deeper plan, Yields (sub target deeper) plan →
      (query target).PlannedAs schema target plan)
    (hYields : Yields (joinRelation schema chain key name sub) joins) :
    Query.AllPlannedAs schema key (followRelation schema key name query) joins := by
  rw [joinRelation] at hYields
  split at hYields
  · rename_i hUnknown
    obtain ⟨_, -, hPure⟩ := hYields.of_bind
    rw [followRelation, hUnknown]
    exact hPure.of_pure.symm
  · rename_i relation hRelation
    dsimp only at hYields
    split at hYields
    · exact absurd hYields not_yields_throw
    · obtain ⟨base, hBase, hRest⟩ := hYields.of_bind
      obtain ⟨plan, hPlan, hPure⟩ := hRest.of_bind
      obtain ⟨hPlanned, hFetches⟩ :=
        (hSub relation.target _ base hBase).expose hPlan.of_liftExcept
      have hMem : relation ∈ (schema.table key).relations := List.mem_of_find?_eq_some hRelation
      rw [followRelation, hRelation, ← hPure.of_pure]
      exact ⟨plan, [], rfl, hMem, hPlanned, hFetches, rfl⟩

mutual

/-- **Building a plan**: a plan that was built has the shape of the search. -/
theorem planned_of_buildPlan {own : SearchOptions} :
    ∀ (includes : Option (List (String × Include))) {chain : List String} {key : ι} {plan : Plan},
      Yields (buildPlan schema chain key own includes) plan →
      (Query.resolve schema key own includes).PlannedAs schema key plan
  | none, chain, key, plan, hYields => by
      rw [buildPlan] at hYields
      obtain ⟨core, hCore, hPure⟩ := hYields.of_bind
      rw [Query.resolve, ← hPure.of_pure]
      exact ⟨planned_of_buildCore hCore, rfl⟩
  | some includes, chain, key, plan, hYields => by
      rw [buildPlan] at hYields
      obtain ⟨core, hCore, hRest⟩ := hYields.of_bind
      obtain ⟨joins, hJoins, hPure⟩ := hRest.of_bind
      rw [Query.resolve, ← hPure.of_pure]
      exact ⟨planned_of_buildCore hCore, planned_of_buildJoins includes hJoins⟩

/-- Plans of the relations that are asked for have the shapes of their searches. -/
theorem planned_of_buildJoins :
    ∀ (includes : List (String × Include)) {chain : List String} {key : ι}
      {joins : List (Link × Plan)},
      Yields (buildJoins schema chain key includes) joins →
      Query.AllPlannedAs schema key (resolveAll schema key includes) joins
  | [], chain, key, joins, hYields => by
      rw [buildJoins] at hYields
      exact hYields.of_pure.symm
  | (name, ask) :: rest, chain, key, joins, hYields => by
      rw [buildJoins] at hYields
      obtain ⟨first, hFirst, hRest⟩ := hYields.of_bind
      obtain ⟨others, hOthers, hPure⟩ := hRest.of_bind
      rw [resolveAll, ← hPure.of_pure, Query.allPlannedAs_iff]
      exact List.rel_append (Query.allPlannedAs_iff.mp (planned_of_buildJoin ask hFirst))
        (Query.allPlannedAs_iff.mp (planned_of_buildJoins rest hOthers))

/-- The plan of one relation has the shape of its search. -/
theorem planned_of_buildJoin :
    ∀ (ask : Include) {chain : List String} {key : ι} {name : String} {joins : List (Link × Plan)},
      Yields (buildJoin schema chain key name ask) joins →
      Query.AllPlannedAs schema key (resolveOne schema key name ask) joins
  | .flag false, chain, key, name, joins, hYields => by
      rw [buildJoin] at hYields
      exact hYields.of_pure.symm
  | .flag true, chain, key, name, joins, hYields => by
      rw [buildJoin] at hYields
      rw [resolveOne]
      refine planned_of_joinRelation (fun target deeper plan hPlan => ?_) hYields
      obtain ⟨core, hCore, hPure⟩ := hPlan.of_bind
      rw [← hPure.of_pure]
      exact ⟨planned_of_buildCore hCore, rfl⟩
  | .nested own includes, chain, key, name, joins, hYields => by
      rw [buildJoin] at hYields
      rw [resolveOne]
      exact planned_of_joinRelation
        (fun target deeper plan hPlan => planned_of_buildPlan includes hPlan) hYields

end

/-- The plan of a search has the shape of the search. -/
theorem planned_of_build {key : ι} {options : FindOptions} {plan : Plan} {events : List Event}
    (hBuilt : (Plan.build schema key options).run.run [] = (.ok plan, events)) :
    (Query.resolve schema key options.own options.includes).PlannedAs schema key plan :=
  planned_of_buildPlan options.includes ⟨[], events, hBuilt⟩

end Planned

end ModelStore
