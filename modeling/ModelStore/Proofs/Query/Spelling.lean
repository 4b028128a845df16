import ModelStore.Proofs.Query.Planning

/-!
# Names in a select list

A plan shows the columns of a joined relation under the name of the relation, an underscore and
their own names, and so on with each relation further out.  Where no column and no relation of a
table begins like that, all names of a select list are distinct, whatever is asked for and however
deep.

Whether two names are the same depends on how they are compared: letter by letter as they are
written, or regardless of the case of their letters.  The argument is the same for both, since
either way an underscore is like no other letter.

## Main definitions

* `Spelling`: a way to compare names letter by letter.
* `Table.SpelledApart`: tables whose names keep apart in a spelling.

## Main results

* `relation_of_joinedName_eq`: when names under relations can be the same.
* `Query.PlannedAs.nodup_spelled`: the names in the select list of a plan keep apart if those of the
  tables do.
-/

namespace ModelStore

variable {ι : Type}

/-! ## Spellings -/

/-- A way to compare names letter by letter.  The underscore stays as it is. -/
structure Spelling where
  letter : Char → Char
  line : letter '_' = '_'

namespace Spelling

/-- Letters as they are written. -/
def exact : Spelling := ⟨id, rfl⟩

/-- Letters regardless of their case. -/
def folded : Spelling := ⟨Char.toLower, rfl⟩

/-- A name as it is compared. -/
def spell (spelling : Spelling) (name : String) : List Char := name.toList.map spelling.letter

theorem spell_exact (name : String) : exact.spell name = name.toList := List.map_id _

theorem spell_exact_injective : Function.Injective exact.spell := by
  intro a b hSame
  rw [spell_exact, spell_exact] at hSame
  exact String.toList_inj.mp hSame

variable {spelling : Spelling}

theorem spell_joinedName (spelling : Spelling) (relation name : String) :
    spelling.spell (joinedName relation name) =
      spelling.spell relation ++ '_' :: spelling.spell name := by
  have hLine : "_".toList = ['_'] := rfl
  simp [spell, joinedName, hLine, spelling.line]

/-- A name under a relation begins with the name of the relation and an underscore. -/
theorem prefix_joinedName (spelling : Spelling) (relation name : String) :
    spelling.spell (joinedName relation "") <+: spelling.spell (joinedName relation name) := by
  refine ⟨spelling.spell name, ?_⟩
  rw [spell_joinedName, spell_joinedName]
  simp [spell]

/-- Names under two relations are the same only if one relation has the name of the other, or begins
with it and an underscore. -/
theorem relation_of_joinedName_eq {a b x y : String}
    (hSame : spelling.spell (joinedName a x) = spelling.spell (joinedName b y)) :
    spelling.spell a = spelling.spell b ∨
      spelling.spell (joinedName a "") <+: spelling.spell b ∨
      spelling.spell (joinedName b "") <+: spelling.spell a := by
  have hPrefix : ∀ {a b : String} {rest : List Char},
      spelling.spell b = spelling.spell a ++ '_' :: rest →
        spelling.spell (joinedName a "") <+: spelling.spell b := by
    intro a b rest h
    refine ⟨rest, ?_⟩
    rw [h, spell_joinedName]
    simp [spell]
  rw [spell_joinedName, spell_joinedName, List.append_eq_append_iff] at hSame
  rcases hSame with ⟨rest, hb, hRest⟩ | ⟨rest, ha, hRest⟩
  · cases rest with
    | nil => exact .inl (by simpa using hb.symm)
    | cons c rest =>
        obtain ⟨rfl, -⟩ := List.cons.inj hRest
        exact .inr (.inl (hPrefix hb))
  · cases rest with
    | nil => exact .inl (by simpa using ha)
    | cons c rest =>
        obtain ⟨rfl, -⟩ := List.cons.inj hRest
        exact .inr (.inr (hPrefix ha))

/-- The same relation shows different names under different names. -/
theorem joinedName_inj {relation x y : String}
    (hSame : spelling.spell (joinedName relation x) = spelling.spell (joinedName relation y)) :
    spelling.spell x = spelling.spell y := by
  rw [spell_joinedName, spell_joinedName] at hSame
  simpa using hSame

end Spelling

/-! ## Tables whose names keep apart -/

/-- A table whose names keep apart from each other in a spelling: those of its columns, those of its
relations, and those under which the columns of a relation are shown. -/
structure Table.SpelledApart (spelling : Spelling) (table : Table ι) : Prop where
  columns_distinct : (table.columnNames.map spelling.spell).Nodup
  relations_distinct : ((table.relations.map (·.name)).map spelling.spell).Nodup
  unprefixed : ∀ relation ∈ table.relations,
    ∀ name ∈ table.columnNames ++ table.relations.map (·.name),
      ¬spelling.spell (joinedName relation.name "") <+: spelling.spell name

namespace Table.SpelledApart

variable {spelling : Spelling} {table : Table ι}

/-- No column of a table has a name under one of its relations. -/
theorem column_ne_joinedName (hApart : table.SpelledApart spelling) {relation : Relation ι}
    (hRelation : relation ∈ table.relations) {column : Column} (hColumn : column ∈ table.columns)
    (name : String) :
    spelling.spell column.name ≠ spelling.spell (joinedName relation.name name) := by
  intro hSame
  refine hApart.unprefixed relation hRelation column.name ?_
    (hSame ▸ spelling.prefix_joinedName _ name)
  exact List.mem_append_left _ (List.mem_map_of_mem hColumn)

/-- Names under relations are the same only under the same relation. -/
theorem relation_eq_of_joinedName (hApart : table.SpelledApart spelling) {a b : Relation ι}
    (ha : a ∈ table.relations) (hb : b ∈ table.relations) {x y : String}
    (hSame : spelling.spell (joinedName a.name x) = spelling.spell (joinedName b.name y)) :
    spelling.spell a.name = spelling.spell b.name := by
  have hName : ∀ {c : Relation ι}, c ∈ table.relations →
      c.name ∈ table.columnNames ++ table.relations.map (·.name) :=
    fun hc => List.mem_append_right _ (List.mem_map_of_mem hc)
  rcases Spelling.relation_of_joinedName_eq hSame with h | h | h
  · exact h
  · exact absurd h (hApart.unprefixed a ha b.name (hName hb))
  · exact absurd h (hApart.unprefixed b hb a.name (hName ha))

end Table.SpelledApart

/-! ## The names of a plan -/

theorem Plan.node_core_joins (plan : Plan) : Plan.node plan.core plan.joins = plan := by
  cases plan
  rfl

/-- The columns that joined plans show, one plan after another. -/
theorem Plan.outputsOfJoins_eq (joins : List (Link × Plan)) :
    Plan.outputsOfJoins joins = joins.flatMap fun join =>
      join.2.outputs.map fun column => ⟨joinedName join.1.name column.name, column.type⟩ := by
  induction joins with
  | nil => rfl
  | cons join joins ih => rw [Plan.outputsOfJoins, ih, List.flatMap_cons]

/-- The names in a select list are those of the columns shown, and then those of the hidden ones. -/
theorem names_selectItems (core : PlanCore) (joins : List (Link × Plan)) :
    (selectItems core joins).map (·.name) =
      (Plan.node core joins).outputs.map (·.name) ++ core.hidden.map (·.name) := by
  rw [Plan.outputs, Plan.outputsOfJoins_eq]
  simp [selectItems, SelectItem.joined, SelectItem.own, OutputColumn.of, List.map_flatMap,
    Function.comp_def]

/-- The hidden columns come on top of the columns that a plan shows. -/
theorem length_selectItems (core : PlanCore) (joins : List (Link × Plan)) :
    (selectItems core joins).length =
      (Plan.node core joins).outputs.length + core.hidden.length := by
  have hNames := congrArg List.length (names_selectItems core joins)
  rwa [List.length_append, List.length_map, List.length_map, List.length_map] at hNames

/-- The columns that a plan fetches of its own table are columns of the table. -/
theorem PlanCore.PlannedAs.fetched_mem {table : Table ι} {own : SearchOptions} {core : PlanCore}
    (hCore : core.PlannedAs table own) :
    ∀ column ∈ core.projection ++ core.hidden, column ∈ table.columns := by
  rw [List.forall_mem_append, hCore.projection_eq]
  exact ⟨(table.selected_sublist own.select).subset, hCore.hidden_mem⟩

section Distinct

variable {spelling : Spelling} {schema : Schema ι}
  (hApart : ∀ key, (schema.table key).SpelledApart spelling)

include hApart

/-- The columns that a plan fetches of its own table have distinct names. -/
theorem PlanCore.PlannedAs.nodup_fetched {key : ι} {own : SearchOptions} {core : PlanCore}
    (hCore : core.PlannedAs (schema.table key) own) :
    ((core.projection ++ core.hidden).map (spelling.spell ∘ Column.name)).Nodup := by
  have hNames : ((schema.table key).columns.map (spelling.spell ∘ Column.name)).Nodup := by
    have hColumns := (hApart key).columns_distinct
    rwa [Table.columnNames, List.map_map] at hColumns
  have hShown : core.projection.Sublist (schema.table key).columns :=
    hCore.projection_eq ▸ (schema.table key).selected_sublist own.select
  have hNodup : (core.projection ++ core.hidden).Nodup :=
    ((List.Nodup.of_map _ hNames).sublist hShown).append hCore.hidden_new.1
      fun column hIn hHidden => hCore.hidden_new.2 column hHidden hIn
  refine hNodup.map_on fun a ha b hb hSame => ?_
  exact List.inj_on_of_nodup_map hNames (hCore.fetched_mem a ha) (hCore.fetched_mem b hb) hSame

variable {key : ι} {related : List (Relation ι × Query ι)} {joins : List (Link × Plan)}
  (hJoins : Query.AllPlannedAs schema key related joins)
  (hOnce : (related.map (·.1.name)).Nodup)

include hJoins hOnce

/-- The relations that are joined have distinct names if none is asked for twice. -/
theorem Query.AllPlannedAs.nodup_links :
    (joins.map (spelling.spell ∘ fun join => join.1.name)).Nodup := by
  rw [← hJoins.names_eq] at hOnce
  rw [← List.map_map]
  refine hOnce.map_on fun a ha b hb hSame => ?_
  obtain ⟨join, hJoin, rfl⟩ := List.mem_map.mp ha
  obtain ⟨other, hOther, rfl⟩ := List.mem_map.mp hb
  obtain ⟨entry, -, hEntry⟩ := hJoins.exists_entry join hJoin
  obtain ⟨another, -, hAnother⟩ := hJoins.exists_entry other hOther
  rw [hEntry.link_eq, hAnother.link_eq] at hSame ⊢
  have hRelations := (hApart key).relations_distinct
  rw [List.map_map] at hRelations
  have hSameRelation : entry.1 = another.1 :=
    List.inj_on_of_nodup_map hRelations hEntry.relation_mem hAnother.relation_mem hSame
  rw [hSameRelation]

/-- The names under which joined plans show their columns are distinct, if those of each plan
are. -/
theorem Query.AllPlannedAs.nodup_joined
    (hEach : ∀ join ∈ joins, (join.2.outputs.map (spelling.spell ∘ OutputColumn.name)).Nodup) :
    (joins.flatMap fun join => join.2.outputs.map fun column =>
      spelling.spell (joinedName join.1.name column.name)).Nodup := by
  refine List.nodup_flatMap.mpr ⟨fun join hJoin => ?_, ?_⟩
  · -- Under one relation, names are as different as those of its plan.
    refine List.pairwise_map.mpr ((List.pairwise_map.mp (hEach join hJoin)).imp fun hNe hSame => ?_)
    exact hNe (Spelling.joinedName_inj hSame)
  · -- Under two relations, names differ because the relations do.
    have hLinks := hJoins.nodup_links hApart hOnce
    refine (List.pairwise_map.mp hLinks).imp_of_mem fun {a b} ha hb hNe => ?_
    intro name hA hB
    obtain ⟨x, -, rfl⟩ := List.mem_map.mp hA
    obtain ⟨y, -, hSame⟩ := List.mem_map.mp hB
    obtain ⟨left, -, hLeft⟩ := hJoins.exists_entry a ha
    obtain ⟨right, -, hRight⟩ := hJoins.exists_entry b hb
    rw [hLeft.link_eq, hRight.link_eq] at hSame
    refine hNe ?_
    rw [Function.comp_apply, Function.comp_apply, hLeft.link_eq, hRight.link_eq]
    exact ((hApart key).relation_eq_of_joinedName hRight.relation_mem hLeft.relation_mem
      hSame).symm

omit hJoins hOnce

/-- **Distinct names**: the names in the select list of a plan are distinct, at every level, if no
relation is asked for twice. -/
theorem Query.PlannedAs.nodup_spelled {query : Query ι} :
    ∀ {key : ι} {plan : Plan}, query.PlannedAs schema key plan → query.AsksOnce →
      ((selectItems plan.core plan.joins).map (spelling.spell ∘ SelectItem.name)).Nodup := by
  induction query using Query.induction with
  | node own related ih =>
      intro key plan hPlanned hOnce
      obtain ⟨core, joins⟩ := plan
      obtain ⟨hCore, hJoins⟩ := hPlanned
      simp only [Plan.core, Plan.joins] at hCore hJoins ⊢
      rw [Query.AsksOnce, Query.allAskOnce_iff] at hOnce
      have hEach : ∀ join ∈ joins,
          (join.2.outputs.map (spelling.spell ∘ OutputColumn.name)).Nodup := by
        intro join hJoin
        obtain ⟨entry, hMem, hEntry⟩ := hJoins.exists_entry join hJoin
        have hItems := ih entry hMem hEntry.planned (hOnce.2 entry hMem)
        rw [← List.map_map, names_selectItems, Plan.node_core_joins, List.map_append,
          List.map_map] at hItems
        exact hItems.sublist (List.sublist_append_left _ _)
      have hJoined := hJoins.nodup_joined hApart hOnce.1 hEach
      have hOwn := hCore.nodup_fetched hApart
      have hDisjoint :
          List.Disjoint ((core.projection ++ core.hidden).map (spelling.spell ∘ Column.name))
            (joins.flatMap fun join => join.2.outputs.map fun column =>
              spelling.spell (joinedName join.1.name column.name)) := by
        intro name hColumn hUnder
        obtain ⟨column, hFetched, rfl⟩ := List.mem_map.mp hColumn
        obtain ⟨join, hJoin, hName⟩ := List.mem_flatMap.mp hUnder
        obtain ⟨output, -, hSame⟩ := List.mem_map.mp hName
        obtain ⟨entry, -, hEntry⟩ := hJoins.exists_entry join hJoin
        rw [hEntry.link_eq] at hSame
        exact (hApart key).column_ne_joinedName hEntry.relation_mem
          (hCore.fetched_mem column hFetched) output.name hSame.symm
      have hAll := hOwn.append hJoined hDisjoint
      rw [List.map_append, List.append_assoc] at hAll
      have hNames : (selectItems core joins).map (spelling.spell ∘ SelectItem.name) =
          core.projection.map (spelling.spell ∘ Column.name) ++
            ((joins.flatMap fun join => join.2.outputs.map fun column =>
              spelling.spell (joinedName join.1.name column.name)) ++
            core.hidden.map (spelling.spell ∘ Column.name)) := by
        rw [← List.map_map, names_selectItems, Plan.outputs, Plan.outputsOfJoins_eq]
        simp [OutputColumn.of, List.map_flatMap, Function.comp_def]
      rw [hNames]
      exact (List.perm_append_comm.append_left _).nodup_iff.mp hAll

end Distinct

end ModelStore
