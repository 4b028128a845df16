import Mathlib.Data.Finset.Card
import Mathlib.Logic.Relation
import ModelStore.Proofs.Query.Faults

/-!
# Paths of includes

An include that is asked for, and whose relation exists, leads from one search to another.  From the
search of a caller such steps lead along paths, each of which is a chain of tables.  A search can be
planned just if nothing is wrong anywhere on these paths: no chain comes back to a table, no search
is wrong on its own table, and the fields that relations refer to are there.

Since no chain of a planned search comes back, none is longer than there are tables.

## Main definitions

* `Visit`: a search that is met, with the chain of tables that leads to it.
* `Visit.Follows`, `Visit.Leads`: one step along an include, and any number of them.
* `Visit.Stuck`: a search that is met and can be no part of a plan.
* `Recurs`: a chain that comes back to one of its tables for the first time.

## Main results

* `Visit.faulty_iff`: something is wrong with a search just if a path leads to where it is.
* `exists_recurs_of_mem_faults`: a cycle that is told is the chain of a path that comes back.
* `Visit.depth_lt_card`: chains that do not come back are shorter than there are tables.
-/

namespace ModelStore

variable {ι : Type}

/-! ## Steps and paths -/

/-- A search that is met while includes are followed: on the table of a key, which is the last of
the chain of tables that leads there. -/
structure Visit (ι : Type) where
  chain : List String
  key : ι
  options : FindOptions

/-- The search that is made where something is asked of a relation. -/
def Include.search? : Include → Option FindOptions
  | .flag false => none
  | .flag true => some .empty
  | .nested own includes => some ⟨own, includes⟩

/-- A search as the caller makes it. -/
def FindOptions.visit (schema : Schema ι) (key : ι) (options : FindOptions) : Visit ι :=
  ⟨[(schema.table key).name], key, options⟩

namespace Visit

/-- How many includes lead to a search: one for every table of its chain but the first. -/
def depth (visit : Visit ι) : Nat := visit.chain.length - 1

section Paths

variable (schema : Schema ι)

/-- An include that is asked for leads through its relation, if that exists, to a search. -/
inductive Follows : Visit ι → Relation ι → Visit ι → Prop where
  | step {visit : Visit ι} {name : String} {ask : Include} {relation : Relation ι}
      {options : FindOptions} (hEntry : (name, ask) ∈ visit.options.includes.getD [])
      (hAsked : ask.search? = some options)
      (hRelation : (schema.table visit.key).relation? name = some relation) :
      Follows visit relation
        ⟨visit.chain ++ [(schema.table relation.target).name], relation.target, options⟩

/-- Includes that are asked for lead from a search to a search. -/
def Leads : Visit ι → Visit ι → Prop :=
  Relation.ReflTransGen fun visit next => ∃ relation, visit.Follows schema relation next

/-- Something is wrong with a search. -/
def Faulty (visit : Visit ι) : Prop :=
  SearchFaulty schema visit.chain visit.key visit.options.own visit.options.includes

/-- A search that is met but can be no part of a plan: its chain comes back to a table, something is
wrong on its own table, or one of its relations refers to a field that is not there. -/
def Stuck (visit : Visit ι) : Prop :=
  ¬visit.chain.Nodup ∨ visit.options.own.Faulty (schema.table visit.key) ∨
    ∃ relation next, visit.Follows schema relation next ∧
      (schema.table next.key).column? relation.referencedField = none

end Paths

variable {schema : Schema ι} {visit next : Visit ι} {relation : Relation ι}

theorem Follows.chain_eq (hFollows : visit.Follows schema relation next) :
    next.chain = visit.chain ++ [(schema.table next.key).name] := by
  cases hFollows
  rfl

end Visit

section Asked

variable {schema : Schema ι}

theorem Include.isAsked_of_search? {ask : Include} {options : FindOptions}
    (hAsked : ask.search? = some options) : ask.isAsked = true := by
  cases ask with
  | flag value =>
      cases value
      · cases hAsked
      · rfl
  | nested own includes => rfl

theorem Include.exists_search? {ask : Include} (hAsked : ask.isAsked = true) :
    ∃ options, ask.search? = some options := by
  cases ask with
  | flag value =>
      obtain rfl : value = true := hAsked
      exact ⟨_, rfl⟩
  | nested own includes => exact ⟨_, rfl⟩

/-- What is wrong with an include is what is wrong with the search that is made for it. -/
theorem Include.faultyAt_iff {ask : Include} {options : FindOptions}
    (hAsked : ask.search? = some options) (target : ι) (deeper : List String) :
    ask.FaultyAt schema target deeper ↔
      SearchFaulty schema deeper target options.own options.includes := by
  cases ask with
  | flag value =>
      cases value with
      | false => cases hAsked
      | true =>
          cases hAsked
          simp [FaultyAt, SearchFaulty, FindOptions.empty, SearchOptions.empty,
            SearchOptions.Faulty]
  | nested own includes =>
      cases hAsked
      exact Iff.rfl

end Asked

namespace Visit

variable {schema : Schema ι} {visit next : Visit ι} {relation : Relation ι}

/-- **Steps**: something is wrong with a search just if it is on its own table, or with one of the
relations that it follows: it leads back, its field is not there, or something is wrong with the
search that it leads to. -/
theorem faulty_iff_step :
    visit.Faulty schema ↔ visit.options.own.Faulty (schema.table visit.key) ∨
      ∃ relation next, visit.Follows schema relation next ∧
        ((schema.table next.key).name ∈ visit.chain ∨ next.Faulty schema ∨
          (schema.table next.key).column? relation.referencedField = none) := by
  refine or_congr_right ⟨?_, ?_⟩
  · rintro ⟨⟨name, ask⟩, hEntry, hFaulty⟩
    obtain ⟨hIs, relation, hRelation, hWrong⟩ := askedFaulty_iff.mp hFaulty
    obtain ⟨options, hAsked⟩ := Include.exists_search? hIs
    rw [Include.faultyAt_iff hAsked] at hWrong
    exact ⟨relation, _, .step hEntry hAsked hRelation, hWrong⟩
  · rintro ⟨relation, next, hFollows, hWrong⟩
    cases hFollows with
    | step hEntry hAsked hRelation =>
        exact ⟨_, hEntry, askedFaulty_iff.mpr ⟨Include.isAsked_of_search? hAsked, relation,
          hRelation, hWrong.imp_right (.imp_left (Include.faultyAt_iff hAsked _ _).mpr)⟩⟩

/-- What is wrong with an include of a search is met on a path that begins with it. -/
theorem exists_stuck_of_asked {chain : List String} {key : ι} {entry : String × Include}
    (hFaulty : AskedFaulty schema chain key entry) :
    ∀ visit : Visit ι, visit.chain = chain → visit.key = key →
      entry ∈ visit.options.includes.getD [] →
      ∃ stuck, visit.Leads schema stuck ∧ stuck.Stuck schema := by
  induction hFaulty with
  | cycle hIs hRelation hChain =>
      rintro visit rfl rfl hEntry
      obtain ⟨options, hAsked⟩ := Include.exists_search? hIs
      refine ⟨_, .single ⟨_, .step hEntry hAsked hRelation⟩, .inl fun hNodup => ?_⟩
      exact List.disjoint_of_nodup_append hNodup hChain (List.mem_singleton_self _)
  | field hIs hRelation hField =>
      rintro visit rfl rfl hEntry
      obtain ⟨options, hAsked⟩ := Include.exists_search? hIs
      exact ⟨visit, .refl, .inr (.inr ⟨_, _, .step hEntry hAsked hRelation, hField⟩)⟩
  | own hRelation hOwn =>
      rintro visit rfl rfl hEntry
      exact ⟨_, .single ⟨_, .step hEntry rfl hRelation⟩, .inr (.inl hOwn)⟩
  | nested hRelation hBelow _ ih =>
      rintro visit rfl rfl hEntry
      obtain ⟨stuck, hLeads, hStuck⟩ := ih ⟨_, _, ⟨_, _⟩⟩ rfl rfl hBelow
      exact ⟨stuck, .head ⟨_, .step hEntry rfl hRelation⟩ hLeads, hStuck⟩

/-- **Paths**: something is wrong with a search just if a path leads from it to where it is. -/
theorem faulty_iff (hNodup : visit.chain.Nodup) :
    visit.Faulty schema ↔ ∃ stuck, visit.Leads schema stuck ∧ stuck.Stuck schema := by
  constructor
  · rintro (hOwn | ⟨entry, hEntry, hFaulty⟩)
    · exact ⟨visit, .refl, .inr (.inl hOwn)⟩
    · exact exists_stuck_of_asked hFaulty visit rfl rfl hEntry
  · rintro ⟨stuck, hLeads, hStuck⟩
    -- Up the path: the first step that comes back is wrong, and so is all that leads to it.
    induction hLeads using Relation.ReflTransGen.head_induction_on with
    | refl =>
        rcases hStuck with hRepeats | hOwn | ⟨relation, next, hFollows, hField⟩
        · exact absurd hNodup hRepeats
        · exact .inl hOwn
        · exact faulty_iff_step.mpr (.inr ⟨relation, next, hFollows, .inr (.inr hField)⟩)
    | @head visit next hStep _ ih =>
        obtain ⟨relation, hFollows⟩ := hStep
        refine faulty_iff_step.mpr (.inr ⟨relation, next, hFollows, ?_⟩)
        by_cases hMem : (schema.table next.key).name ∈ visit.chain
        · exact .inl hMem
        · refine .inr (.inl (ih ?_))
          rw [hFollows.chain_eq]
          exact hNodup.append (List.nodup_singleton _) (List.disjoint_singleton.mpr hMem)

end Visit

/-! ## Cycles -/

/-- A chain that comes back to one of its tables for the first time. -/
def Recurs (path : List String) : Prop :=
  ∃ chain name, path = chain ++ [name] ∧ chain.Nodup ∧ name ∈ chain

section Cycles

variable {schema : Schema ι} {path : List String}

theorem includeCycle_notMem_unknownFaults (table : Table ι) (names : List String) :
    .includeCycle path ∉ table.unknownFaults names := by
  simp [Table.unknownFaults]

/-- What is wrong on the own table of a search is no cycle. -/
theorem includeCycle_notMem_faults (table : Table ι) (own : SearchOptions) :
    .includeCycle path ∉ own.faults table := by
  have hConditions : ∀ conditions : Conditions, .includeCycle path ∉ conditions.faults table := by
    simp [Conditions.faults, includeCycle_notMem_unknownFaults, compoundFaults]
  rw [SearchOptions.faults, List.mem_append, not_or]
  refine ⟨?_, includeCycle_notMem_unknownFaults table _⟩
  cases own.filter with
  | none => exact List.not_mem_nil
  | some conditions => exact hConditions conditions

/-- A cycle that is told of a relation leads back by itself or lies below. -/
theorem exists_of_mem_joinFaults {chain : List String} {key : ι} {name : String}
    {sub : ι → List String → List Error}
    (hMem : .includeCycle path ∈ joinFaults schema chain key name sub) :
    ∃ relation, (schema.table key).relation? name = some relation ∧
      ((schema.table relation.target).name ∈ chain ∧
          path = chain ++ [(schema.table relation.target).name] ∨
        (schema.table relation.target).name ∉ chain ∧
          .includeCycle path ∈ sub relation.target
            (chain ++ [(schema.table relation.target).name])) := by
  rw [joinFaults] at hMem
  split at hMem
  · cases hMem
  · rename_i relation hRelation
    refine ⟨relation, hRelation, ?_⟩
    dsimp only at hMem
    split_ifs at hMem with hChain
    · exact .inl ⟨hChain, Error.includeCycle.inj (List.mem_singleton.mp hMem)⟩
    · exact .inr ⟨hChain, (List.mem_append.mp hMem).resolve_right
        (includeCycle_notMem_unknownFaults _ _)⟩

/-- A cycle that an include is told to close is the chain of a path, if what is told below it is. -/
theorem Visit.exists_recurs_of_join {visit : Visit ι} {name : String} {ask : Include}
    {options : FindOptions} {sub : ι → List String → List Error} (hNodup : visit.chain.Nodup)
    (hEntry : (name, ask) ∈ visit.options.includes.getD []) (hAsked : ask.search? = some options)
    (hMem : .includeCycle path ∈ joinFaults schema visit.chain visit.key name sub)
    (hBelow : ∀ next : Visit ι, next.options = options → next.chain.Nodup →
      .includeCycle path ∈ sub next.key next.chain →
        ∃ last, next.Leads schema last ∧ last.chain = path ∧ Recurs path) :
    ∃ last, visit.Leads schema last ∧ last.chain = path ∧ Recurs path := by
  obtain ⟨relation, hRelation, ⟨hChain, rfl⟩ | ⟨hChain, hSub⟩⟩ := exists_of_mem_joinFaults hMem
  · exact ⟨_, .single ⟨relation, .step hEntry hAsked hRelation⟩, rfl, _, _, rfl, hNodup, hChain⟩
  · have hDeeper := hNodup.append (List.nodup_singleton _) (List.disjoint_singleton.mpr hChain)
    obtain ⟨last, hLeads, hLast⟩ := hBelow ⟨_, relation.target, options⟩ rfl hDeeper hSub
    exact ⟨last, .head ⟨relation, .step hEntry hAsked hRelation⟩ hLeads, hLast⟩

mutual

/-- **Cycles**: a cycle that is told of a search is the chain of a path that comes back to a table
for the first time. -/
theorem exists_recurs_of_mem_faults {own : SearchOptions} :
    ∀ (includes : Option (List (String × Include))) (visit : Visit ι),
      visit.options = ⟨own, includes⟩ → visit.chain.Nodup →
      .includeCycle path ∈ searchFaults schema visit.chain visit.key own includes →
      ∃ last, visit.Leads schema last ∧ last.chain = path ∧ Recurs path
  | none, visit, _, _, hMem => by
      rw [searchFaults] at hMem
      exact absurd hMem (includeCycle_notMem_faults _ _)
  | some includes, visit, hOptions, hNodup, hMem => by
      rw [searchFaults, List.mem_append] at hMem
      refine exists_recurs_of_mem_includesFaults includes visit (fun entry hEntry => ?_) hNodup
        (hMem.resolve_left (includeCycle_notMem_faults _ _))
      rw [hOptions]
      exact hEntry

theorem exists_recurs_of_mem_includesFaults :
    ∀ (includes : List (String × Include)) (visit : Visit ι),
      (∀ entry ∈ includes, entry ∈ visit.options.includes.getD []) → visit.chain.Nodup →
      .includeCycle path ∈ includesFaults schema visit.chain visit.key includes →
      ∃ last, visit.Leads schema last ∧ last.chain = path ∧ Recurs path
  | [], visit, _, _, hMem => by
      rw [includesFaults] at hMem
      exact absurd hMem List.not_mem_nil
  | (name, ask) :: rest, visit, hEntries, hNodup, hMem => by
      obtain ⟨hEntry, hRest⟩ := List.forall_mem_cons.mp hEntries
      rw [includesFaults, List.mem_append] at hMem
      rcases hMem with hHere | hLater
      · exact exists_recurs_of_mem_includeFaults ask visit name hEntry hNodup hHere
      · exact exists_recurs_of_mem_includesFaults rest visit hRest hNodup hLater

theorem exists_recurs_of_mem_includeFaults :
    ∀ (ask : Include) (visit : Visit ι) (name : String),
      (name, ask) ∈ visit.options.includes.getD [] → visit.chain.Nodup →
      .includeCycle path ∈ includeFaults schema visit.chain visit.key name ask →
      ∃ last, visit.Leads schema last ∧ last.chain = path ∧ Recurs path
  | .flag false, visit, name, _, _, hMem => by
      rw [includeFaults] at hMem
      exact absurd hMem List.not_mem_nil
  | .flag true, visit, name, hEntry, hNodup, hMem => by
      rw [includeFaults] at hMem
      exact Visit.exists_recurs_of_join hNodup hEntry rfl hMem fun _ _ _ hNone =>
        absurd hNone List.not_mem_nil
  | .nested own includes, visit, name, hEntry, hNodup, hMem => by
      rw [includeFaults] at hMem
      exact Visit.exists_recurs_of_join hNodup hEntry rfl hMem fun next hNext hDeeper =>
        exists_recurs_of_mem_faults includes next hNext hDeeper

end

end Cycles

/-! ## Depth -/

namespace Visit

variable {schema : Schema ι} {visit last : Visit ι} {names : Finset String}

/-- Along a path, chains only have names of tables, if the first one has. -/
theorem Leads.forall_mem_chain (hNames : ∀ key, (schema.table key).name ∈ names)
    (hLeads : visit.Leads schema last) (hVisit : ∀ name ∈ visit.chain, name ∈ names) :
    ∀ name ∈ last.chain, name ∈ names := by
  induction hLeads with
  | refl => exact hVisit
  | tail _ hStep ih =>
      obtain ⟨relation, hFollows⟩ := hStep
      rw [hFollows.chain_eq]
      exact List.forall_mem_append.mpr ⟨ih, List.forall_mem_singleton.mpr (hNames _)⟩

/-- **Depth**: a search whose chain does not come back is below fewer includes than there are
tables. -/
theorem depth_lt_card (hNames : ∀ key, (schema.table key).name ∈ names) {key : ι}
    {options : FindOptions} (hLeads : (options.visit schema key).Leads schema last)
    (hNodup : last.chain.Nodup) : last.depth < names.card := by
  have hChain : last.chain.toFinset ⊆ names := fun name hName =>
    hLeads.forall_mem_chain hNames (List.forall_mem_singleton.mpr (hNames key)) name
      (List.mem_toFinset.mp hName)
  have hLength : last.chain.length ≤ names.card :=
    List.toFinset_card_of_nodup hNodup ▸ Finset.card_le_card hChain
  have hSome : 0 < names.card := Finset.card_pos.mpr ⟨_, hNames key⟩
  unfold depth
  omega

end Visit

end ModelStore
