import ModelStore.Proofs.Query.FirstFault
import ModelStore.Query.Mutation

/-!
# What can be wrong with options

Options are wrong if they name a column that the table does not have, give a list or an object
where a cell is wanted, change nothing, or ask for a relation whose table is being searched already.
Each of these shows while statements are compiled, and nothing else does: compiling fails just if
something is wrong, and never for a reason that only the store could have.

## Main definitions

* `Detects`, `Reporting.Detects`: steps that fail just if something is wrong.
* `Conditions.Faulty`, `Payload.Faulty`, `SearchOptions.Faulty`: what can be wrong on one table.
* `AskedFaulty`: what can be wrong with an include, at any depth.

## Main results

* `detects_compileFilter`, `detects_compilePayload`: conditions and payloads.
* `searchFaults_eq_nil_iff`: the list of what is wrong with a search is empty just if nothing is.
* `detects_build`: searches.
-/

namespace ModelStore

/-! ## Steps that detect what is wrong -/

/-- A result is there just if nothing is wrong; and the store has no part in what is. -/
def Detects {α : Type} (wrong : Prop) : Except Error α → Prop
  | .ok _ => ¬wrong
  | .error e => wrong ∧ e.kind ≠ .storage

/-- A step that reports detects what is wrong, whatever was reported before. -/
def Reporting.Detects {α : Type} (wrong : Prop) (step : Reporting α) : Prop :=
  ∀ before, ModelStore.Detects wrong (step.run.run before).1

section Detects

variable {α β : Type} {wrong other : Prop} {result : Except Error α} {step : Reporting α}

/-- What is wrong shows as a failure that is not the store's. -/
theorem Detects.iff_error (hDetects : Detects wrong result) :
    wrong ↔ ∃ e, result = .error e ∧ e.kind ≠ .storage := by
  cases result with
  | ok a => exact iff_of_false hDetects (by simp)
  | error e => exact iff_of_true hDetects.1 ⟨e, rfl, hDetects.2⟩

theorem Detects.congr (hDetects : Detects wrong result) (hIff : wrong ↔ other) :
    Detects other result := propext hIff ▸ hDetects

theorem detects_ok (a : α) : Detects False (.ok a) := not_false

theorem detects_error {e : Error} (hKind : e.kind ≠ .storage) :
    Detects True (.error e : Except Error α) := ⟨trivial, hKind⟩

/-- Something is wrong with steps one after another if it is with one of them. -/
theorem Detects.bind {next : α → Except Error β} (hFirst : Detects wrong result)
    (hNext : ∀ a, result = .ok a → Detects other (next a)) :
    Detects (wrong ∨ other) (result >>= next) := by
  cases result with
  | error e => exact ⟨.inl hFirst.1, hFirst.2⟩
  | ok a => exact (hNext a rfl).congr (or_iff_right hFirst).symm

theorem Detects.map (hDetects : Detects wrong result) (g : α → β) : Detects wrong (g <$> result) := by
  cases result <;> exact hDetects

namespace Reporting

theorem Detects.congr (hDetects : Reporting.Detects wrong step) (hIff : wrong ↔ other) :
    Reporting.Detects other step := propext hIff ▸ hDetects

theorem detects_pure (a : α) : Reporting.Detects False (pure a) := fun _ => detects_ok a

theorem detects_throw {e : Error} (hKind : e.kind ≠ .storage) :
    Reporting.Detects True (throw e : Reporting α) := fun _ => detects_error hKind

theorem detects_report (event : Event) : Reporting.Detects False (report event) :=
  fun _ => detects_ok ()

theorem detects_liftExcept (hDetects : ModelStore.Detects wrong result) :
    Reporting.Detects wrong (liftExcept result) := by
  intro before
  cases result <;> exact hDetects

/-- Something is wrong with steps one after another if it is with one of them. -/
theorem Detects.bind {next : α → Reporting β} (hFirst : Reporting.Detects wrong step)
    (hNext : ∀ a, Yields step a → Reporting.Detects other (next a)) :
    Reporting.Detects (wrong ∨ other) (step >>= next) := by
  intro before
  have hBefore := hFirst before
  rw [run_bind]
  rcases hRun : step.run.run before with ⟨e | a, between⟩
  · rw [hRun] at hBefore
    exact ⟨.inl hBefore.1, hBefore.2⟩
  · rw [hRun] at hBefore
    exact (hNext a ⟨before, between, hRun⟩ between).congr (or_iff_right hBefore).symm

/-- A last step that cannot fail. -/
theorem Detects.bind_pure (hFirst : Reporting.Detects wrong step) (make : α → β) :
    Reporting.Detects wrong (do return make (← step)) :=
  (hFirst.bind fun a _ => detects_pure (make a)).congr (or_iff_left not_false)

end Reporting

end Detects

/-- A step that fails with the first of some faults detects whether there is one. -/
theorem FailsFirst.detects {α : Type} {wrong : Prop} {result : Except Error α}
    {faults : List Error} (hFirst : FailsFirst faults result) (hIff : faults = [] ↔ ¬wrong) :
    Detects wrong result := by
  cases result with
  | ok a => exact hIff.mp hFirst
  | error e =>
      have hSome : faults ≠ [] := List.ne_nil_of_mem (List.mem_of_head? hFirst.1)
      exact ⟨not_not.mp fun hSound => hSome (hIff.mpr hSound), hFirst.2⟩

/-! ## Values and conditions -/

variable {ι : Type}

theorem compoundFaults_eq_nil_iff {column : String} {values : List Json} :
    compoundFaults column values = [] ↔ ¬∃ value ∈ values, value.isCompound = true := by
  simp [compoundFaults]

theorem Table.unknownFaults_eq_nil_iff {table : Table ι} {names : List String} :
    table.unknownFaults names = [] ↔ ¬∃ name ∈ names, table.column? name = none := by
  simp [unknownFaults, Option.ne_none_iff_isSome]

/-- A list or an object is no cell, and everything else is one. -/
theorem detects_cell (column : String) (value : Json) :
    Detects (value.isCompound = true) (Cell.ofJson column value) :=
  (first_cell column value).detects (by simp [compoundFaults_eq_nil_iff])

/-- Conditions with a column that the table does not have, or with an operand that is no cell. -/
def Conditions.Faulty (table : Table ι) (conditions : Conditions) : Prop :=
  ∃ entry ∈ conditions, table.column? entry.1 = none ∨
    ∃ operand ∈ entry.2.operands, operand.isCompound = true

theorem Conditions.faults_eq_nil_iff {table : Table ι} {conditions : Conditions} :
    conditions.faults table = [] ↔ ¬conditions.Faulty table := by
  simp only [Conditions.faults, Conditions.Faulty, List.append_eq_nil_iff,
    Table.unknownFaults_eq_nil_iff, List.flatMap_eq_nil_iff, compoundFaults_eq_nil_iff,
    List.mem_map, exists_exists_and_eq_and, and_or_left, exists_or, not_or, not_exists, not_and]

theorem detects_conditions (table : Table ι) (qualifier : Option String)
    (conditions : Conditions) :
    Detects (conditions.Faulty table) (conditions.compile table qualifier) :=
  (first_conditions table qualifier conditions).detects Conditions.faults_eq_nil_iff

/-- **Conditions** are compiled just if nothing is wrong with them. -/
theorem detects_compileFilter (table : Table ι) (qualifier : Option String)
    (filter : Option Conditions) :
    Detects (∃ conditions ∈ filter, conditions.Faulty table)
      (compileFilter table qualifier filter) := by
  cases filter with
  | none => exact (detects_ok []).congr (by simp)
  | some conditions => exact (detects_conditions table qualifier conditions).congr (by simp)

/-! ## Payloads and statements -/

/-- A payload with a column that the table does not have, or with a value that is no cell. -/
def Payload.Faulty (table : Table ι) (data : Payload) : Prop :=
  ∃ entry ∈ data, table.column? entry.1 = none ∨ entry.2.isCompound = true

/-- **Payloads** are compiled just if nothing is wrong with them. -/
theorem detects_compilePayload (table : Table ι) (data : Payload) :
    Detects (data.Faulty table) (Payload.compile table data) := by
  induction data with
  | nil => exact (detects_ok []).congr (by simp [Payload.Faulty])
  | cons entry data ih =>
      obtain ⟨name, value⟩ := entry
      rw [Payload.compile]
      split
      · rename_i hNone
        exact ⟨⟨_, List.mem_cons_self, .inl hNone⟩, ErrorKind.noConfusion⟩
      · rename_i column hColumn
        refine Detects.congr ((detects_cell column.name value).bind fun _ _ =>
          ih.bind fun _ _ => detects_ok _) ?_
        simp [Payload.Faulty, hColumn]

namespace Table

variable (table : Table ι)

theorem detects_insertion (ids : Nat → String) (data : Payload) :
    Detects (data.Faulty table) (table.insertion ids data) :=
  ((detects_compilePayload table data).bind fun _ _ => detects_ok _).congr (or_iff_left not_false)

/-- A change has to change something. -/
theorem detects_change (filter : Option Conditions) (data : Payload) (returning : Bool) :
    Detects (data = [] ∨ data.Faulty table ∨ ∃ conditions ∈ filter, conditions.Faulty table)
      (table.change filter data returning) := by
  unfold change
  split
  · rename_i hEmpty
    exact ⟨.inl (List.isEmpty_iff.mp hEmpty), ErrorKind.noConfusion⟩
  · rename_i hSome
    refine Detects.congr ((detects_compilePayload table data).bind fun _ _ =>
      (detects_compileFilter table none filter).bind fun _ _ => detects_ok _) ?_
    rw [or_false, or_iff_right fun hNil => hSome (List.isEmpty_iff.mpr hNil)]

/-- A statement that is made of a conjunction. -/
theorem detects_filtered {α : Type} (filter : Option Conditions) (make : List Sql.Expr → α) :
    Detects (∃ conditions ∈ filter, conditions.Faulty table)
      (do return make (← compileFilter table none filter)) :=
  ((detects_compileFilter table none filter).bind fun _ _ => detects_ok _).congr
    (or_iff_left not_false)

end Table

/-! ## Searches -/

/-- A search with something wrong in its conditions, or sorted by a column that its table does not
have. -/
def SearchOptions.Faulty (table : Table ι) (own : SearchOptions) : Prop :=
  (∃ conditions ∈ own.filter, conditions.Faulty table) ∨
    ∃ entry ∈ own.orderBy.getD [], table.column? entry.1 = none

theorem SearchOptions.faults_eq_nil_iff {table : Table ι} {own : SearchOptions} :
    own.faults table = [] ↔ ¬own.Faulty table := by
  have hFilter : (own.filter.elim [] fun conditions => conditions.faults table) = [] ↔
      ¬∃ conditions ∈ own.filter, conditions.Faulty table := by
    cases own.filter <;> simp [Conditions.faults_eq_nil_iff]
  rw [faults, List.append_eq_nil_iff, hFilter, Table.unknownFaults_eq_nil_iff, Faulty, not_or]
  simp

theorem PlanCore.detects_build (table : Table ι) (own : SearchOptions) :
    Detects (own.Faulty table) (PlanCore.build table own) :=
  (PlanCore.first_build table own).detects SearchOptions.faults_eq_nil_iff

variable (schema : Schema ι)

/-- Whether anything is asked of a relation. -/
def Include.isAsked : Include → Bool
  | .flag value => value
  | .nested .. => true

/-- What can be wrong with an include of a table, which is the last of a chain: its relation leads
back into the chain, or to a field that is not there, or something is wrong with the search of the
relation or with one of the includes below. -/
inductive AskedFaulty : List String → ι → String × Include → Prop where
  | cycle {chain : List String} {key : ι} {name : String} {ask : Include} {relation : Relation ι}
      (hAsked : ask.isAsked = true) (hRelation : (schema.table key).relation? name = some relation)
      (hChain : (schema.table relation.target).name ∈ chain) : AskedFaulty chain key (name, ask)
  | field {chain : List String} {key : ι} {name : String} {ask : Include} {relation : Relation ι}
      (hAsked : ask.isAsked = true) (hRelation : (schema.table key).relation? name = some relation)
      (hField : (schema.table relation.target).column? relation.referencedField = none) :
      AskedFaulty chain key (name, ask)
  | own {chain : List String} {key : ι} {name : String} {own : SearchOptions}
      {includes : Option Includes} {relation : Relation ι}
      (hRelation : (schema.table key).relation? name = some relation)
      (hOwn : own.Faulty (schema.table relation.target)) :
      AskedFaulty chain key (name, .nested own includes)
  | nested {chain : List String} {key : ι} {name : String} {own : SearchOptions}
      {includes : Option Includes} {relation : Relation ι} {entry : String × Include}
      (hRelation : (schema.table key).relation? name = some relation)
      (hEntry : entry ∈ includes.getD [])
      (hBelow : AskedFaulty (chain ++ [(schema.table relation.target).name]) relation.target
        entry) :
      AskedFaulty chain key (name, .nested own includes)

/-- Something is wrong with a search, or with one of its includes. -/
def SearchFaulty (chain : List String) (key : ι) (own : SearchOptions)
    (includes : Option Includes) : Prop :=
  own.Faulty (schema.table key) ∨ ∃ entry ∈ includes.getD [], AskedFaulty schema chain key entry

/-- Something is wrong with a search on the table of a key. -/
def FindOptions.Faulty (key : ι) (options : FindOptions) : Prop :=
  SearchFaulty schema [(schema.table key).name] key options.own options.includes

/-- What is wrong with an include, its relation aside, which leads to a table in a longer chain. -/
def Include.FaultyAt (target : ι) (deeper : List String) : Include → Prop
  | .flag _ => False
  | .nested own includes => SearchFaulty schema deeper target own includes

variable {schema}

theorem askedFaulty_iff {chain : List String} {key : ι} {name : String} {ask : Include} :
    AskedFaulty schema chain key (name, ask) ↔ ask.isAsked = true ∧
      ∃ relation, (schema.table key).relation? name = some relation ∧
        ((schema.table relation.target).name ∈ chain ∨
          ask.FaultyAt schema relation.target
            (chain ++ [(schema.table relation.target).name]) ∨
          (schema.table relation.target).column? relation.referencedField = none) := by
  constructor
  · intro hFaulty
    cases hFaulty with
    | cycle hAsked hRelation hChain => exact ⟨hAsked, _, hRelation, .inl hChain⟩
    | field hAsked hRelation hField => exact ⟨hAsked, _, hRelation, .inr (.inr hField)⟩
    | own hRelation hOwn => exact ⟨rfl, _, hRelation, .inr (.inl (.inl hOwn))⟩
    | nested hRelation hEntry hBelow =>
        exact ⟨rfl, _, hRelation, .inr (.inl (.inr ⟨_, hEntry, hBelow⟩))⟩
  · rintro ⟨hAsked, relation, hRelation, hChain | hAt | hField⟩
    · exact .cycle hAsked hRelation hChain
    · cases ask with
      | flag value => cases hAt
      | nested own includes =>
          rcases hAt with hOwn | ⟨entry, hEntry, hBelow⟩
          · exact .own hRelation hOwn
          · exact .nested hRelation hEntry hBelow
    · exact .field hAsked hRelation hField

/-! ## Nothing wrong -/

section Sound

variable {chain : List String} {key : ι} {name : String}

/-- Nothing is wrong with joining a relation that does not exist, or that leads on to a plan with
which nothing is wrong. -/
theorem joinFaults_eq_nil_iff {sub : ι → List String → List Error} {wrong : ι → List String → Prop}
    (hSub : ∀ target deeper, sub target deeper = [] ↔ ¬wrong target deeper) :
    joinFaults schema chain key name sub = [] ↔
      ¬∃ relation, (schema.table key).relation? name = some relation ∧
        ((schema.table relation.target).name ∈ chain ∨
          wrong relation.target (chain ++ [(schema.table relation.target).name]) ∨
          (schema.table relation.target).column? relation.referencedField = none) := by
  rw [joinFaults]
  cases hRelation : (schema.table key).relation? name with
  | none => simp
  | some relation =>
      simp only [Option.some.injEq, exists_eq_left']
      by_cases hChain : (schema.table relation.target).name ∈ chain
      · simp [hChain]
      · simp [hChain, hSub, Table.unknownFaults_eq_nil_iff]

mutual

/-- The list of what is wrong with a search is empty just if nothing is. -/
theorem searchFaults_eq_nil_iff {own : SearchOptions} :
    ∀ (includes : Option (List (String × Include))) (chain : List String) (key : ι),
      searchFaults schema chain key own includes = [] ↔
        ¬SearchFaulty schema chain key own includes
  | none, chain, key => by
      rw [searchFaults, SearchOptions.faults_eq_nil_iff]
      simp [SearchFaulty]
  | some includes, chain, key => by
      rw [searchFaults, List.append_eq_nil_iff, SearchOptions.faults_eq_nil_iff,
        includesFaults_eq_nil_iff includes chain key, ← not_or]
      rfl

theorem includesFaults_eq_nil_iff :
    ∀ (includes : List (String × Include)) (chain : List String) (key : ι),
      includesFaults schema chain key includes = [] ↔
        ¬∃ entry ∈ includes, AskedFaulty schema chain key entry
  | [], chain, key => by
      rw [includesFaults]
      simp
  | (name, ask) :: rest, chain, key => by
      rw [includesFaults, List.append_eq_nil_iff, includeFaults_eq_nil_iff ask chain key name,
        includesFaults_eq_nil_iff rest chain key, ← not_or]
      simp

theorem includeFaults_eq_nil_iff :
    ∀ (ask : Include) (chain : List String) (key : ι) (name : String),
      includeFaults schema chain key name ask = [] ↔ ¬AskedFaulty schema chain key (name, ask)
  | .flag false, chain, key, name => by
      rw [includeFaults]
      simp [askedFaulty_iff, Include.isAsked]
  | .flag true, chain, key, name => by
      have hNothing : ∀ (_ : ι) (_ : List String), ([] : List Error) = [] ↔ ¬False := by simp
      rw [includeFaults, askedFaulty_iff, joinFaults_eq_nil_iff hNothing]
      exact not_congr (and_iff_right rfl).symm
  | .nested own includes, chain, key, name => by
      rw [includeFaults, askedFaulty_iff,
        joinFaults_eq_nil_iff fun target deeper => searchFaults_eq_nil_iff includes deeper target]
      exact not_congr (and_iff_right rfl).symm

end

/-- **Searches** are planned just if nothing is wrong with them. -/
theorem detects_build (key : ι) (options : FindOptions) :
    Reporting.Detects (options.Faulty schema key) (Plan.build schema key options) := fun before =>
  (first_build key options before).detects (searchFaults_eq_nil_iff options.includes _ key)

end Sound

end ModelStore
