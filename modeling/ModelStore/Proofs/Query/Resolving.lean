import ModelStore.Proofs.Query.Nesting
import ModelStore.Schema.BuiltIn

/-!
# One chain for all includes

Plans are built with the chain of tables passed down, so that no include sees the chain of another.
A resolver that has only one chain can do the same: it appends the table of a relation before it
builds the plan, takes it off again whether that succeeds or fails, and only then looks at the
result.  Such a resolver returns what building a plan returns, and leaves its chain as it found it.

## Main definitions

* `Resolving`: steps that may fail, and either way leave a chain and reports.
* `resolvePlan`, `resolveJoins`: building a plan with one chain.
* `Mirrors`: a step does what another does, and leaves the chain as it was.

## Main results

* `mirrors_resolvePlan`: the resolver builds the plan, and leaves its chain as it was.
* `Plan.build_exact`: when plans are built, what is told when they are not, and how deep they are.
-/

namespace ModelStore

/-! ## Steps with one chain -/

/-- A step that may fail.  Either way it leaves the chain of the tables that are being joined, and
reports. -/
abbrev Resolving (α : Type) := ExceptT Error (StateM (List String × List Event)) α

namespace Resolving

variable {α β : Type}

/-- The chain of the tables that are being joined. -/
def chain : Resolving (List String) := return (← get).1

/-- Appends a table to the chain. -/
def push (name : String) : Resolving Unit := modify fun state => (state.1 ++ [name], state.2)

/-- Takes the last table off the chain. -/
def pop : Resolving Unit := modify fun state => (state.1.dropLast, state.2)

/-- Reports a diagnostic. -/
def report (event : Event) : Resolving Unit := modify fun state => (state.1, state.2 ++ [event])

/-- A step that only may fail. -/
def lift : Except Error α → Resolving α
  | .ok a => return a
  | .error e => throw e

/-- Hands over what comes of a step, which may be a failure. -/
def outcome (step : Resolving α) : Resolving (Except Error α) := ExceptT.lift step.run

/-- Takes a step with one table more on the chain, which is taken off before the failure of the step
is raised. -/
def within (name : String) (step : Resolving α) : Resolving α := do
  push name
  let result ← outcome step
  pop
  lift result

theorem run_bind (step : Resolving α) (next : α → Resolving β) (before : List String × List Event) :
    (step >>= next).run.run before =
      match step.run.run before with
      | (.ok a, between) => (next a).run.run between
      | (.error e, between) => (.error e, between) := by
  rw [ExceptT.run_bind, StateT.run_bind]
  rcases step.run.run before with ⟨_ | _, between⟩ <;> rfl

end Resolving

/-! ## The resolver -/

section Resolver

variable {ι : Type} (schema : Schema ι)

/-- Joins the plan of a relation, made by `sub` from the key of its target. -/
def resolveRelation (key : ι) (name : String) (sub : ι → Resolving Plan) :
    Resolving (List (Link × Plan)) := do
  match (schema.table key).relation? name with
  | none =>
    Resolving.report (.unknownRelation (schema.table key).name name)
    return []
  | some relation =>
    let target := schema.table relation.target
    let chain ← Resolving.chain
    if chain.contains target.name then throw (.includeCycle (chain ++ [target.name]))
    else
      let plan ← Resolving.within target.name (sub relation.target)
      let plan ← Resolving.lift (plan.expose target relation.referencedField)
      return [(⟨relation.name, relation.localField, relation.referencedField⟩, plan)]

/-- The plan of a search without includes. -/
def resolveCore (key : ι) (own : SearchOptions) : Resolving PlanCore :=
  Resolving.lift (PlanCore.build (schema.table key) own)

mutual

/-- The plan of a search on the table of a key, which is the last of the chain. -/
def resolvePlan (key : ι) (own : SearchOptions) :
    Option (List (String × Include)) → Resolving Plan
  | none => do return .node (← resolveCore schema key own) []
  | some includes => do
    let core ← resolveCore schema key own
    return .node core (← resolveJoins key includes)

/-- The joined plans of the relations that are asked for. -/
def resolveJoins (key : ι) : List (String × Include) → Resolving (List (Link × Plan))
  | [] => return []
  | (name, ask) :: rest => do
    let join ← resolveJoin key name ask
    return join ++ (← resolveJoins key rest)

/-- The joined plan of one relation, if it is asked for and exists. -/
def resolveJoin (key : ι) (name : String) : Include → Resolving (List (Link × Plan))
  | .flag false => return []
  | .flag true =>
    resolveRelation schema key name fun target => do
      return .node (← resolveCore schema target .empty) []
  | .nested own includes =>
    resolveRelation schema key name fun target => resolvePlan target own includes

end

end Resolver

/-! ## What the resolver does -/

/-- With some chain, a step comes to what another comes to, and leaves the chain as it was. -/
def Mirrors {α : Type} (chain : List String) (step : Resolving α) (plain : Reporting α) : Prop :=
  ∀ events, step.run.run (chain, events) =
    ((plain.run.run events).1, chain, (plain.run.run events).2)

section Mirrors

variable {α β : Type} {chain : List String} {step : Resolving α} {plain : Reporting α}

theorem mirrors_pure (a : α) : Mirrors chain (pure a) (pure a) := fun _ => rfl

theorem mirrors_throw (e : Error) :
    Mirrors chain (throw e : Resolving α) (throw e) := fun _ => rfl

theorem mirrors_report (event : Event) :
    Mirrors chain (Resolving.report event) (report event) := fun _ => rfl

theorem mirrors_lift (result : Except Error α) :
    Mirrors chain (Resolving.lift result) (liftExcept result) := by
  cases result <;> exact fun _ => rfl

theorem Mirrors.bind {next : α → Resolving β} {plainNext : α → Reporting β}
    (hFirst : Mirrors chain step plain) (hNext : ∀ a, Mirrors chain (next a) (plainNext a)) :
    Mirrors chain (step >>= next) (plain >>= plainNext) := by
  intro events
  rw [Resolving.run_bind, Reporting.run_bind, hFirst events]
  rcases plain.run.run events with ⟨e | a, between⟩
  · rfl
  · exact hNext a between

/-- The chain is known wherever it is asked for. -/
theorem Mirrors.of_chain {next : List String → Resolving α}
    (hNext : Mirrors chain (next chain) plain) :
    Mirrors chain (Resolving.chain >>= next) plain := by
  intro events
  rw [Resolving.run_bind]
  exact hNext events

/-- A table that is pushed is taken off again, whatever comes of the step between. -/
theorem Mirrors.within {name : String} (hStep : Mirrors (chain ++ [name]) step plain) :
    Mirrors chain (Resolving.within name step) plain := by
  intro events
  have hOutcome : (Resolving.outcome step).run.run (chain ++ [name], events) =
      (.ok (plain.run.run events).1, chain ++ [name], (plain.run.run events).2) := by
    change (Except.ok (step.run.run (chain ++ [name], events)).1,
      (step.run.run (chain ++ [name], events)).2) = _
    rw [hStep events]
  have hPop : Resolving.pop.run.run (chain ++ [name], (plain.run.run events).2) =
      (.ok (), chain, (plain.run.run events).2) := by
    change (Except.ok (), (chain ++ [name]).dropLast, _) = _
    rw [List.dropLast_concat]
  have hPush : (Resolving.push name).run.run (chain, events) =
      (.ok (), chain ++ [name], events) := rfl
  rw [Resolving.within, Resolving.run_bind, hPush]
  dsimp only
  rw [Resolving.run_bind, hOutcome]
  dsimp only
  rw [Resolving.run_bind, hPop]
  cases (plain.run.run events).1 <;> rfl

variable {ι : Type} {schema : Schema ι}

theorem mirrors_resolveCore (key : ι) (own : SearchOptions) :
    Mirrors chain (resolveCore schema key own) (buildCore schema key own) :=
  mirrors_lift _

/-- Joining a relation. -/
theorem mirrors_resolveRelation {key : ι} {name : String} {sub : ι → Resolving Plan}
    {plainSub : ι → List String → Reporting Plan}
    (hSub : ∀ target deeper, Mirrors deeper (sub target) (plainSub target deeper)) :
    Mirrors chain (resolveRelation schema key name sub)
      (joinRelation schema chain key name plainSub) := by
  rw [resolveRelation, joinRelation]
  cases hRelation : (schema.table key).relation? name with
  | none => exact (mirrors_report _).bind fun _ => mirrors_pure _
  | some relation =>
      refine Mirrors.of_chain ?_
      dsimp only
      split
      · exact mirrors_throw _
      · exact (hSub relation.target _).within.bind fun plan =>
          (mirrors_lift _).bind fun _ => mirrors_pure _

mutual

/-- **The resolver** builds the plan of a search, and leaves its chain as it was. -/
theorem mirrors_resolvePlan {own : SearchOptions} :
    ∀ (includes : Option (List (String × Include))) (chain : List String) (key : ι),
      Mirrors chain (resolvePlan schema key own includes)
        (buildPlan schema chain key own includes)
  | none, chain, key => by
      rw [resolvePlan, buildPlan]
      exact (mirrors_resolveCore key own).bind fun _ => mirrors_pure _
  | some includes, chain, key => by
      rw [resolvePlan, buildPlan]
      exact (mirrors_resolveCore key own).bind fun _ =>
        (mirrors_resolveJoins includes chain key).bind fun _ => mirrors_pure _

theorem mirrors_resolveJoins :
    ∀ (includes : List (String × Include)) (chain : List String) (key : ι),
      Mirrors chain (resolveJoins schema key includes) (buildJoins schema chain key includes)
  | [], chain, key => by
      rw [resolveJoins, buildJoins]
      exact mirrors_pure _
  | (name, ask) :: rest, chain, key => by
      rw [resolveJoins, buildJoins]
      exact (mirrors_resolveJoin ask chain key name).bind fun _ =>
        (mirrors_resolveJoins rest chain key).bind fun _ => mirrors_pure _

theorem mirrors_resolveJoin :
    ∀ (ask : Include) (chain : List String) (key : ι) (name : String),
      Mirrors chain (resolveJoin schema key name ask) (buildJoin schema chain key name ask)
  | .flag false, chain, key, name => by
      rw [resolveJoin, buildJoin]
      exact mirrors_pure _
  | .flag true, chain, key, name => by
      rw [resolveJoin, buildJoin]
      exact mirrors_resolveRelation fun target _ =>
        (mirrors_resolveCore target .empty).bind fun _ => mirrors_pure _
  | .nested own includes, chain, key, name => by
      rw [resolveJoin, buildJoin]
      exact mirrors_resolveRelation fun target deeper => mirrors_resolvePlan includes deeper target

end

/-- The resolver leaves its chain as it was, whatever comes of the includes. -/
theorem chain_of_resolveJoins (key : ι) (includes : Includes) (chain : List String)
    (events : List Event) :
    ((resolveJoins schema key includes).run.run (chain, events)).2.1 = chain := by
  rw [mirrors_resolveJoins includes chain key events]

end Mirrors

/-! ## Siblings -/

section Siblings

variable {ι : Type} {schema : Schema ι} {key : ι} {chain : List String}

/-- The resolver succeeds just if nothing is wrong, whatever was reported before. -/
theorem exists_resolveJoins_iff (includes : Includes) (events : List Event) :
    (∃ joins after, (resolveJoins schema key includes).run.run (chain, events) =
      (.ok joins, after)) ↔ includesFaults schema chain key includes = [] := by
  rw [← (first_buildJoins includes chain key).exists_ok_iff events]
  refine exists_congr fun joins => ?_
  rw [mirrors_resolveJoins includes chain key events]
  rcases (buildJoins schema chain key includes).run.run events with ⟨result, after⟩
  constructor
  · rintro ⟨_, hSame⟩
    exact ⟨after, congrArg (fun run => (run.1, after)) hSame⟩
  · rintro ⟨_, hSame⟩
    exact ⟨(chain, after), congrArg (fun run => (run.1, chain, after)) hSame⟩

/-- **Siblings**: includes are resolved just if each of them is when it is the only one, with the
same chain and whatever was reported before. -/
theorem resolveJoins_iff_alone (includes : Includes) (events others : List Event) :
    (∃ joins after, (resolveJoins schema key includes).run.run (chain, events) =
      (.ok joins, after)) ↔
    ∀ entry ∈ includes, ∃ joins after,
      (resolveJoins schema key [entry]).run.run (chain, others) = (.ok joins, after) := by
  simp only [exists_resolveJoins_iff, includesFaults_eq_flatMap, List.flatMap_eq_nil_iff,
    List.forall_mem_singleton]

end Siblings

/-! ## Searches -/

section Searches

variable {ι : Type} (schema : Schema ι) (key : ι) (options : FindOptions)

/-- A search is planned just if nothing is wrong with it. -/
theorem Plan.exists_build_iff (before : List Event) :
    (∃ plan after, (Plan.build schema key options).run.run before = (.ok plan, after)) ↔
      ¬(options.visit schema key).Faulty schema :=
  ((first_build key options).exists_ok_iff before).trans
    (searchFaults_eq_nil_iff options.includes _ key)

/-- **Plans**: a search is planned just if no path of its includes comes back to a table, nothing is
wrong with the searches that they lead to, and the fields that they refer to are there.  Otherwise
the first fault is told, and a cycle is the chain of a path that comes back.  A resolver with one
chain does the same and leaves it as it was, so that includes are resolved just if each one is by
itself.  A search that is planned has fewer includes below each other than there are tables. -/
theorem Plan.build_exact :
    (∀ before,
      (∃ plan after, (Plan.build schema key options).run.run before = (.ok plan, after)) ↔
        ∀ visit, (options.visit schema key).Leads schema visit → visit.chain.Nodup ∧
          ¬visit.options.own.Faulty (schema.table visit.key) ∧
          ∀ relation next, visit.Follows schema relation next →
            (schema.table next.key).column? relation.referencedField ≠ none) ∧
    (∀ before e after, (Plan.build schema key options).run.run before = (.error e, after) →
      (options.faults schema key).head? = some e ∧
        ∀ path, e = .includeCycle path → ∃ last,
          (options.visit schema key).Leads schema last ∧ last.chain = path ∧ Recurs path) ∧
    (∀ before, (resolvePlan schema key options.own options.includes).run.run
        ([(schema.table key).name], before) =
      (((Plan.build schema key options).run.run before).1, [(schema.table key).name],
        ((Plan.build schema key options).run.run before).2)) ∧
    (∀ (other : ι) (includes : Includes) (chain : List String) (before : List Event),
      ((resolveJoins schema other includes).run.run (chain, before)).2.1 = chain ∧
        ∀ events,
          ((∃ joins after, (resolveJoins schema other includes).run.run (chain, before) =
              (.ok joins, after)) ↔
            ∀ entry ∈ includes, ∃ joins after,
              (resolveJoins schema other [entry]).run.run (chain, events) = (.ok joins, after))) ∧
    ∀ names : Finset String, (∀ other, (schema.table other).name ∈ names) →
      ∀ before plan after, (Plan.build schema key options).run.run before = (.ok plan, after) →
        ∀ visit, (options.visit schema key).Leads schema visit → visit.depth < names.card := by
  have hPlanned : ∀ before,
      (∃ plan after, (Plan.build schema key options).run.run before = (.ok plan, after)) ↔
        ∀ visit, (options.visit schema key).Leads schema visit → ¬visit.Stuck schema := by
    intro before
    have hRoot : (options.visit schema key).chain.Nodup := List.nodup_singleton _
    rw [Plan.exists_build_iff, Visit.faulty_iff hRoot]
    push Not
    rfl
  refine ⟨fun before => (hPlanned before).trans (forall₂_congr fun visit _ => ?_),
    fun before e after hRun => ?_, mirrors_resolvePlan options.includes _ key,
    fun other includes chain before => ⟨chain_of_resolveJoins other includes chain before,
      fun events => resolveJoins_iff_alone includes before events⟩,
    fun names hNames before plan after hRun visit hLeads => ?_⟩
  · simp only [Visit.Stuck, not_or, not_not, not_exists, not_and, ne_eq]
  · have hFirst : FailsFirst (options.faults schema key)
        ((Plan.build schema key options).run.run before).1 := first_build key options before
    rw [hRun] at hFirst
    refine ⟨hFirst.1, ?_⟩
    rintro path rfl
    exact exists_recurs_of_mem_faults options.includes (options.visit schema key) rfl
      (List.nodup_singleton _) (List.mem_of_head? hFirst.1)
  · have hFree := (hPlanned before).mp ⟨plan, after, hRun⟩ visit hLeads
    exact Visit.depth_lt_card hNames hLeads (not_not.mp fun hRepeats => hFree (.inl hRepeats))

end Searches

/-! ## Small searches -/

/-- A search for users with their printers and the owners of these. -/
def printerOwners : FindOptions :=
  ⟨.empty, some [("printers", .nested .empty (some [("owner", .flag true)]))]⟩

/-- A search for users with their printers and their templates. -/
def printersAndTemplates : FindOptions :=
  ⟨.empty, some [("printers", .flag true), ("templates", .flag true)]⟩

/-- The owners of printers are users again, and a path leads to them.  Printers and templates are no
cycle, and both are below one include. -/
theorem Plan.build_exact_builtIn :
    (∃ after, (Plan.build builtIn .users printerOwners).run.run [] =
      (.error (.includeCycle ["users", "printers", "users"]), after)) ∧
    (∃ last, (printerOwners.visit builtIn .users).Leads builtIn last ∧
      last.chain = ["users", "printers", "users"] ∧ Recurs ["users", "printers", "users"]) ∧
    ∀ visit, (printersAndTemplates.visit builtIn .users).Leads builtIn visit →
      visit.chain.Nodup ∧ visit.depth < 3 := by
  have hCycle : (Plan.build builtIn .users printerOwners).run.run [] =
      (.error (.includeCycle ["users", "printers", "users"]), []) := rfl
  obtain ⟨plan, after, hPlan⟩ : ∃ plan after,
      (Plan.build builtIn .users printersAndTemplates).run.run [] = (.ok plan, after) :=
    ⟨_, _, rfl⟩
  obtain ⟨-, hFails, -⟩ := Plan.build_exact builtIn .users printerOwners
  obtain ⟨hBuilds, -, -, -, hDepth⟩ := Plan.build_exact builtIn .users printersAndTemplates
  have hNames : ∀ key, (builtIn.table key).name ∈
      ({"users", "printers", "invoice_templates"} : Finset String) := by
    intro key
    cases key <;> decide
  refine ⟨⟨[], hCycle⟩, (hFails [] _ _ hCycle).2 _ rfl, fun visit hLeads => ?_⟩
  exact ⟨((hBuilds []).mp ⟨plan, after, hPlan⟩ visit hLeads).1,
    hDepth _ hNames [] plan after hPlan visit hLeads⟩

end ModelStore
