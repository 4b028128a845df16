import ModelStore.Proofs.Query.FirstFault

/-!
# What a search reports

A search may ask for relations that are not there.  They are reported and passed over, with all that
is asked below them, while the others are joined.  What a search asks for is a forest: its leaves
may be unknown relations, its other nodes are relations that are joined.  Read depth-first, it says
what is reported; without its unknown leaves, it says what is joined.

Building a plan may also fail, after some relations have been reported.  The remarks below are all
that there is to say of a search, reports and faults, in the order in which it is gone through.
Building stops at the first fault, and has then reported what stands in front of it.

## Main definitions

* `Request`, `FindOptions.requests`: what a search asks for.
* `Request.events`, `Request.joined`: what of it is reported, and what is joined.
* `Remark`, `FindOptions.remarks`: what there is to say of a search.

## Main results

* `tells_build`: what building a plan reports, whether it succeeds or fails.
-/

namespace ModelStore

variable {ι : Type}

/-! ## What is asked for -/

/-- A relation that is asked for: one that the table does not have, or one that is joined, with what
is asked for below it. -/
inductive Request where
  | unknown (table name : String)
  | known (link : Link) (under : List Request)
  deriving Repr, Inhabited

mutual

/-- The reports of a request: its own if the relation is unknown, else those of what is below it. -/
def Request.reported : Request → List Event
  | .unknown table name => [.unknownRelation table name]
  | .known _ under => Request.events under

/-- The reports of some requests, one request after another. -/
def Request.events : List Request → List Event
  | [] => []
  | request :: rest => Request.reported request ++ Request.events rest

end

mutual

/-- What is joined for a request: nothing if the relation is unknown. -/
def Request.join : Request → List Request
  | .unknown .. => []
  | .known link under => [.known link (Request.joined under)]

/-- The requests without the unknown relations, at every level. -/
def Request.joined : List Request → List Request
  | [] => []
  | request :: rest => Request.join request ++ Request.joined rest

end

mutual

/-- The relations that a plan joins, each with those that its plan joins. -/
def Plan.requests : Plan → List Request
  | .node _ joins => Plan.requestsOfJoins joins

/-- The relations of some joined plans. -/
def Plan.requestsOfJoins : List (Link × Plan) → List Request
  | [] => []
  | (link, plan) :: rest => .known link (Plan.requests plan) :: Plan.requestsOfJoins rest

end

section Requests

variable (schema : Schema ι)

/-- A relation that is asked for on the table of a key, given what is asked for below it. -/
def requestOf (key : ι) (name : String) (under : ι → List Request) : List Request :=
  match (schema.table key).relation? name with
  | none => [.unknown (schema.table key).name name]
  | some relation => [.known relation.link (under relation.target)]

mutual

/-- What a search asks for on the table of a key. -/
def searchRequests (key : ι) : Option (List (String × Include)) → List Request
  | none => []
  | some includes => includesRequests key includes

/-- What includes ask for, one by one. -/
def includesRequests (key : ι) : List (String × Include) → List Request
  | [] => []
  | (name, ask) :: rest => includeRequests key name ask ++ includesRequests key rest

/-- What one include asks for: a flag that is not set is no request. -/
def includeRequests (key : ι) (name : String) : Include → List Request
  | .flag false => []
  | .flag true => requestOf schema key name fun _ => []
  | .nested _ includes => requestOf schema key name fun target => searchRequests target includes

end

/-- What a search on the table of a key asks for. -/
def FindOptions.requests (key : ι) (options : FindOptions) : List Request :=
  searchRequests schema key options.includes

end Requests

theorem Request.events_append (requests others : List Request) :
    Request.events (requests ++ others) = Request.events requests ++ Request.events others := by
  induction requests with
  | nil => rfl
  | cons request requests ih => rw [List.cons_append, events, events, ih, List.append_assoc]

theorem Request.joined_append (requests others : List Request) :
    Request.joined (requests ++ others) = Request.joined requests ++ Request.joined others := by
  induction requests with
  | nil => rfl
  | cons request requests ih => rw [List.cons_append, joined, joined, ih, List.append_assoc]

theorem Plan.requestsOfJoins_append (joins others : List (Link × Plan)) :
    Plan.requestsOfJoins (joins ++ others) =
      Plan.requestsOfJoins joins ++ Plan.requestsOfJoins others := by
  induction joins with
  | nil => rfl
  | cons join joins ih =>
      rw [List.cons_append, requestsOfJoins, requestsOfJoins, ih, List.cons_append]

/-! ## What there is to say -/

/-- A remark on a search: a report, or something that is wrong. -/
inductive Remark where
  | reported (event : Event)
  | fault (e : Error)
  deriving Repr, Inhabited

section Remarks

variable (schema : Schema ι)

/-- The remarks on a relation that is asked for, given those on its plan.  Nothing is said of what
is below an unknown relation, or below one that leads back into the chain. -/
def joinRemarks (chain : List String) (key : ι) (name : String)
    (sub : ι → List String → List Remark) : List Remark :=
  match (schema.table key).relation? name with
  | none => [.reported (.unknownRelation (schema.table key).name name)]
  | some relation =>
    let target := schema.table relation.target
    let deeper := chain ++ [target.name]
    if target.name ∈ chain then [.fault (.includeCycle deeper)]
    else
      sub relation.target deeper ++ (target.unknownFaults [relation.referencedField]).map .fault

mutual

/-- The remarks on a search on the table of a key, which is the last of the chain: what is wrong on
its own table, then the remarks on its includes. -/
def searchRemarks (chain : List String) (key : ι) (own : SearchOptions) :
    Option (List (String × Include)) → List Remark
  | none => (own.faults (schema.table key)).map .fault
  | some includes =>
    (own.faults (schema.table key)).map .fault ++ includesRemarks chain key includes

/-- The remarks on the includes of a table, one by one. -/
def includesRemarks (chain : List String) (key : ι) : List (String × Include) → List Remark
  | [] => []
  | (name, ask) :: rest => includeRemarks chain key name ask ++ includesRemarks chain key rest

/-- The remarks on one include. -/
def includeRemarks (chain : List String) (key : ι) (name : String) : Include → List Remark
  | .flag false => []
  | .flag true => joinRemarks schema chain key name fun _ _ => []
  | .nested own includes =>
    joinRemarks schema chain key name fun target deeper => searchRemarks deeper target own includes

end

/-- The remarks on a search on the table of a key. -/
def FindOptions.remarks (key : ι) (options : FindOptions) : List Remark :=
  searchRemarks schema [(schema.table key).name] key options.own options.includes

end Remarks

/-! ## Steps that tell -/

/-- A step goes through some remarks up to the first fault, and reports what it passes.  Where there
is no fault, it reports some events and comes to a result with some property. -/
def Reporting.Tells {α : Type} (remarks : List Remark) (events : List Event) (holds : α → Prop)
    (step : Reporting α) : Prop :=
  ∀ before,
    (∃ a, step.run.run before = (.ok a, before ++ events) ∧ holds a ∧
      remarks = events.map .reported) ∨
    ∃ e done rest, step.run.run before = (.error e, before ++ done) ∧
      remarks = done.map .reported ++ .fault e :: rest

namespace Reporting

variable {α β : Type} {remarks others : List Remark} {events later : List Event}
  {holds : α → Prop} {step : Reporting α}

theorem tells_pure {a : α} (hHolds : holds a) : Tells [] [] holds (pure a) := by
  intro before
  exact .inl ⟨a, by rw [List.append_nil]; rfl, hHolds, rfl⟩

/-- What would have been reported without the failure does not matter. -/
theorem tells_throw (e : Error) : Tells [.fault e] events holds (throw e : Reporting α) := by
  intro before
  exact .inr ⟨e, [], [], by rw [List.append_nil]; rfl, rfl⟩

theorem tells_report (event : Event) :
    Tells [.reported event] [event] (fun _ => True) (report event) := by
  intro before
  exact .inl ⟨(), rfl, trivial, rfl⟩

/-- A step that only may fail tells what is wrong. -/
theorem tells_liftExcept {faults : List Error} {result : Except Error α}
    (hFirst : ModelStore.FailsFirst faults result) (hHolds : ∀ a, result = .ok a → holds a) :
    Tells (faults.map .fault) [] holds (liftExcept result) := by
  intro before
  cases result with
  | ok a =>
      have hNone : faults = [] := hFirst
      exact .inl ⟨a, by rw [List.append_nil]; rfl, hHolds a rfl, by rw [hNone]; rfl⟩
  | error e =>
      obtain ⟨rest, hFaults⟩ := List.head?_eq_some_iff.mp hFirst.1
      refine .inr ⟨e, [], rest.map .fault, by rw [List.append_nil]; rfl, ?_⟩
      rw [hFaults]
      rfl

/-- **Steps one after another** tell the remarks of the one and then those of the other. -/
theorem Tells.bind {next : α → Reporting β} {good : β → Prop}
    (hStep : Tells remarks events holds step)
    (hNext : ∀ a, Yields step a → holds a → Tells others later good (next a)) :
    Tells (remarks ++ others) (events ++ later) good (step >>= next) := by
  intro before
  rw [run_bind]
  rcases hStep before with ⟨a, hRun, hHolds, hRemarks⟩ | ⟨e, done, rest, hRun, hRemarks⟩
  · rw [hRun]
    dsimp only
    rcases hNext a ⟨before, _, hRun⟩ hHolds (before ++ events) with
      ⟨b, hLast, hGood, hOthers⟩ | ⟨e, done, rest, hLast, hOthers⟩
    · refine .inl ⟨b, by rw [hLast, List.append_assoc], hGood, ?_⟩
      rw [hRemarks, hOthers, List.map_append]
    · refine .inr ⟨e, events ++ done, rest, by rw [hLast, List.append_assoc], ?_⟩
      rw [hRemarks, hOthers, List.map_append, List.append_assoc]
  · -- The first step has failed, and the second is not taken.
    rw [hRun]
    refine .inr ⟨e, done, rest ++ others, rfl, ?_⟩
    rw [hRemarks, List.append_assoc, List.cons_append]

/-- A last step that cannot fail. -/
theorem Tells.bind_pure {make : α → β} {good : β → Prop} (hStep : Tells remarks events holds step)
    (hMake : ∀ a, holds a → good (make a)) :
    Tells remarks events good (do return make (← step)) := by
  have hBind : Tells (remarks ++ []) (events ++ []) good (do return make (← step)) :=
    hStep.bind fun a _ hHolds => tells_pure (hMake a hHolds)
  rw [List.append_nil, List.append_nil] at hBind
  exact hBind

end Reporting

/-! ## Building -/

section Building

variable {schema : Schema ι}

theorem tells_buildCore (key : ι) (own : SearchOptions) :
    Reporting.Tells ((own.faults (schema.table key)).map .fault) [] (fun _ => True)
      (buildCore schema key own) :=
  Reporting.tells_liftExcept (PlanCore.first_build (schema.table key) own) fun _ _ => trivial

/-- A column that is fetched besides changes nothing of what is joined. -/
theorem Plan.requests_expose {table : Table ι} {name : String} {base plan : Plan}
    (hExpose : base.expose table name = .ok plan) : plan.requests = base.requests := by
  obtain ⟨core, joins⟩ := base
  rw [Plan.expose] at hExpose
  split at hExpose
  · rw [Except.ok.inj hExpose]
  · split at hExpose
    · rw [← Except.ok.inj hExpose]
      rfl
    · cases hExpose

/-- Joining a relation. -/
theorem tells_joinRelation {chain : List String} {key : ι} {name : String}
    {sub : ι → List String → Reporting Plan} {remarks : ι → List String → List Remark}
    {under : ι → List Request}
    (hSub : ∀ target deeper, Reporting.Tells (remarks target deeper) (Request.events (under target))
      (fun plan => plan.requests = Request.joined (under target)) (sub target deeper))
    (hFetches : ∀ target deeper plan, Yields (sub target deeper) plan →
      plan.FetchesFrom (schema.table target)) :
    Reporting.Tells (joinRemarks schema chain key name remarks)
      (Request.events (requestOf schema key name under))
      (fun joins => Plan.requestsOfJoins joins = Request.joined (requestOf schema key name under))
      (joinRelation schema chain key name sub) := by
  rw [joinRelation, joinRemarks, requestOf]
  cases hRelation : (schema.table key).relation? name with
  | none =>
      exact (Reporting.tells_report _).bind fun _ _ _ => Reporting.tells_pure rfl
  | some relation =>
      dsimp only
      by_cases hChain : (schema.table relation.target).name ∈ chain
      · rw [if_pos hChain, if_pos (List.contains_iff_mem.mpr hChain)]
        exact Reporting.tells_throw (.includeCycle _)
      · rw [if_neg hChain, if_neg fun hMem => hChain (List.contains_iff_mem.mp hMem)]
        have hEvents : Request.events [.known relation.link (under relation.target)] =
            Request.events (under relation.target) ++ [] := rfl
        rw [hEvents]
        refine (hSub relation.target _).bind fun plan hPlan hJoined => ?_
        have hFirst := first_expose (hFetches _ _ plan hPlan) relation.referencedField
        have hExpose : Reporting.Tells
            (((schema.table relation.target).unknownFaults
              [relation.referencedField]).map .fault) []
            (fun exposed => exposed.requests = Request.joined (under relation.target))
            (liftExcept (plan.expose (schema.table relation.target) relation.referencedField)) :=
          Reporting.tells_liftExcept hFirst fun exposed hExposed =>
            (Plan.requests_expose hExposed).trans hJoined
        refine hExpose.bind_pure fun exposed hExposed => ?_
        change [Request.known relation.link exposed.requests] = _
        rw [hExposed]
        rfl

mutual

/-- What building the plan of a search reports. -/
theorem tells_buildPlan {own : SearchOptions} :
    ∀ (includes : Option (List (String × Include))) (chain : List String) (key : ι),
      Reporting.Tells (searchRemarks schema chain key own includes)
        (Request.events (searchRequests schema key includes))
        (fun plan => plan.requests = Request.joined (searchRequests schema key includes))
        (buildPlan schema chain key own includes)
  | none, chain, key => by
      rw [buildPlan, searchRemarks, searchRequests]
      exact (tells_buildCore key own).bind_pure fun _ _ => rfl
  | some includes, chain, key => by
      rw [buildPlan, searchRemarks, searchRequests]
      exact (tells_buildCore key own).bind fun core _ _ =>
        (tells_buildJoins includes chain key).bind_pure fun _ hJoined => hJoined

/-- What building the plans of includes reports. -/
theorem tells_buildJoins :
    ∀ (includes : List (String × Include)) (chain : List String) (key : ι),
      Reporting.Tells (includesRemarks schema chain key includes)
        (Request.events (includesRequests schema key includes))
        (fun joins =>
          Plan.requestsOfJoins joins = Request.joined (includesRequests schema key includes))
        (buildJoins schema chain key includes)
  | [], chain, key => by
      rw [buildJoins, includesRemarks, includesRequests]
      exact Reporting.tells_pure rfl
  | (name, ask) :: rest, chain, key => by
      rw [buildJoins, includesRemarks, includesRequests, Request.events_append]
      refine (tells_buildJoin ask chain key name).bind fun join _ hJoin =>
        (tells_buildJoins rest chain key).bind_pure fun others hOthers => ?_
      rw [Plan.requestsOfJoins_append, Request.joined_append, hJoin, hOthers]

/-- What building the plan of one include reports. -/
theorem tells_buildJoin :
    ∀ (ask : Include) (chain : List String) (key : ι) (name : String),
      Reporting.Tells (includeRemarks schema chain key name ask)
        (Request.events (includeRequests schema key name ask))
        (fun joins =>
          Plan.requestsOfJoins joins = Request.joined (includeRequests schema key name ask))
        (buildJoin schema chain key name ask)
  | .flag false, chain, key, name => by
      rw [buildJoin, includeRemarks, includeRequests]
      exact Reporting.tells_pure rfl
  | .flag true, chain, key, name => by
      rw [buildJoin, includeRemarks, includeRequests]
      refine tells_joinRelation (fun target _ => ?_) fun target deeper plan hPlan => ?_
      · -- A relation without options of its own has nothing wrong with it.
        exact (tells_buildCore target .empty).bind_pure fun _ _ => rfl
      · obtain ⟨core, hCore, hPure⟩ := hPlan.of_bind
        rw [← hPure.of_pure]
        exact (planned_of_buildCore hCore).fetched_mem
  | .nested own includes, chain, key, name => by
      rw [buildJoin, includeRemarks, includeRequests]
      exact tells_joinRelation (fun target deeper => tells_buildPlan includes deeper target)
        fun target deeper plan hPlan => (planned_of_buildPlan includes hPlan).fetchesFrom

end

/-- **Reports**: building the plan of a search goes through its remarks up to the first fault, and
reports what it passes.  If there is no fault, it has reported the unknown relations that the search
asks for, and the plan joins the other ones. -/
theorem tells_build (key : ι) (options : FindOptions) :
    Reporting.Tells (options.remarks schema key) (Request.events (options.requests schema key))
      (fun plan => plan.requests = Request.joined (options.requests schema key))
      (Plan.build schema key options) :=
  tells_buildPlan options.includes _ key

end Building

end ModelStore
