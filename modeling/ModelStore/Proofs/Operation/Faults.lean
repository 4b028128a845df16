import ModelStore.Proofs.Operation.Compiling
import ModelStore.Proofs.Operation.BulkPolicy
import ModelStore.Proofs.Query.Faults

/-!
# What can be wrong with an operation

Besides what is wrong with its options, an operation is refused if it is a bulk mutation that the
policy forbids, or an upsert without a condition.  Of an upsert everything is looked at: the
condition, the change and the new row, whether or not there is a row to change.

## Main definitions

* `Operation.Faulty`: what can be wrong with an operation.
* `ArgumentsFaulty`: what can be wrong with the arguments of a method.

## Main results

* `Operation.detects_prepare`: an operation is prepared just if nothing is wrong with it.
* `Session.detects_compile`: a call is compiled just if nothing is wrong with its arguments.
-/

namespace ModelStore

variable {ι : Type}

/-- What can be wrong with the condition of a mutation that may have none. -/
def FilterFaulty (table : Table ι) (filter : Option Conditions) : Prop :=
  ∃ conditions ∈ filter, conditions.Faulty table

/-- What can be wrong with the change of the rows under a condition. -/
def ChangeFaulty (table : Table ι) (filter : Option Conditions) (data : Payload) : Prop :=
  data = [] ∨ data.Faulty table ∨ FilterFaulty table filter

/-- The policy forbids a bulk mutation. -/
def BulkForbidden (policy : BulkPolicy) (filter : Option Conditions) : Prop :=
  filter = none ∧ policy = .deny

/-- What can be wrong with an upsert: that nothing is asked of the row to change, and anything that
is wrong with the lookup, the change or the insertion, whichever of the latter two were sent.  There
may be nothing to change. -/
def UpsertOptions.Faulty (table : Table ι) (options : UpsertOptions) : Prop :=
  (∀ conditions ∈ options.filter, conditions.ConstrainNothing table) ∨
    FilterFaulty table options.filter ∨ options.update.Faulty table ∨ options.create.Faulty table

/-- What can be wrong with an operation on the table of a key under a policy. -/
def Operation.Faulty (schema : Schema ι) (key : ι) (policy : BulkPolicy) : Operation → Prop
  | findFirst options | findMany options => options.Faulty schema key
  | create options => options.data.Faulty (schema.table key)
  | update options => ChangeFaulty (schema.table key) (some options.filter) options.data
  | updateMany options =>
    ChangeFaulty (schema.table key) options.filter options.data ∨
      BulkForbidden policy options.filter
  | updateAll options => ChangeFaulty (schema.table key) none options.data
  | upsert options => options.Faulty (schema.table key)
  | delete options => options.filter.Faulty (schema.table key)
  | deleteMany options =>
    FilterFaulty (schema.table key) options.filter ∨ BulkForbidden policy options.filter
  | deleteAll => False
  | count options => FilterFaulty (schema.table key) options.filter

/-! ## Preparation -/

theorem detects_checkBulk (policy : BulkPolicy) (table : String) (filter : Option Conditions)
    (operation : BulkOperation) :
    Reporting.Detects (BulkForbidden policy filter) (checkBulk policy table filter operation) := by
  cases filter with
  | some conditions =>
      exact (Reporting.detects_pure ()).congr (by simp [BulkForbidden])
  | none =>
      cases policy with
      | deny =>
          exact (Reporting.detects_throw (e := .refused _) ErrorKind.noConfusion).congr
            (by simp [BulkForbidden])
      | warn => exact (Reporting.detects_report _).congr (by simp [BulkForbidden])

/-- The condition of an upsert has to be there and to constrain something. -/
theorem detects_requireConditions (table : Table ι) (filter : Option Conditions) :
    Detects ((∀ conditions ∈ filter, conditions.ConstrainNothing table) ∨
      FilterFaulty table filter) (requireConditions table filter) := by
  cases filter with
  | none => exact ⟨.inl (by simp), ErrorKind.noConfusion⟩
  | some conditions =>
      have hEmpty : ∀ terms, conditions.compile table none = .ok terms →
          Detects (conditions.ConstrainNothing table)
            (if terms.isEmpty then .error (.refused .unconditionalUpsert) else pure conditions :
              Except Error Conditions) := by
        intro terms hTerms
        have hNothing : conditions.compile table none = .ok [] ↔
            conditions.ConstrainNothing table := Conditions.compile_eq_nil_iff
        rw [← hNothing, hTerms]
        split
        · rename_i hNil
          exact ⟨by rw [List.isEmpty_iff.mp hNil], ErrorKind.noConfusion⟩
        · rename_i hSome
          exact fun hNil => hSome (List.isEmpty_iff.mpr (Except.ok.inj hNil))
      refine Detects.congr ((detects_conditions table none conditions).bind hEmpty) ?_
      simp [FilterFaulty, or_comm]

/-- A condition that is accepted is the one that was given, and nothing is wrong with it. -/
theorem sound_of_requireConditions {table : Table ι} {filter : Option Conditions}
    {conditions : Conditions} (hAccepted : requireConditions table filter = .ok conditions) :
    ¬FilterFaulty table (some conditions) := by
  have hDetects := detects_requireConditions table filter
  rw [hAccepted] at hDetects
  cases filter with
  | none => cases hAccepted
  | some given =>
      obtain ⟨terms, -, hRest⟩ := bind_eq_ok.mp hAccepted
      split at hRest
      · cases hRest
      · rw [← pure_eq_ok.mp hRest]
        exact fun hFaulty => hDetects (.inr hFaulty)

namespace Operation

/-- All of an upsert is compiled before any of it is sent. -/
theorem detects_prepareUpsert (table : Table ι) (ids : Nat → String) (options : UpsertOptions) :
    Detects (options.Faulty table) (prepareUpsert table ids options) := by
  refine Detects.congr ((detects_requireConditions table options.filter).bind
    fun conditions hConditions => ?_) or_assoc
  have hSound := sound_of_requireConditions hConditions
  have hLookup : Detects False (table.lookup (some conditions)) :=
    (table.detects_filtered (some conditions) _).congr (iff_false_intro hSound)
  have hInsertion := table.detects_insertion ids options.create
  refine (hLookup.bind fun lookup _ => ?_).congr (or_iff_right not_false)
  dsimp only
  split
  · rename_i hEmpty
    rw [List.isEmpty_iff.mp hEmpty, pure_bind]
    exact (hInsertion.bind fun insertion _ => detects_ok _).congr (by simp [Payload.Faulty])
  · rename_i hSome
    have hChange := (table.detects_change (some conditions) options.update true).map some
    refine (hChange.bind fun change _ => hInsertion.bind fun insertion _ => detects_ok _).congr ?_
    rw [or_false, or_iff_right fun hNil => hSome (List.isEmpty_iff.mpr hNil)]
    exact or_congr_left (or_iff_left hSound)

/-- **An operation is prepared just if nothing is wrong with it**, and nothing that goes wrong is
left to the store. -/
theorem detects_prepare (schema : Schema ι) (key : ι) (policy : BulkPolicy) (ids : Nat → String)
    (operation : Operation) :
    Reporting.Detects (operation.Faulty schema key policy)
      (operation.prepare schema key policy ids) := by
  have hLift {α : Type} {wrong : Prop} {result : Except Error α} (hResult : Detects wrong result)
      (make : α → Work) : Reporting.Detects wrong (do return make (← liftExcept result)) :=
    (Reporting.detects_liftExcept hResult).bind_pure make
  cases operation with
  | findFirst options => exact (detects_build key options).bind_pure _
  | findMany options => exact (detects_build key options).bind_pure _
  | create options => exact hLift ((schema.table key).detects_insertion ids options.data) _
  | update options =>
      exact hLift ((schema.table key).detects_change (some options.filter) options.data true) _
  | updateMany options =>
      have hChange := (schema.table key).detects_change options.filter options.data false
      exact (Reporting.detects_liftExcept hChange).bind fun statement _ =>
        (detects_checkBulk policy _ options.filter .updateMany).bind_pure
          fun _ => Work.number statement
  | updateAll options =>
      exact hLift ((schema.table key).detects_change none options.data false) _
  | upsert options =>
      exact Reporting.detects_liftExcept (detects_prepareUpsert (schema.table key) ids options)
  | delete options =>
      refine (hLift ((schema.table key).detects_filtered (some options.filter) _) _).congr ?_
      simp [Faulty]
  | deleteMany options =>
      have hRemoval := (schema.table key).detects_filtered options.filter
        fun predicate => Statement.delete (schema.table key).name predicate none
      exact (Reporting.detects_liftExcept hRemoval).bind fun statement _ =>
        (detects_checkBulk policy _ options.filter .deleteMany).bind_pure
          fun _ => Work.number statement
  | deleteAll =>
      exact (hLift ((schema.table key).detects_filtered none _) _).congr (by simp [Faulty])
  | count options => exact hLift ((schema.table key).detects_filtered options.filter _) _

end Operation

/-! ## Calls -/

/-- What can be wrong with the arguments of a method: they cannot be read, or something is wrong
with what they are read as. -/
def ArgumentsFaulty (schema : Schema ι) (key : ι) (policy : BulkPolicy) (method : Method)
    (args : Json) : Prop :=
  (∃ failure, Operation.ofJson method args = .error failure) ∨
    ∃ operation, Operation.ofJson method args = .ok operation ∧ operation.Faulty schema key policy

/-- **A call is compiled just if nothing is wrong with its arguments.** -/
theorem Session.detects_compile (schema : Schema ι) (world : World) (key : ι) (method : Method)
    (args : Json) (session : Session) :
    Detects (ArgumentsFaulty schema key session.policy method args)
      (session.compile schema world key method args) := by
  rw [compile, ArgumentsFaulty]
  cases Operation.ofJson method args with
  | error failure => exact ⟨.inl ⟨failure, rfl⟩, ErrorKind.noConfusion⟩
  | ok operation =>
      exact (operation.detects_prepare schema key session.policy _ []).congr (by simp)

end ModelStore
