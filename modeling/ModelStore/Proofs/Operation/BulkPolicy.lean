import ModelStore.Proofs.Operation.Failure

/-!
# The policy on bulk mutations

A policy may refuse bulk mutations without a condition.  What it looks at is whether a condition was
given, not what the condition compiles to: the removal of every row is refused where nothing is said
of the rows, and carried out where the condition has no columns, or only columns with no operators.
An upsert under such a condition is refused as one without any.

It is said here which mutations slip through, and what they do: what the operation does that touches
every row on purpose.

## Main definitions

* `BulkMutation`: the operations that the policy is about.
* `Conditions.ConstrainNothing`: conditions that every row satisfies, for want of operators.
* `BulkMutation.SlipsThrough`: mutations of every row that the policy does not see.

## Main results

* `Conditions.compile_eq_nil_iff`: which conditions compile to no clause.
* `requireConditions_eq_refusal`: an upsert is refused under exactly these.
* `Session.unbounded_sent_iff`: under the policy, a mutation without a clause is sent for exactly
  the calls that slip through.
-/

namespace ModelStore

variable {ι : Type}

/-! ## Conditions that constrain nothing -/

/-- Whether a condition has nothing to ask of its column. -/
def Condition.isIdle : Condition → Bool
  | .equals _ => false
  | .operators ops => ops.isEmpty

/-- Conditions on columns of a table that ask nothing of them. -/
def Conditions.ConstrainNothing (table : Table ι) (conditions : Conditions) : Prop :=
  ∀ entry ∈ conditions, (table.column? entry.1).isSome = true ∧ entry.2.isIdle = true

instance (table : Table ι) (conditions : Conditions) :
    Decidable (conditions.ConstrainNothing table) :=
  inferInstanceAs (Decidable (∀ entry ∈ conditions,
    (table.column? entry.1).isSome = true ∧ entry.2.isIdle = true))

/-- An operator compiles to no clause just if it is not there. -/
theorem compileIf_eq_nil_iff {α : Type} {operand : Option α} {compile : α → Except Error Sql.Expr} :
    compileIf operand compile = .ok [] ↔ operand = none := by
  cases operand with
  | none => exact iff_of_true rfl rfl
  | some value =>
      refine iff_of_false (fun h => ?_) (Option.some_ne_none value)
      obtain ⟨e, -, hPure⟩ := bind_eq_ok.mp h
      cases pure_eq_ok.mp hPure

/-- Operators compile to no clause just if there are none. -/
theorem Operators.compile_eq_nil_iff {ref : Sql.ColumnRef} {ops : Operators} :
    ops.compile ref = .ok [] ↔ ops.isEmpty = true := by
  constructor
  · intro h
    obtain ⟨eq, hEq, h⟩ := bind_eq_ok.mp h
    obtain ⟨ne, hNe, h⟩ := bind_eq_ok.mp h
    obtain ⟨gt, hGt, h⟩ := bind_eq_ok.mp h
    obtain ⟨gte, hGte, h⟩ := bind_eq_ok.mp h
    obtain ⟨lt, hLt, h⟩ := bind_eq_ok.mp h
    obtain ⟨lte, hLte, h⟩ := bind_eq_ok.mp h
    obtain ⟨among, hAmong, h⟩ := bind_eq_ok.mp h
    have hNil := pure_eq_ok.mp h
    simp only [List.append_eq_nil_iff] at hNil
    obtain ⟨⟨⟨⟨⟨⟨rfl, rfl⟩, rfl⟩, rfl⟩, rfl⟩, rfl⟩, rfl⟩ := hNil
    rw [compileIf_eq_nil_iff] at hEq hNe hGt hGte hLt hLte hAmong
    simp [Operators.isEmpty, hEq, hNe, hGt, hGte, hLt, hLte, hAmong]
  · intro h
    simp only [Operators.isEmpty, Bool.and_eq_true, Option.isNone_iff_eq_none] at h
    obtain ⟨⟨⟨⟨⟨⟨hEq, hNe⟩, hGt⟩, hGte⟩, hLt⟩, hLte⟩, hAmong⟩ := h
    rw [Operators.compile, hEq, hNe, hGt, hGte, hLt, hLte, hAmong]
    rfl

theorem Condition.compile_eq_nil_iff {ref : Sql.ColumnRef} {condition : Condition} :
    condition.compile ref = .ok [] ↔ condition.isIdle = true := by
  cases condition with
  | equals value =>
      refine iff_of_false (fun h => ?_) Bool.false_ne_true
      obtain ⟨e, -, hPure⟩ := bind_eq_ok.mp h
      cases pure_eq_ok.mp hPure
  | operators ops => exact Operators.compile_eq_nil_iff

theorem Conditions.compileKnown_eq_nil_iff {qualifier : Option String} {conditions : Conditions} :
    Conditions.compileKnown qualifier conditions = .ok [] ↔
      ∀ entry ∈ conditions, entry.2.isIdle = true := by
  induction conditions with
  | nil => exact iff_of_true rfl (by simp)
  | cons entry conditions ih =>
      obtain ⟨column, condition⟩ := entry
      rw [List.forall_mem_cons, ← ih, ← @Condition.compile_eq_nil_iff ⟨qualifier, column⟩]
      constructor
      · intro h
        obtain ⟨own, hOwn, hRest⟩ := bind_eq_ok.mp h
        obtain ⟨others, hOthers, hPure⟩ := bind_eq_ok.mp hRest
        obtain ⟨rfl, rfl⟩ := List.append_eq_nil_iff.mp (pure_eq_ok.mp hPure)
        exact ⟨hOwn, hOthers⟩
      · rintro ⟨hOwn, hOthers⟩
        rw [Conditions.compileKnown, hOwn, hOthers]
        rfl

/-- **Clauses**: conditions compile to no clause just if they ask nothing of columns that are
there. -/
theorem Conditions.compile_eq_nil_iff {table : Table ι} {qualifier : Option String}
    {conditions : Conditions} :
    conditions.compile table qualifier = .ok [] ↔ conditions.ConstrainNothing table := by
  constructor
  · intro h
    obtain ⟨hKnown, hTerms⟩ := Conditions.known_of_compile h
    rw [Conditions.compileKnown_eq_nil_iff] at hTerms
    exact fun entry hEntry => ⟨hKnown entry hEntry, hTerms entry hEntry⟩
  · intro h
    have hKnown : conditions.unknownColumn? table = none := by
      rw [Conditions.unknownColumn?, Option.map_eq_none_iff, List.find?_eq_none]
      intro entry hEntry
      simp [Option.isSome_iff_ne_none.mp (h entry hEntry).1]
    rw [Conditions.compile, hKnown]
    exact Conditions.compileKnown_eq_nil_iff.mpr fun entry hEntry => (h entry hEntry).2

/-- An upsert under conditions that constrain nothing is refused as one without conditions. -/
theorem requireConditions_eq_refusal {table : Table ι} {conditions : Conditions}
    (hNothing : conditions.ConstrainNothing table) :
    requireConditions table (some conditions) = requireConditions table none := by
  have hSteps : requireConditions table (some conditions) =
      (conditions.compile table none >>= fun terms =>
        if terms.isEmpty then .error (.refused .unconditionalUpsert) else pure conditions) := rfl
  rw [hSteps, Conditions.compile_eq_nil_iff.mpr hNothing]
  rfl

/-! ## Bulk mutations -/

/-- The method of a bulk mutation. -/
def BulkOperation.method : BulkOperation → Method
  | .updateMany => .updateMany
  | .deleteMany => .deleteMany

/-- A bulk mutation with its options. -/
inductive BulkMutation where
  | update (options : UpdateManyOptions)
  | delete (options : FilterOptions)

namespace BulkMutation

/-- Which bulk mutation it is. -/
def kind : BulkMutation → BulkOperation
  | update _ => .updateMany
  | delete _ => .deleteMany

/-- The condition that is given, if any. -/
def filter : BulkMutation → Option Conditions
  | update options => options.filter
  | delete options => options.filter

/-- The mutation as an operation. -/
def operation : BulkMutation → Operation
  | update options => .updateMany options
  | delete options => .deleteMany options

/-- The operation that does the same to every row on purpose. -/
def explicit : BulkMutation → Operation
  | update options => .updateAll ⟨options.data⟩
  | delete _ => .deleteAll

/-- The statement of the mutation under a condition. -/
def statementUnder (table : Table ι) (filter : Option Conditions) :
    BulkMutation → Except Error Statement
  | update options => table.change filter options.data false
  | delete _ => table.removal filter false

/-- A mutation of every row that the policy does not see: a condition is given, but constrains
nothing; and there is nothing else against the mutation. -/
def SlipsThrough (table : Table ι) (mutation : BulkMutation) : Prop :=
  (∃ conditions, mutation.filter = some conditions ∧ conditions.ConstrainNothing table) ∧
    match mutation with
    | update options =>
        options.data ≠ [] ∧ ∃ values, Payload.compile table options.data = .ok values
    | delete _ => True

end BulkMutation

/-- A mutation without a clause, which is one of every row. -/
def Statement.IsUnbounded : Statement → Prop
  | .update _ _ predicate _ | .delete _ predicate _ => predicate = []
  | _ => False

namespace BulkMutation

variable {table : Table ι} {mutation : BulkMutation}

/-- What arguments are read as is a mutation of the kind that was called. -/
theorem exists_of_ofJson {kind : BulkOperation} {args : Json} {operation : Operation}
    (hOperation : Operation.ofJson kind.method args = .ok operation) :
    ∃ mutation : BulkMutation, operation = mutation.operation ∧ mutation.kind = kind := by
  cases kind with
  | updateMany =>
      obtain ⟨options, -, rfl⟩ := map_eq_ok.mp hOperation
      exact ⟨.update options, rfl, rfl⟩
  | deleteMany =>
      obtain ⟨options, -, rfl⟩ := map_eq_ok.mp hOperation
      exact ⟨.delete options, rfl, rfl⟩

/-- Conditions that compile to the same clause make the same statement. -/
theorem statementUnder_congr {a b : Option Conditions}
    (hSame : compileFilter table none a = compileFilter table none b) :
    mutation.statementUnder table a = mutation.statementUnder table b := by
  cases mutation with
  | update options => simp only [statementUnder, Table.change, hSame]
  | delete options => simp only [statementUnder, Table.removal, hSame]

/-- The statement of a mutation, in terms of the clause of its condition. -/
theorem statementUnder_eq_ok {filter : Option Conditions} {statement : Statement}
    (hStatement : mutation.statementUnder table filter = .ok statement) :
    ∃ predicate, compileFilter table none filter = .ok predicate ∧
      (statement.IsUnbounded ↔ predicate = []) := by
  cases mutation with
  | update options =>
      unfold statementUnder Table.change at hStatement
      dsimp only at hStatement
      split at hStatement
      · cases hStatement
      · obtain ⟨values, -, hRest⟩ := bind_eq_ok.mp hStatement
        obtain ⟨predicate, hPredicate, hPure⟩ := bind_eq_ok.mp hRest
        exact ⟨predicate, hPredicate, pure_eq_ok.mp hPure ▸ Iff.rfl⟩
  | delete options =>
      obtain ⟨predicate, hPredicate, hPure⟩ := bind_eq_ok.mp hStatement
      exact ⟨predicate, hPredicate, pure_eq_ok.mp hPure ▸ Iff.rfl⟩

/-- Under conditions that constrain nothing the statement is that without any condition. -/
theorem SlipsThrough.statementUnder_filter (hSlips : mutation.SlipsThrough table) :
    mutation.statementUnder table mutation.filter = mutation.statementUnder table none := by
  obtain ⟨⟨conditions, hFilter, hNothing⟩, -⟩ := hSlips
  rw [hFilter]
  exact statementUnder_congr (Conditions.compile_eq_nil_iff.mpr hNothing)

/-- A mutation that slips through has a statement, and no clause in it. -/
theorem SlipsThrough.exists_statement (hSlips : mutation.SlipsThrough table) :
    ∃ statement, mutation.statementUnder table mutation.filter = .ok statement ∧
      statement.IsUnbounded := by
  rw [hSlips.statementUnder_filter]
  cases mutation with
  | update options =>
      obtain ⟨-, hData, values, hValues⟩ := hSlips
      refine ⟨.update table.name values [] none, ?_, rfl⟩
      rw [statementUnder, Table.change, if_neg (by simpa using hData), hValues]
      rfl
  | delete options => exact ⟨.delete table.name [] none, rfl, rfl⟩

/-- A statement without a clause under conditions that were given is that of a mutation that slips
through. -/
theorem slipsThrough_of_isUnbounded {conditions : Conditions} {statement : Statement}
    (hFilter : mutation.filter = some conditions)
    (hStatement : mutation.statementUnder table mutation.filter = .ok statement)
    (hUnbounded : statement.IsUnbounded) : mutation.SlipsThrough table := by
  rw [hFilter] at hStatement
  obtain ⟨predicate, hPredicate, hIff⟩ := statementUnder_eq_ok hStatement
  rw [hIff.mp hUnbounded] at hPredicate
  refine ⟨⟨conditions, hFilter, Conditions.compile_eq_nil_iff.mp hPredicate⟩, ?_⟩
  cases mutation with
  | update options =>
      unfold statementUnder Table.change at hStatement
      dsimp only at hStatement
      split at hStatement
      · cases hStatement
      · rename_i hData
        obtain ⟨values, hValues, -⟩ := bind_eq_ok.mp hStatement
        exact ⟨by simpa using hData, values, hValues⟩
  | delete options => trivial

/-! ## The policy -/

/-- What the policy makes of a mutation: it is sent if it has a statement and a condition was
given. -/
def verdict (table : Table ι) (mutation : BulkMutation) : Except Error Work := do
  let statement ← mutation.statementUnder table mutation.filter
  match mutation.filter with
  | some _ => return .number statement
  | none => throw (.refused (.unboundedMutation table.name mutation.kind))

/-- Where bulk mutations without a condition are refused, a mutation comes to its verdict, and
nothing is reported. -/
theorem prepare_deny {schema : Schema ι} {key : ι} {ids : Nat → String} :
    (mutation.operation.prepare schema key .deny ids).run.run [] =
      (mutation.verdict (schema.table key), []) := by
  cases mutation with
  | update options =>
      obtain ⟨filter, data⟩ := options
      simp only [operation, Operation.prepare, verdict, statementUnder, BulkMutation.filter]
      cases (schema.table key).change filter data false <;> cases filter <;> rfl
  | delete options =>
      obtain ⟨filter⟩ := options
      simp only [operation, Operation.prepare, verdict, statementUnder, BulkMutation.filter]
      cases (schema.table key).removal filter false <;> cases filter <;> rfl

/-- The operation that touches every row on purpose comes to the statement without a condition. -/
theorem prepare_explicit {schema : Schema ι} {key : ι} {policy : BulkPolicy}
    {ids : Nat → String} :
    (mutation.explicit.prepare schema key policy ids).run.run [] =
      ((mutation.statementUnder (schema.table key) none).map .number, []) := by
  cases mutation with
  | update options =>
      simp only [explicit, Operation.prepare, statementUnder]
      cases (schema.table key).change none options.data false <;> rfl
  | delete options =>
      simp only [explicit, Operation.prepare, statementUnder]
      cases (schema.table key).removal none false <;> rfl

/-- The verdict is favourable just if there is a statement and a condition was given. -/
theorem verdict_eq_ok {work : Work} :
    mutation.verdict table = .ok work ↔ ∃ statement conditions,
      mutation.statementUnder table mutation.filter = .ok statement ∧
        mutation.filter = some conditions ∧ work = .number statement := by
  constructor
  · intro h
    obtain ⟨statement, hStatement, hRest⟩ := bind_eq_ok.mp h
    split at hRest
    · rename_i conditions hFilter
      exact ⟨statement, conditions, hStatement, hFilter, (pure_eq_ok.mp hRest).symm⟩
    · cases hRest
  · rintro ⟨statement, conditions, hStatement, hFilter, rfl⟩
    refine bind_eq_ok.mpr ⟨statement, hStatement, ?_⟩
    rw [hFilter]
    rfl

/-- Without a condition a mutation is refused, if not for anything else. -/
theorem verdict_of_none (hFilter : mutation.filter = none) :
    ∃ e, mutation.verdict table = .error e ∧
      ∀ statement, mutation.statementUnder table none = .ok statement →
        e = .refused (.unboundedMutation table.name mutation.kind) := by
  rw [verdict, hFilter]
  cases mutation.statementUnder table none with
  | error e =>
      refine ⟨e, rfl, fun statement hStatement => ?_⟩
      cases hStatement
  | ok statement => exact ⟨_, rfl, fun _ _ => rfl⟩

end BulkMutation

/-! ## What is sent -/

namespace Session

variable {schema : Schema ι} {world : World} {key : ι} {session : Session}

/-- Operations that come to the same work with as many identifiers are the same. -/
theorem perform_congr {a b : Operation} {result : Except Error Work × List Event}
    (hFirst : (a.prepare schema key session.policy
      fun k => world.freshId (session.issued + k)).run.run [] = result)
    (hSecond : (b.prepare schema key session.policy
      fun k => world.freshId (session.issued + k)).run.run [] = result)
    (hIds : a.idCount (schema.table key) = b.idCount (schema.table key)) :
    session.perform schema world key a = session.perform schema world key b := by
  rw [perform, hFirst, hIds, perform, hSecond]

section Deny

variable (hDeny : session.policy = .deny) {mutation : BulkMutation}

include hDeny

/-- In a session with the policy a mutation comes to its verdict. -/
theorem prepare_of_verdict (world : World) {result : Except Error Work}
    (hVerdict : mutation.verdict (schema.table key) = result) :
    (mutation.operation.prepare schema key session.policy
      fun k => world.freshId (session.issued + k)).run.run [] = (result, []) := by
  rw [hDeny, ← hVerdict]
  exact BulkMutation.prepare_deny

/-- A mutation with a favourable verdict sends its statement, and no other. -/
theorem sentSince_of_verdict {statement : Statement}
    (hVerdict : mutation.verdict (schema.table key) = .ok (.number statement)) :
    session.sentSince (session.perform schema world key mutation.operation).2 = [statement] := by
  rw [sentSince_of_prepared (prepare_of_verdict hDeny world hVerdict), Work.run_number]
  rfl

/-- A mutation with an unfavourable verdict fails and sends nothing. -/
theorem sentSince_of_verdict_error {e : Error}
    (hVerdict : mutation.verdict (schema.table key) = .error e) :
    (session.perform schema world key mutation.operation).1 = .error e ∧
      session.sentSince (session.perform schema world key mutation.operation).2 = [] :=
  sentSince_of_prepare_error (prepare_of_verdict hDeny world hVerdict)

/-- A mutation that slips through does what the operation does that touches every row on purpose. -/
theorem perform_of_slipsThrough (hSlips : mutation.SlipsThrough (schema.table key)) :
    session.perform schema world key mutation.operation =
      session.perform schema world key mutation.explicit := by
  obtain ⟨⟨conditions, hFilter, -⟩, -⟩ := id hSlips
  obtain ⟨statement, hStatement, -⟩ := hSlips.exists_statement
  have hVerdict : mutation.verdict (schema.table key) = .ok (.number statement) :=
    BulkMutation.verdict_eq_ok.mpr ⟨statement, conditions, hStatement, hFilter, rfl⟩
  have hExplicit : (mutation.explicit.prepare schema key session.policy
      fun k => world.freshId (session.issued + k)).run.run [] = (.ok (.number statement), []) := by
    rw [BulkMutation.prepare_explicit, ← hSlips.statementUnder_filter, hStatement]
    rfl
  have hIds : mutation.operation.idCount (schema.table key) =
      mutation.explicit.idCount (schema.table key) := by
    cases mutation <;> rfl
  exact perform_congr (prepare_of_verdict hDeny world hVerdict) hExplicit hIds

section Calls

variable {kind : BulkOperation} {args : Json}

/-- A call that sends a statement without a clause slips through. -/
theorem exists_slipsThrough {statement : Statement}
    (hSent : statement ∈
      session.sentSince (session.dispatch schema world key kind.method args).2)
    (hUnbounded : statement.IsUnbounded) :
    ∃ mutation : BulkMutation, Operation.ofJson kind.method args = .ok mutation.operation ∧
      mutation.SlipsThrough (schema.table key) := by
  cases hOperation : Operation.ofJson kind.method args with
  | error failure =>
      rw [sentSince_of_ofJson_error hOperation] at hSent
      cases hSent
  | ok operation =>
      obtain ⟨mutation, rfl, -⟩ := BulkMutation.exists_of_ofJson hOperation
      refine ⟨mutation, rfl, ?_⟩
      rw [dispatch_of_ofJson _ _ hOperation] at hSent
      cases hVerdict : mutation.verdict (schema.table key) with
      | error e =>
          rw [(sentSince_of_verdict_error hDeny hVerdict).2] at hSent
          cases hSent
      | ok work =>
          obtain ⟨made, conditions, hMade, hFilter, rfl⟩ :=
            BulkMutation.verdict_eq_ok.mp hVerdict
          rw [sentSince_of_verdict hDeny hVerdict, List.mem_singleton] at hSent
          rw [hSent] at hUnbounded
          exact BulkMutation.slipsThrough_of_isUnbounded hFilter hMade hUnbounded

variable (hOperation : Operation.ofJson kind.method args = .ok mutation.operation)

include hOperation

/-- A call that slips through sends a statement without a clause. -/
theorem exists_sent_isUnbounded (hSlips : mutation.SlipsThrough (schema.table key)) :
    ∃ statement ∈ session.sentSince (session.dispatch schema world key kind.method args).2,
      statement.IsUnbounded := by
  obtain ⟨⟨conditions, hFilter, -⟩, -⟩ := id hSlips
  obtain ⟨statement, hStatement, hUnbounded⟩ := hSlips.exists_statement
  have hVerdict : mutation.verdict (schema.table key) = .ok (.number statement) :=
    BulkMutation.verdict_eq_ok.mpr ⟨statement, conditions, hStatement, hFilter, rfl⟩
  rw [dispatch_of_ofJson _ _ hOperation, sentSince_of_verdict hDeny hVerdict]
  exact ⟨statement, List.mem_singleton_self _, hUnbounded⟩

/-- A call without any condition is refused, and sends nothing. -/
theorem refused_of_filter_eq_none (hFilter : mutation.filter = none) :
    session.sentSince (session.dispatch schema world key kind.method args).2 = [] ∧
      (session.dispatch schema world key kind.method args).2.store = session.store ∧
      ∃ e, (session.dispatch schema world key kind.method args).1 = .error e ∧
        ∀ statement, mutation.statementUnder (schema.table key) none = .ok statement →
          e = .refused (.unboundedMutation (schema.table key).name mutation.kind) := by
  obtain ⟨e, hVerdict, hRefusal⟩ := BulkMutation.verdict_of_none hFilter
  obtain ⟨hFails, hSent⟩ := sentSince_of_verdict_error hDeny hVerdict
  rw [dispatch_of_ofJson _ _ hOperation]
  refine ⟨hSent, perform_store_of_error (Prod.ext hFails rfl), e, ?_, hRefusal⟩
  rw [hFails]
  rfl

end Calls

/-- **The policy**: where bulk mutations without a condition are refused, a mutation without a
clause is sent for exactly the calls that slip through, and those do what they would do without the
policy.  Calls without any condition are refused and send nothing. -/
theorem unbounded_sent_iff (schema : Schema ι) (world : World) (key : ι) (kind : BulkOperation)
    (args : Json) :
    ((∃ statement ∈ session.sentSince (session.dispatch schema world key kind.method args).2,
        statement.IsUnbounded) ↔
      ∃ mutation : BulkMutation, Operation.ofJson kind.method args = .ok mutation.operation ∧
        mutation.SlipsThrough (schema.table key)) ∧
    ∀ mutation : BulkMutation, Operation.ofJson kind.method args = .ok mutation.operation →
      (mutation.SlipsThrough (schema.table key) →
        session.perform schema world key mutation.operation =
          session.perform schema world key mutation.explicit) ∧
      (mutation.filter = none →
        session.sentSince (session.dispatch schema world key kind.method args).2 = [] ∧
        (session.dispatch schema world key kind.method args).2.store = session.store ∧
        ∃ e, (session.dispatch schema world key kind.method args).1 = .error e ∧
          ∀ statement, mutation.statementUnder (schema.table key) none = .ok statement →
            e = .refused (.unboundedMutation (schema.table key).name mutation.kind)) := by
  constructor
  · constructor
    · rintro ⟨statement, hSent, hUnbounded⟩
      exact exists_slipsThrough hDeny hSent hUnbounded
    · rintro ⟨mutation, hOperation, hSlips⟩
      exact exists_sent_isUnbounded hDeny hOperation hSlips
  · intro mutation hOperation
    exact ⟨perform_of_slipsThrough hDeny, refused_of_filter_eq_none hDeny hOperation⟩

end Deny

/-- The removal of the users under a condition without columns. -/
def idleRemoval : Json := .object [("where", .object [])]

/-- The removal slips through: it is sent without a clause, and leaves no user. -/
theorem unbounded_sent_idleRemoval :
    deskSession.policy = .deny ∧ deskSession.store.rowsOf "users" ≠ [] ∧
      (∃ statement ∈ deskSession.sentSince
          (deskSession.dispatch builtIn deskWorld .users BulkOperation.deleteMany.method
            idleRemoval).2,
        statement.IsUnbounded) ∧
      (deskSession.dispatch builtIn deskWorld .users BulkOperation.deleteMany.method
        idleRemoval).2.store.rowsOf "users" = [] := by
  have hDeny : deskSession.policy = .deny := rfl
  have hOperation : Operation.ofJson BulkOperation.deleteMany.method idleRemoval =
      .ok (BulkMutation.delete ⟨some []⟩).operation := by rfl
  have hSlips : (BulkMutation.delete ⟨some []⟩).SlipsThrough (builtIn.table .users) :=
    ⟨⟨[], rfl, by simp [Conditions.ConstrainNothing]⟩, trivial⟩
  have hPolicy := unbounded_sent_iff hDeny builtIn deskWorld .users .deleteMany idleRemoval
  have hSent := hPolicy.1.mpr ⟨_, hOperation, hSlips⟩
  exact ⟨hDeny, by decide +kernel, hSent, by decide +kernel⟩

end Session

end ModelStore
