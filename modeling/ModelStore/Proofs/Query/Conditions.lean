import ModelStore.Proofs.Sql.Prepared
import ModelStore.Proofs.Store.Keeping
import ModelStore.Schema.BuiltIn

/-!
# What conditions mean

Conditions are compiled to SQL, where a comparison with a null is neither true nor false, a null
has to be asked for by name, membership in an empty list has no text of its own, and operands are
converted by the affinity of the column that they are compared with.  A caller sees none of this:
a condition on a column is a statement about the value that stands in it.

The statement is made here without the compiler.  It needs only the one conversion that is
documented: the affinity of the column is applied to the operand.  The value in the column has
been through it already when it was stored, so that converting it again changes nothing.

## Main definitions

* `Json.bound`, `Affinity.operand`: the value that an operand is bound as, and its conversion.
* `Relates`: how a value compares with an operand.
* `Condition.Holds`, `Conditions.Holds`: what a condition on a value, and conditions on a row, say.

## Main results

* `Conditions.compile_correct`: a row satisfies the compiled clause just if it satisfies all of the
  conditions.
-/

namespace ModelStore

open Sql (Expr ColumnRef Comparison Template)

/-! ## Operands -/

/-- The value that an operand is bound as; a list or an object is never bound. -/
def Json.bound (operand : Json) : Cell :=
  match Cell.ofJson "" operand with
  | .ok cell => cell
  | .error _ => .null

/-- An operand as the affinity of a column converts it. -/
def Affinity.operand : Affinity → Cell → Cell
  | .none, cell => cell
  | .text, cell => toText cell
  | .integer, cell | .real, cell => toNumber cell

theorem bound_of_ofJson {column : String} {operand : Json} {cell : Cell}
    (hCell : Cell.ofJson column operand = .ok cell) : operand.bound = cell := by
  cases operand <;> simp_all [Json.bound, Cell.ofJson]

theorem bound_of_ofJsons {column : String} {operands : List Json} :
    ∀ {cells : List Cell}, Cell.ofJsons column operands = .ok cells →
      cells = operands.map Json.bound := by
  induction operands with
  | nil =>
      intro cells hCells
      cases hCells
      rfl
  | cons operand operands ih =>
      intro cells hCells
      rw [Cell.ofJsons, List.mapM_cons, bind_eq_ok] at hCells
      obtain ⟨cell, hCell, hRest⟩ := hCells
      obtain ⟨others, hOthers, hPure⟩ := bind_eq_ok.mp hRest
      rw [pure_eq_ok] at hPure
      rw [← hPure, List.map_cons, bound_of_ofJson hCell, ← ih hOthers]

namespace Affinity

theorem integral_ne_text (x : Binary64) (s : String) : integral x ≠ .text s := by
  unfold integral
  split
  · split <;> simp
  · simp

/-- A column converts nothing that it keeps. -/
theorem Keeps.operand_eq {affinity : Affinity} {cell : Cell} (hKeeps : affinity.Keeps cell) :
    affinity.operand cell = cell := by
  cases affinity with
  | none => rfl
  | text => exact hKeeps
  | integer =>
      cases cell with
      | text s =>
          -- A text that denotes a number would not have been kept as a text.
          rcases numberOf_cases s with h | ⟨i, h⟩ | ⟨x, h⟩
          · simp [operand, toNumber, h]
          · simp [Keeps, store, toNumber, h] at hKeeps
          · simp [Keeps, store, toNumber, h, integral_ne_text] at hKeeps
      | _ => rfl
  | real =>
      cases cell with
      | text s =>
          rcases numberOf_cases s with h | ⟨i, h⟩ | ⟨x, h⟩
          · simp [operand, toNumber, h]
          · simp [Keeps, store, toNumber, h] at hKeeps
          · simp [Keeps, store, toNumber, h] at hKeeps
      | _ => rfl

/-- The two sides of a comparison with a bound value: each is converted by the affinity of the
column. -/
theorem align_none (affinity : Affinity) (value operand : Cell) :
    align affinity .none value operand = (affinity.operand value, affinity.operand operand) := by
  cases affinity <;> rfl

end Affinity

/-! ## Meaning -/

/-- Whether a value stands in a relation to an operand, given the affinity of its column.  A null
stands in none. -/
def Relates (op : Comparison) (value : Cell × Affinity) (operand : Cell) : Prop :=
  value.1 ≠ .null ∧ operand ≠ .null ∧
    op.holds (Cell.order value.1 (value.2.operand operand)) = true

instance (op : Comparison) (value : Cell × Affinity) (operand : Cell) :
    Decidable (Relates op value operand) :=
  inferInstanceAs (Decidable (_ ∧ _))

/-- Whether a value is the one asked for.  Asking for null asks for the null. -/
def IsOperand (value : Cell × Affinity) (operand : Json) : Prop :=
  if operand.isNull then value.1 = .null else Relates .eq value operand.bound

instance (value : Cell × Affinity) (operand : Json) : Decidable (IsOperand value operand) :=
  inferInstanceAs (Decidable (if operand.isNull then _ else _))

/-- Whether a value is another than the one given.  Other than null is what is not null. -/
def IsNotOperand (value : Cell × Affinity) (operand : Json) : Prop :=
  if operand.isNull then value.1 ≠ .null else Relates .ne value operand.bound

instance (value : Cell × Affinity) (operand : Json) : Decidable (IsNotOperand value operand) :=
  inferInstanceAs (Decidable (if operand.isNull then _ else _))

/-- What the operators on a column say about the value in it: all of them have to be met. -/
def Operators.Holds (value : Cell × Affinity) (ops : Operators) : Prop :=
  (∀ operand ∈ ops.eq, IsOperand value operand) ∧
  (∀ operand ∈ ops.ne, IsNotOperand value operand) ∧
  (∀ operand ∈ ops.gt, Relates .gt value operand.bound) ∧
  (∀ operand ∈ ops.gte, Relates .gte value operand.bound) ∧
  (∀ operand ∈ ops.lt, Relates .lt value operand.bound) ∧
  (∀ operand ∈ ops.lte, Relates .lte value operand.bound) ∧
  (∀ operands ∈ ops.among, ∃ operand ∈ operands, Relates .eq value operand.bound)

instance (value : Cell × Affinity) (ops : Operators) : Decidable (ops.Holds value) :=
  inferInstanceAs (Decidable (_ ∧ _))

/-- What a condition on a column says about the value in it. -/
def Condition.Holds (value : Cell × Affinity) : Condition → Prop
  | .equals operand => IsOperand value operand
  | .operators ops => ops.Holds value

instance (value : Cell × Affinity) : (condition : Condition) → Decidable (condition.Holds value)
  | .equals operand => inferInstanceAs (Decidable (IsOperand value operand))
  | .operators ops => inferInstanceAs (Decidable (ops.Holds value))

/-- What conditions say about a row of a table: all of them have to be met. -/
def Conditions.Holds {ι : Type} (table : Table ι) (row : StoredRow) (conditions : Conditions) :
    Prop :=
  ∀ entry ∈ conditions, entry.2.Holds (table.value row entry.1)

instance {ι : Type} (table : Table ι) (row : StoredRow) (conditions : Conditions) :
    Decidable (conditions.Holds table row) :=
  inferInstanceAs (Decidable (∀ entry ∈ conditions, entry.2.Holds (table.value row entry.1)))

/-! ## Single conditions -/

theorem isNull_eq_true_iff {cell : Cell} : cell.isNull = true ↔ cell = .null := by
  cases cell <;> simp [Cell.isNull]

theorem isTrue_truth (b : Bool) : Sql.isTrue (Expr.truth b) = b := by
  cases b <;> rfl

section Single

variable {columns : ColumnRef → Cell × Affinity} {ref : ColumnRef}

/-- A comparison with a bound value is true just if the value in the column stands in that relation
to it. -/
theorem compareCells_true_iff {op : Comparison} {value operand : Cell} {affinity : Affinity}
    (hKept : affinity.operand value = value) :
    Sql.isTrue (Expr.compareCells op affinity value operand) = true ↔
      Relates op (value, affinity) operand := by
  unfold Expr.compareCells Relates
  rw [Affinity.align_none, hKept]
  by_cases hValue : value = .null
  · simp [hValue, Cell.isNull, Sql.isTrue]
  · by_cases hOperand : operand = .null
    · simp [hOperand, Cell.isNull, Sql.isTrue]
    · have hFree : ¬((value.isNull || operand.isNull) = true) := by
        rw [Bool.or_eq_true, isNull_eq_true_iff, isNull_eq_true_iff]
        exact not_or.mpr ⟨hValue, hOperand⟩
      rw [if_neg hFree, isTrue_truth]
      simp [hValue, hOperand]

/-- A comparison is null, true or false; only where it is true it is taken for true. -/
theorem compareCells_beq_true {op : Comparison} {affinity : Affinity} {value operand : Cell} :
    (Expr.compareCells op affinity value operand == Expr.truth true) =
      Sql.isTrue (Expr.compareCells op affinity value operand) := by
  unfold Expr.compareCells
  split
  · rfl
  · dsimp only
    generalize op.holds _ = b
    cases b <;> rfl

/-- A membership is true just if some member is equal; without members it never is. -/
theorem memberCells_true_iff {value : Cell} {operands : List Cell} {affinity : Affinity}
    (hKept : affinity.operand value = value) :
    Sql.isTrue (Expr.memberCells affinity value operands) = true ↔
      ∃ operand ∈ operands, Relates .eq (value, affinity) operand := by
  have hAny : (operands.any fun v =>
      Expr.compareCells .eq affinity value v == Expr.truth true) = true ↔
        ∃ operand ∈ operands, Relates .eq (value, affinity) operand := by
    simp only [List.any_eq_true, compareCells_beq_true, compareCells_true_iff hKept]
  unfold Expr.memberCells
  split_ifs with hEmpty hNull hSome hUnknown
  · rw [List.isEmpty_iff.mp hEmpty]
    simp [isTrue_truth]
  · rw [isNull_eq_true_iff] at hNull
    simp [hNull, Relates, Sql.isTrue]
  · rw [← hAny]
    simp [hSome, isTrue_truth]
  · rw [← hAny]
    simp [hSome, Sql.isTrue]
  · rw [← hAny]
    simp [hSome, isTrue_truth]

variable (hKept : (columns ref).2.operand (columns ref).1 = (columns ref).1)

include hKept

/-- What the condition that a column equals a value comes to. -/
theorem compileEq_iff {operand : Json} {e : Expr} (hCompiled : compileEq ref operand = .ok e) :
    e.holds columns = true ↔ IsOperand (columns ref) operand := by
  unfold compileEq at hCompiled
  unfold IsOperand
  rw [Expr.holds_eq]
  split_ifs at hCompiled ⊢ with hNull
  · cases hCompiled
    simp [Expr.eval, isTrue_truth, isNull_eq_true_iff]
  · obtain ⟨cell, hCell, hPure⟩ := bind_eq_ok.mp hCompiled
    rw [← pure_eq_ok.mp hPure, bound_of_ofJson hCell]
    exact compareCells_true_iff hKept

/-- What the condition that a column differs from a value comes to. -/
theorem compileNe_iff {operand : Json} {e : Expr} (hCompiled : compileNe ref operand = .ok e) :
    e.holds columns = true ↔ IsNotOperand (columns ref) operand := by
  unfold compileNe at hCompiled
  unfold IsNotOperand
  rw [Expr.holds_eq]
  split_ifs at hCompiled ⊢ with hNull
  · cases hCompiled
    simp [Expr.eval, isTrue_truth, ← isNull_eq_true_iff]
  · obtain ⟨cell, hCell, hPure⟩ := bind_eq_ok.mp hCompiled
    rw [← pure_eq_ok.mp hPure, bound_of_ofJson hCell]
    exact compareCells_true_iff hKept

/-- What the condition that a column stands in an order relation to a value comes to. -/
theorem compileOrder_iff {op : Comparison} {operand : Json} {e : Expr}
    (hCompiled : compileOrder ref op operand = .ok e) :
    e.holds columns = true ↔ Relates op (columns ref) operand.bound := by
  obtain ⟨cell, hCell, hPure⟩ := bind_eq_ok.mp hCompiled
  rw [← pure_eq_ok.mp hPure, bound_of_ofJson hCell, Expr.holds_eq]
  exact compareCells_true_iff hKept

/-- What the condition that a column is one of some values comes to. -/
theorem compileAmong_iff {operands : List Json} {e : Expr}
    (hCompiled : compileAmong ref operands = .ok e) :
    e.holds columns = true ↔ ∃ operand ∈ operands, Relates .eq (columns ref) operand.bound := by
  obtain ⟨cells, hCells, hPure⟩ := bind_eq_ok.mp hCompiled
  rw [← pure_eq_ok.mp hPure, bound_of_ofJsons hCells, Expr.holds_eq]
  refine (memberCells_true_iff hKept).trans ?_
  simp

end Single

/-! ## Conjunctions -/

section Conjunction

variable {columns : ColumnRef → Cell × Affinity}

theorem allHold_append (terms others : List Expr) :
    Sql.allHold columns (terms ++ others) = true ↔
      Sql.allHold columns terms = true ∧ Sql.allHold columns others = true := by
  simp [Sql.allHold, List.all_append]

theorem allHold_singleton (e : Expr) :
    Sql.allHold columns [e] = true ↔ e.holds columns = true := by
  simp [Sql.allHold]

/-- An operator that is not there says nothing. -/
theorem compileIf_iff {α : Type} {operand : Option α} {compile : α → Except Error Expr}
    {terms : List Expr} {meaning : α → Prop} (hCompiled : compileIf operand compile = .ok terms)
    (hEach : ∀ {value e}, compile value = .ok e → (e.holds columns = true ↔ meaning value)) :
    Sql.allHold columns terms = true ↔ ∀ value ∈ operand, meaning value := by
  cases operand with
  | none =>
      cases hCompiled
      simp [Sql.allHold]
  | some value =>
      obtain ⟨e, hValue, hPure⟩ := bind_eq_ok.mp hCompiled
      rw [← pure_eq_ok.mp hPure, allHold_singleton, hEach hValue]
      simp

variable {ref : ColumnRef}

/-- What the operators on a column come to. -/
theorem Operators.compile_iff (hKept : (columns ref).2.operand (columns ref).1 = (columns ref).1)
    {ops : Operators} {terms : List Expr} (hCompiled : ops.compile ref = .ok terms) :
    Sql.allHold columns terms = true ↔ ops.Holds (columns ref) := by
  unfold Operators.compile at hCompiled
  simp only [bind_eq_ok] at hCompiled
  obtain ⟨eq, hEq, ne, hNe, gt, hGt, gte, hGte, lt, hLt, lte, hLte, among, hAmong, hPure⟩ :=
    hCompiled
  rw [← pure_eq_ok.mp hPure]
  simp only [allHold_append, and_assoc]
  rw [compileIf_iff hEq (compileEq_iff hKept), compileIf_iff hNe (compileNe_iff hKept),
    compileIf_iff hGt (compileOrder_iff hKept), compileIf_iff hGte (compileOrder_iff hKept),
    compileIf_iff hLt (compileOrder_iff hKept), compileIf_iff hLte (compileOrder_iff hKept),
    compileIf_iff hAmong (compileAmong_iff hKept)]
  rfl

/-- What a condition on a column comes to. -/
theorem Condition.compile_iff (hKept : (columns ref).2.operand (columns ref).1 = (columns ref).1)
    {condition : Condition} {terms : List Expr} (hCompiled : condition.compile ref = .ok terms) :
    Sql.allHold columns terms = true ↔ condition.Holds (columns ref) := by
  cases condition with
  | equals operand =>
      obtain ⟨e, hOperand, hPure⟩ := bind_eq_ok.mp hCompiled
      rw [← pure_eq_ok.mp hPure, allHold_singleton, compileEq_iff hKept hOperand]
      rfl
  | operators ops => exact ops.compile_iff hKept hCompiled

end Conjunction

/-! ## Columns that are named -/

section Reference

variable {ref : ColumnRef}

theorem ref_of_compileEq {operand : Json} {e : Expr} (hCompiled : compileEq ref operand = .ok e) :
    e.ref = ref := by
  unfold compileEq at hCompiled
  split at hCompiled
  · cases hCompiled
    rfl
  · obtain ⟨cell, -, hPure⟩ := bind_eq_ok.mp hCompiled
    rw [← pure_eq_ok.mp hPure]
    rfl

theorem ref_of_compileNe {operand : Json} {e : Expr} (hCompiled : compileNe ref operand = .ok e) :
    e.ref = ref := by
  unfold compileNe at hCompiled
  split at hCompiled
  · cases hCompiled
    rfl
  · obtain ⟨cell, -, hPure⟩ := bind_eq_ok.mp hCompiled
    rw [← pure_eq_ok.mp hPure]
    rfl

theorem ref_of_compileOrder {op : Comparison} {operand : Json} {e : Expr}
    (hCompiled : compileOrder ref op operand = .ok e) : e.ref = ref := by
  obtain ⟨cell, -, hPure⟩ := bind_eq_ok.mp hCompiled
  rw [← pure_eq_ok.mp hPure]
  rfl

theorem ref_of_compileAmong {operands : List Json} {e : Expr}
    (hCompiled : compileAmong ref operands = .ok e) : e.ref = ref := by
  obtain ⟨cells, -, hPure⟩ := bind_eq_ok.mp hCompiled
  rw [← pure_eq_ok.mp hPure]
  rfl

theorem ref_of_compileIf {α : Type} {operand : Option α} {compile : α → Except Error Expr}
    {terms : List Expr} (hCompiled : compileIf operand compile = .ok terms)
    (hEach : ∀ {value e}, compile value = .ok e → e.ref = ref) : ∀ e ∈ terms, e.ref = ref := by
  cases operand with
  | none =>
      cases hCompiled
      simp
  | some value =>
      obtain ⟨e, hValue, hPure⟩ := bind_eq_ok.mp hCompiled
      rw [← pure_eq_ok.mp hPure]
      simpa using hEach hValue

/-- The terms of a condition are on the column of the condition. -/
theorem Condition.ref_of_compile {condition : Condition} {terms : List Expr}
    (hCompiled : condition.compile ref = .ok terms) : ∀ e ∈ terms, e.ref = ref := by
  cases condition with
  | equals operand =>
      obtain ⟨e, hOperand, hPure⟩ := bind_eq_ok.mp hCompiled
      rw [← pure_eq_ok.mp hPure]
      simpa using ref_of_compileEq hOperand
  | operators ops =>
      rw [Condition.compile] at hCompiled
      unfold Operators.compile at hCompiled
      simp only [bind_eq_ok] at hCompiled
      obtain ⟨eq, hEq, ne, hNe, gt, hGt, gte, hGte, lt, hLt, lte, hLte, among, hAmong, hPure⟩ :=
        hCompiled
      rw [← pure_eq_ok.mp hPure]
      simp only [List.forall_mem_append, and_assoc]
      exact ⟨ref_of_compileIf hEq ref_of_compileEq, ref_of_compileIf hNe ref_of_compileNe,
        ref_of_compileIf hGt ref_of_compileOrder, ref_of_compileIf hGte ref_of_compileOrder,
        ref_of_compileIf hLt ref_of_compileOrder, ref_of_compileIf hLte ref_of_compileOrder,
        ref_of_compileIf hAmong ref_of_compileAmong⟩

end Reference

/-! ## Conditions on a row -/

section Row

variable {ι : Type} {table : Table ι} {stored : StoredTable} {row : StoredRow}

/-- Where the only row in scope is one of a table, a column of it means the value under it. -/
theorem StoredTable.Holds.lookup_bind (hHolds : stored.Holds table) (hRow : row ∈ stored.rows)
    {name : String} {column : Column} (hColumn : table.column? name = some column)
    {label : String} {qualifier : Option String}
    (hLabel : ∀ q ∈ qualifier, sameName label q = true) :
    Bindings.lookup [stored.bind label row] ⟨qualifier, name⟩ = table.value row name := by
  have hCell := hHolds.cell?_bind hRow hColumn label
  have hFound : Bindings.cell? name [stored.bind label row] = some (table.value row name) := by
    simp [Bindings.cell?, hCell]
  cases qualifier with
  | none => simp [Bindings.lookup, hFound]
  | some q =>
      have hSame : sameName (stored.bind label row).name q = true := hLabel q rfl
      simp [Bindings.lookup, hSame, hFound]

/-- Conditions on columns that are known come to what they say about the row. -/
theorem compileKnown_iff (hHolds : stored.Holds table) (hRow : row ∈ stored.rows) {label : String}
    {qualifier : Option String} (hLabel : ∀ q ∈ qualifier, sameName label q = true)
    {conditions : Conditions} :
    ∀ {terms : List Expr}, (∀ entry ∈ conditions, (table.column? entry.1).isSome = true) →
      Conditions.compileKnown qualifier conditions = .ok terms →
      (Sql.allHold (Bindings.lookup [stored.bind label row]) terms = true ↔
        conditions.Holds table row) := by
  induction conditions with
  | nil =>
      intro terms _ hCompiled
      cases hCompiled
      simp [Sql.allHold, Conditions.Holds]
  | cons entry conditions ih =>
      intro terms hKnown hCompiled
      obtain ⟨name, condition⟩ := entry
      rw [List.forall_mem_cons] at hKnown
      obtain ⟨column, hColumn⟩ := Option.isSome_iff_exists.mp hKnown.1
      obtain ⟨own, hOwn, hRest⟩ := bind_eq_ok.mp hCompiled
      obtain ⟨others, hOthers, hPure⟩ := bind_eq_ok.mp hRest
      have hLookup := hHolds.lookup_bind hRow hColumn hLabel
      obtain ⟨hValue, hKeeps⟩ := hHolds.value_of_column? hRow hColumn
      have hKept : (table.value row name).2.operand (table.value row name).1 =
          (table.value row name).1 := by
        rw [hValue]
        exact hKeeps.operand_eq
      rw [← hLookup] at hKept
      rw [← pure_eq_ok.mp hPure, allHold_append, condition.compile_iff hKept hOwn, hLookup,
        ih hKnown.2 hOthers]
      unfold Conditions.Holds
      rw [List.forall_mem_cons]

/-- Conditions that are compiled are on columns of the table. -/
theorem Conditions.known_of_compile {qualifier : Option String} {conditions : Conditions}
    {terms : List Expr} (hCompiled : conditions.compile table qualifier = .ok terms) :
    (∀ entry ∈ conditions, (table.column? entry.1).isSome = true) ∧
      Conditions.compileKnown qualifier conditions = .ok terms := by
  unfold Conditions.compile at hCompiled
  split at hCompiled
  · cases hCompiled
  · rename_i hKnown
    refine ⟨?_, hCompiled⟩
    simpa [Conditions.unknownColumn?, Option.isSome_iff_ne_none] using hKnown

/-- The terms of conditions that are compiled are on columns of the table, under the qualifier that
was given. -/
theorem Conditions.ref_of_compile {qualifier : Option String} {conditions : Conditions}
    {terms : List Expr} (hCompiled : conditions.compile table qualifier = .ok terms) :
    ∀ e ∈ terms, e.ref.qualifier = qualifier ∧ (table.column? e.ref.name).isSome = true := by
  obtain ⟨hKnown, hTerms⟩ := Conditions.known_of_compile hCompiled
  clear hCompiled
  induction conditions generalizing terms with
  | nil =>
      cases hTerms
      simp
  | cons entry conditions ih =>
      obtain ⟨name, condition⟩ := entry
      rw [List.forall_mem_cons] at hKnown
      obtain ⟨own, hOwn, hRest⟩ := bind_eq_ok.mp hTerms
      obtain ⟨others, hOthers, hPure⟩ := bind_eq_ok.mp hRest
      rw [← pure_eq_ok.mp hPure, List.forall_mem_append]
      refine ⟨fun e he => ?_, ih hKnown.2 hOthers⟩
      rw [condition.ref_of_compile hOwn e he]
      exact ⟨rfl, hKnown.1⟩

/-- A conjunction that was compiled is satisfied by a row just if the row satisfies all of the
conditions. -/
theorem Conditions.allHold_iff (hHolds : stored.Holds table) (hRow : row ∈ stored.rows)
    {label : String} {qualifier : Option String}
    (hLabel : ∀ q ∈ qualifier, sameName label q = true) {conditions : Conditions}
    {terms : List Expr} (hCompiled : conditions.compile table qualifier = .ok terms) :
    Sql.allHold (Bindings.lookup [stored.bind label row]) terms = true ↔
      conditions.Holds table row := by
  obtain ⟨hKnown, hTerms⟩ := Conditions.known_of_compile hCompiled
  exact compileKnown_iff hHolds hRow hLabel hKnown hTerms

/-- **Conditions and their clause**: the text that is sent is that of the prepared conjunction, and
where a row of the table is in scope, this is satisfied under the parameters that are sent, bound
in their order, just if the row satisfies every one of the conditions. -/
theorem Conditions.compile_correct (hHolds : stored.Holds table) (hRow : row ∈ stored.rows)
    {label : String} {qualifier : Option String}
    (hLabel : ∀ q ∈ qualifier, sameName label q = true) {conditions : Conditions}
    {terms : List Expr} (hCompiled : conditions.compile table qualifier = .ok terms) :
    Sql.templateClause (terms.map Expr.template) = Sql.whereClause terms ∧
      (Template.allHold (Bindings.lookup [stored.bind label row]) (terms.map Expr.template)
          (Sql.conjunctionParams terms) = true ↔
        ∀ entry ∈ conditions, entry.2.Holds (table.value row entry.1)) := by
  refine ⟨Sql.templateClause_map terms, ?_⟩
  have hBound : Template.allHold (Bindings.lookup [stored.bind label row])
      (terms.map Expr.template) (Sql.conjunctionParams terms ++ []) = _ :=
    Template.allHold_map terms []
  rw [← List.append_nil (Sql.conjunctionParams terms), hBound]
  exact Conditions.allHold_iff hHolds hRow hLabel hCompiled

end Row

/-! ## A row of the built-in tables -/

/-- A printer. -/
def frontDesk : StoredRow := ⟨1, [.text "p1", .text "Front desk", .int 1, .text "u1"]⟩

/-- The stored printers, with one row. -/
def storedPrinters : StoredTable :=
  { name := "printers"
    columns := BuiltIn.printersTable.columns.map Column.stored
    rowId := none
    distinct := [0]
    rows := [frontDesk] }

/-- The printers of one user that are defaults, asked for under the name of the table: the row at
hand is one. -/
theorem Conditions.compile_correct_frontDesk :
    Template.allHold (Bindings.lookup [storedPrinters.bind "printers" frontDesk])
        [ .compare (.column ⟨"printers", "isDefault"⟩) .eq
        , .nullTest (.column ⟨"printers", "userId"⟩) false
        , .member (.column ⟨"printers", "userId"⟩) 2 ]
        [.int 1, .null, .text "u1"] = true ↔
      ∀ entry ∈
        ([ ("isDefault", .equals (.bool true))
         , ("userId", .operators
            { Operators.empty with ne := some .null, among := some [.null, .text "u1"] }) ] :
          Conditions),
        entry.2.Holds (BuiltIn.printersTable.value frontDesk entry.1) :=
  have hHolds : storedPrinters.Holds BuiltIn.printersTable := by decide +kernel
  have hRow : frontDesk ∈ storedPrinters.rows := by simp [storedPrinters]
  have hLabel : ∀ q ∈ some "printers", sameName "printers" q = true := by simp
  have hCompiled : Conditions.compile BuiltIn.printersTable (some "printers")
      [ ("isDefault", .equals (.bool true))
      , ("userId", .operators
          { Operators.empty with ne := some .null, among := some [.null, .text "u1"] }) ] =
      .ok
        [ .compare (.column ⟨"printers", "isDefault"⟩) .eq (.int 1)
        , .nullTest (.column ⟨"printers", "userId"⟩) false
        , .member (.column ⟨"printers", "userId"⟩) [.null, .text "u1"] ] :=
    ok_of_toOption (by decide +kernel)
  (Conditions.compile_correct hHolds hRow hLabel hCompiled).2

end ModelStore
