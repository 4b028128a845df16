import ModelStore.Error
import ModelStore.Query.Options
import ModelStore.Schema.Basic
import ModelStore.Sql.Expr

/-!
# From conditions to SQL

The conditions of a caller become a conjunction of SQL conditions with bound values. All columns are looked up
before any value is looked at. The operators on one column come in a fixed order, whatever the order of the caller.

## Main definitions

* `Cell.ofJson`: the cell of a JSON value.
* `Conditions.compile`: the conjunction.
-/

namespace ModelStore

/-! ## Values -/

/-- The cell of a JSON value: booleans are 0 and 1, and an integer that no cell holds is a real number. -/
def Cell.ofJson (column : String) : Json → Except Error Cell
  | .null => .ok .null
  | .bool b => .ok (.int (if b then 1 else 0))
  | .int i => .ok (if Affinity.fitsCell i then .int i else .real (Binary64.ofInt i))
  | .real x => .ok (.real x)
  | .text s => .ok (.text s)
  | .list _ | .object _ => .error (.refused (.compoundValue column))

/-- The cells of some JSON values. -/
def Cell.ofJsons (column : String) (values : List Json) : Except Error (List Cell) :=
  values.mapM (Cell.ofJson column)

/-! ## Conditions -/

open Sql (Expr ColumnRef Comparison)

/-- The condition that a column equals a value; a null is asked for by name. -/
def compileEq (ref : ColumnRef) (value : Json) : Except Error Expr :=
  if value.isNull then .ok (.nullTest (.column ref) true)
  else return .compare (.column ref) .eq (← Cell.ofJson ref.name value)

/-- The condition that a column differs from a value; a null is asked for by name. -/
def compileNe (ref : ColumnRef) (value : Json) : Except Error Expr :=
  if value.isNull then .ok (.nullTest (.column ref) false)
  else return .compare (.column ref) .ne (← Cell.ofJson ref.name value)

/-- The condition that a column stands in an order relation to a value. -/
def compileOrder (ref : ColumnRef) (op : Comparison) (value : Json) : Except Error Expr :=
  return .compare (.column ref) op (← Cell.ofJson ref.name value)

/-- The condition that a column is one of some values. -/
def compileAmong (ref : ColumnRef) (values : List Json) : Except Error Expr :=
  return .member (.column ref) (← Cell.ofJsons ref.name values)

/-- What an operator compiles to, if it is there. -/
def compileIf {α : Type} (operand : Option α) (compile : α → Except Error Expr) : Except Error (List Expr) :=
  match operand with
  | none => .ok []
  | some value => return [← compile value]

/-- The conditions that the operators on a column stand for. -/
def Operators.compile (ref : ColumnRef) (ops : Operators) : Except Error (List Expr) := do
  let eq ← compileIf ops.eq (compileEq ref)
  let ne ← compileIf ops.ne (compileNe ref)
  let gt ← compileIf ops.gt (compileOrder ref .gt)
  let gte ← compileIf ops.gte (compileOrder ref .gte)
  let lt ← compileIf ops.lt (compileOrder ref .lt)
  let lte ← compileIf ops.lte (compileOrder ref .lte)
  let among ← compileIf ops.among (compileAmong ref)
  return eq ++ ne ++ gt ++ gte ++ lt ++ lte ++ among

/-- The conditions that one condition stands for. -/
def Condition.compile (ref : ColumnRef) : Condition → Except Error (List Expr)
  | .equals value => return [← compileEq ref value]
  | .operators ops => ops.compile ref

/-- The first column of some conditions that a table does not have. -/
def Conditions.unknownColumn? {ι : Type} (table : Table ι) (conditions : Conditions) : Option String :=
  (conditions.find? fun (column, _) => (table.column? column).isNone).map (·.1)

/-- The conjunction of conditions on columns that are known. -/
def Conditions.compileKnown (qualifier : Option String) : Conditions → Except Error (List Expr)
  | [] => .ok []
  | (column, condition) :: rest => do
    let terms ← condition.compile ⟨qualifier, column⟩
    return terms ++ (← Conditions.compileKnown qualifier rest)

/-- The conjunction that conditions on a table stand for, its columns qualified as given. -/
def Conditions.compile {ι : Type} (table : Table ι) (qualifier : Option String) (conditions : Conditions) :
    Except Error (List Expr) :=
  match conditions.unknownColumn? table with
  | some column => .error (.unknownColumn table.name column)
  | none => Conditions.compileKnown qualifier conditions

/-- The conjunction of conditions that may be absent. -/
def compileFilter {ι : Type} (table : Table ι) (qualifier : Option String) :
    Option Conditions → Except Error (List Expr)
  | none => .ok []
  | some conditions => conditions.compile table qualifier

end ModelStore
