import ModelStore.Sql.Name
import ModelStore.Store.Cell

/-!
# Conditions in SQL

A condition is a column under comparisons with bound values. Its text has a placeholder for every bound value, and
its parameters stand in the order of the placeholders. Its value is three-valued: a comparison with a null is
null, and a row satisfies a condition only if the value is true.

## Main definitions

* `Sql.Expr`: conditions.
* `Sql.Expr.sql`, `Sql.Expr.params`: text and parameters.
* `Sql.Expr.eval`: the value, given the columns.
-/

namespace ModelStore.Sql

/-- The comparisons. -/
inductive Comparison where
  | eq
  | ne
  | gt
  | gte
  | lt
  | lte
  deriving DecidableEq, Repr, Inhabited

/-- The sign of a comparison. -/
def Comparison.sign : Comparison → String
  | .eq => "="
  | .ne => "!="
  | .gt => ">"
  | .gte => ">="
  | .lt => "<"
  | .lte => "<="

/-- Whether a comparison holds of two operands in the order given. -/
def Comparison.holds : Comparison → Ordering → Bool
  | .eq, o => o == .eq
  | .ne, o => o != .eq
  | .gt, o => o == .gt
  | .gte, o => o != .lt
  | .lt, o => o == .lt
  | .lte, o => o != .gt

/-- A condition. -/
inductive Expr where
  | column (ref : ColumnRef)
  | compare (left : Expr) (op : Comparison) (right : Cell)
  | member (left : Expr) (values : List Cell)
  | nullTest (left : Expr) (isNull : Bool)
  deriving DecidableEq, Repr, Inhabited

/-- So many placeholders. -/
def placeholders (n : Nat) : String := String.intercalate ", " (List.replicate n "?")

namespace Expr

/-! ## Text -/

/-- The text of a condition. Membership in an empty list is a falsehood that names nothing. -/
def sql : Expr → String
  | column ref => ref.sql
  | compare left op _ => left.sql ++ " " ++ op.sign ++ " ?"
  | member _ [] => "0 = 1"
  | member left values => left.sql ++ " IN (" ++ placeholders values.length ++ ")"
  | nullTest left isNull => left.sql ++ (if isNull then " IS NULL" else " IS NOT NULL")

/-- The bound values of a condition, in the order of their placeholders. -/
def params : Expr → List Cell
  | column _ => []
  | compare left _ right => left.params ++ [right]
  | member _ [] => []
  | member left values => left.params ++ values
  | nullTest left _ => left.params

/-! ## Value -/

/-- A truth value as a cell. -/
def truth (b : Bool) : Cell := .int (if b then 1 else 0)

/-- The value of a comparison after conversion; null if an operand is. -/
def compareCells (op : Comparison) (affinity : Affinity) (left right : Cell) : Cell :=
  if left.isNull || right.isNull then .null
  else
    let (l, r) := Affinity.align affinity .none left right
    truth (op.holds (Cell.order l r))

/-- The value of a membership: true if a member is equal, else null if a null is involved. -/
def memberCells (affinity : Affinity) (left : Cell) (values : List Cell) : Cell :=
  if values.isEmpty then truth false
  else if left.isNull then .null
  else if values.any fun v => compareCells .eq affinity left v == truth true then truth true
  else if values.any Cell.isNull then .null
  else truth false

/-- The affinity of a condition: that of a column, and none otherwise. -/
def affinity (columns : ColumnRef → Cell × Affinity) : Expr → Affinity
  | column ref => (columns ref).2
  | _ => .none

/-- The value of a condition, given those of the columns with their affinities. -/
def eval (columns : ColumnRef → Cell × Affinity) : Expr → Cell
  | column ref => (columns ref).1
  | compare left op right => compareCells op (left.affinity columns) (left.eval columns) right
  | member left values => memberCells (left.affinity columns) (left.eval columns) values
  | nullTest left isNull => truth ((left.eval columns).isNull == isNull)

/-- Whether a condition is satisfied. -/
def holds (columns : ColumnRef → Cell × Affinity) (e : Expr) : Bool :=
  match e.eval columns with
  | .int i => i != 0
  | .real x => !x.isZero
  | _ => false

/-- The column that a condition is about. -/
def ref : Expr → ColumnRef
  | column ref => ref
  | compare left _ _ => left.ref
  | member left _ => left.ref
  | nullTest left _ => left.ref

/-- How many operations stand one inside another in a condition, names included. -/
def height : Expr → Nat
  | column ref => if ref.qualifier.isSome then 2 else 1
  | compare left _ _ => left.height + 1
  | member _ [] => 2
  | member left _ => left.height + 1
  | nullTest left _ => left.height + 1

end Expr

/-! ## Conjunctions -/

/-- The clause of a conjunction, nothing if it is empty. -/
def whereClause (terms : List Expr) : String :=
  if terms.isEmpty then "" else " WHERE " ++ String.intercalate " AND " (terms.map Expr.sql)

/-- The bound values of a conjunction. -/
def conjunctionParams (terms : List Expr) : List Cell := terms.flatMap Expr.params

/-- How many operations stand one inside another in a conjunction, which is read from its start. -/
def conjunctionHeight : List Expr → Nat
  | [] => 0
  | first :: rest => rest.foldl (fun height term => max height term.height + 1) first.height

/-- The greatest height of a conjunction. -/
def heightLimit : Nat := 1000

/-- Whether a conjunction is satisfied. -/
def allHold (columns : ColumnRef → Cell × Affinity) (terms : List Expr) : Bool :=
  terms.all (Expr.holds columns)

end ModelStore.Sql
