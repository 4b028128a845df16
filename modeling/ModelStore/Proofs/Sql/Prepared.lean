import Mathlib
import ModelStore.Sql.Expr

/-!
# Prepared conditions

The store never sees the values of a condition in its text.  It prepares the text, in which a
placeholder stands for every value, and is handed the values in a list; reading the text from its
start, every placeholder takes the next value off the list.  A placeholder for which no value is
left is null.

A template is a condition as the store prepares it.  A conjunction that was prepared and got the
parameters of its conditions one after another is satisfied by the same rows as the conditions.

## Main definitions

* `Sql.Template`, `Sql.Expr.template`: prepared conditions, and that of a condition.
* `Sql.Template.run`: the value of a prepared condition, and the parameters that it leaves.
* `Sql.Template.allHold`: whether a prepared conjunction is satisfied.

## Main results

* `Sql.templateClause_map`: the text of a prepared conjunction is that of the conditions.
* `Sql.Template.allHold_map`: positional binding gives every placeholder its own value.
-/

namespace ModelStore.Sql

/-! ## Templates -/

/-- A condition with placeholders in place of its values. -/
inductive Template where
  | column (ref : ColumnRef)
  | compare (left : Template) (op : Comparison)
  /-- The falsehood that stands for membership in an empty list. -/
  | falsehood
  | member (left : Template) (count : Nat)
  | nullTest (left : Template) (isNull : Bool)
  deriving DecidableEq, Repr, Inhabited

/-- The condition as it is prepared. -/
def Expr.template : Expr → Template
  | column ref => .column ref
  | compare left op _ => .compare left.template op
  | member _ [] => .falsehood
  | member left values => .member left.template values.length
  | nullTest left isNull => .nullTest left.template isNull

/-- Whether a value is taken for true. -/
def isTrue : Cell → Bool
  | .int i => i != 0
  | .real x => !x.isZero
  | _ => false

theorem Expr.holds_eq (columns : ColumnRef → Cell × Affinity) (e : Expr) :
    e.holds columns = isTrue (e.eval columns) := by
  unfold Expr.holds isTrue
  rfl

namespace Template

/-- The text of a prepared condition. -/
def sql : Template → String
  | column ref => ref.sql
  | compare left op => left.sql ++ " " ++ op.sign ++ " ?"
  | falsehood => "0 = 1"
  | member left count => left.sql ++ " IN (" ++ placeholders count ++ ")"
  | nullTest left isNull => left.sql ++ (if isNull then " IS NULL" else " IS NOT NULL")

/-- The affinity of a prepared condition. -/
def affinity (columns : ColumnRef → Cell × Affinity) : Template → Affinity
  | column ref => (columns ref).2
  | _ => .none

/-- The value of a prepared condition that takes its values off a list of parameters, and the
parameters that are left. -/
def run (columns : ColumnRef → Cell × Affinity) : Template → List Cell → Cell × List Cell
  | column ref, params => ((columns ref).1, params)
  | compare left op, params =>
    let (value, params) := left.run columns params
    (Expr.compareCells op (left.affinity columns) value (params.headD .null), params.tail)
  | falsehood, params => (Expr.truth false, params)
  | member left count, params =>
    let (value, params) := left.run columns params
    (Expr.memberCells (left.affinity columns) value (params.take count), params.drop count)
  | nullTest left isNull, params =>
    let (value, params) := left.run columns params
    (Expr.truth (value.isNull == isNull), params)

/-- Whether a prepared conjunction is satisfied under some parameters. -/
def allHold (columns : ColumnRef → Cell × Affinity) : List Template → List Cell → Bool
  | [], _ => true
  | template :: rest, params =>
    let (value, params) := template.run columns params
    isTrue value && allHold columns rest params

end Template

/-- The clause of a prepared conjunction, nothing if it is empty. -/
def templateClause (templates : List Template) : String :=
  if templates.isEmpty then ""
  else " WHERE " ++ String.intercalate " AND " (templates.map Template.sql)

/-! ## The text -/

/-- Preparing a condition does not change its text. -/
theorem Expr.sql_template (e : Expr) : e.template.sql = e.sql := by
  induction e with
  | column ref => rfl
  | compare left op right ih => simp [Expr.template, Template.sql, Expr.sql, ih]
  | member left values ih =>
      cases values with
      | nil => rfl
      | cons value values => simp [Expr.template, Template.sql, Expr.sql, ih]
  | nullTest left isNull ih => simp [Expr.template, Template.sql, Expr.sql, ih]

/-- Preparing a conjunction does not change its text. -/
theorem templateClause_map (terms : List Expr) :
    templateClause (terms.map Expr.template) = whereClause terms := by
  have hTexts : Template.sql ∘ Expr.template = Expr.sql := funext Expr.sql_template
  simp [templateClause, whereClause, hTexts]

/-! ## Positional binding -/

variable {columns : ColumnRef → Cell × Affinity}

theorem Expr.affinity_template (e : Expr) :
    e.template.affinity columns = e.affinity columns := by
  cases e with
  | member left values => cases values <;> rfl
  | _ => rfl

/-- A prepared condition takes just its own values off the parameters, and then has the value of
the condition. -/
theorem Template.run_template (e : Expr) (rest : List Cell) :
    e.template.run columns (e.params ++ rest) = (e.eval columns, rest) := by
  induction e generalizing rest with
  | column ref => rfl
  | compare left op right ih =>
      have hLeft := ih (right :: rest)
      simp only [Expr.params, List.append_assoc, List.singleton_append, Expr.template,
        Template.run, hLeft, Expr.affinity_template, Expr.eval]
      rfl
  | member left values ih =>
      cases values with
      | nil => rfl
      | cons value values =>
          have hLeft := ih (value :: values ++ rest)
          simp only [Expr.params, List.append_assoc, Expr.template, Template.run, hLeft,
            Expr.affinity_template, Expr.eval, List.take_left, List.drop_left]
  | nullTest left isNull ih =>
      simp only [Expr.params, Expr.template, Template.run, ih rest, Expr.eval]

/-- **Positional binding**: a prepared conjunction under the parameters of its conditions, one
after another, is satisfied just if the conditions are, whatever parameters follow. -/
theorem Template.allHold_map (terms : List Expr) (rest : List Cell) :
    Template.allHold columns (terms.map Expr.template) (conjunctionParams terms ++ rest) =
      Sql.allHold columns terms := by
  induction terms with
  | nil => rfl
  | cons e terms ih =>
      have hParams : conjunctionParams (e :: terms) ++ rest =
          e.params ++ (conjunctionParams terms ++ rest) := by
        simp [conjunctionParams]
      rw [List.map_cons, Template.allHold, hParams, Template.run_template]
      simp only [ih]
      rw [← Expr.holds_eq]
      rfl

end ModelStore.Sql
