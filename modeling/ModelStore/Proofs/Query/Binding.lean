import ModelStore.Proofs.Query.Statements
import ModelStore.Proofs.Sql.Placeholders

/-!
# Parameters answer placeholders

Conditions and plans are written along with their parameters: all of them put theirs into one list,
behind those that are there already, and go on with the list that comes back.  Writing a plan puts
in the parameters of its subqueries before those of its own conjunction, which were collected when
it was built.

What is written is the text of the condition or of the plan, and what is put in are its parameters.
They answer the placeholders of the text, the first one the first placeholder and so on, each with
the value that belongs there.

## Main definitions

* `Sql.Expr.write`, `Sql.writeTerms`, `Plan.write`: writing into a list of parameters.

## Main results

* `Sql.Expr.write_eq`, `Plan.write_eq`: what is written, and what is put into the list.
* `params_answer_placeholders`: every statement has one parameter for each placeholder, and each
  placeholder gets the value that belongs there.
-/

namespace ModelStore

open Sql (Expr)

/-! ## Conditions -/

namespace Sql

/-- Writes a condition, its parameters behind those that are given. -/
def Expr.write : Expr → List Cell → String × List Cell
  | column ref, given => (ref.sql, given)
  | compare left op right, given =>
    let (text, given) := left.write given
    (text ++ " " ++ op.sign ++ " ?", given ++ [right])
  | member _ [], given => ("0 = 1", given)
  | member left (value :: values), given =>
    let (text, given) := left.write given
    (text ++ " IN (" ++ placeholders (value :: values).length ++ ")", given ++ value :: values)
  | nullTest left isNull, given =>
    let (text, given) := left.write given
    (text ++ (if isNull then " IS NULL" else " IS NOT NULL"), given)

/-- Writes the terms of a conjunction, one after another. -/
def writeTerms : List Expr → List Cell → List String × List Cell
  | [], given => ([], given)
  | term :: rest, given =>
    let (text, given) := term.write given
    let (texts, given) := writeTerms rest given
    (text :: texts, given)

/-- Writing a condition puts its parameters behind those that are given, which stay. -/
theorem Expr.write_eq (e : Expr) (given : List Cell) : e.write given = (e.sql, given ++ e.params) := by
  induction e generalizing given with
  | column ref => simp [write, sql, params]
  | compare left op right ih => simp [write, sql, params, ih]
  | member left values ih =>
      cases values with
      | nil => simp [write, sql, params]
      | cons value values => simp [write, sql, params, ih]
  | nullTest left isNull ih => simp [write, sql, params, ih]

/-- Writing a conjunction puts the parameters of its terms behind those that are given. -/
theorem writeTerms_eq (terms : List Expr) (given : List Cell) :
    writeTerms terms given = (terms.map Expr.sql, given ++ conjunctionParams terms) := by
  induction terms generalizing given with
  | nil => simp [writeTerms, conjunctionParams]
  | cons term terms ih =>
      have hParams : conjunctionParams (term :: terms) =
          term.params ++ conjunctionParams terms := rfl
      rw [writeTerms, term.write_eq, hParams]
      simp only [ih, List.map_cons, List.append_assoc]

/-- The parameters of a condition answer its placeholders. -/
theorem Expr.binds (e : Expr) : Binds e.sql e.params e.pieces :=
  .of_pieces e.wellSpaced_pieces.1 e.textOf_pieces.symm e.valuesOf_pieces

/-- The parameters of a conjunction answer the placeholders of its clause. -/
theorem binds_whereClause (terms : List Expr) :
    Binds (whereClause terms) (conjunctionParams terms) (wherePieces terms) :=
  .of_pieces (wellSpaced_wherePieces terms).1 (textOf_wherePieces terms).symm
    (valuesOf_wherePieces terms)

end Sql

/-! ## Plans -/

mutual

/-- Writes a plan, its parameters behind those that are given. -/
def Plan.write : Plan → List Cell → String × List Cell
  | .node core joins, given =>
    let (subqueries, given) := Plan.writeJoins core.table joins given
    let (_, own) := Sql.writeTerms core.predicate []
    (selectHead core joins ++ subqueries ++ selectTail core, given ++ own)

/-- Writes the joins of a plan, one after another. -/
def Plan.writeJoins (table : String) : List (Link × Plan) → List Cell → String × List Cell
  | [], given => ("", given)
  | (link, plan) :: rest, given =>
    let (subquery, given) := Plan.write plan given
    let (others, given) := Plan.writeJoins table rest given
    (joinHead ++ subquery ++ joinTail table link ++ others, given)

end

/-- Writing a plan puts its parameters behind those that are given, which stay. -/
theorem Plan.write_eq (plan : Plan) :
    ∀ given : List Cell, plan.write given = (plan.sql, given ++ plan.params) := by
  induction plan using Plan.induction with
  | node core joins ih =>
      have hJoins : ∀ {others : List (Link × Plan)}, (∀ join ∈ others, join ∈ joins) →
          ∀ given, Plan.writeJoins core.table others given =
            (Plan.joinsSql core.table others, given ++ Plan.joinsParams others) := by
        intro others hSub
        induction others with
        | nil => simp [Plan.writeJoins, Plan.joinsSql, Plan.joinsParams]
        | cons join others ihOthers =>
            obtain ⟨hJoin, hOthers⟩ := List.forall_mem_cons.mp hSub
            intro given
            rw [Plan.writeJoins, ih join hJoin]
            simp only [ihOthers hOthers, Plan.joinsSql, Plan.joinsParams, List.append_assoc]
      intro given
      rw [Plan.write, hJoins fun join hJoin => hJoin]
      simp only [Sql.writeTerms_eq, Plan.sql, Plan.params, List.nil_append, List.append_assoc]

/-- The parameters of a plan answer the placeholders of its statement. -/
theorem Plan.binds (plan : Plan) : Sql.Binds plan.sql plan.params plan.pieces :=
  .of_pieces plan.wellSpaced_pieces.1 plan.textOf_pieces plan.valuesOf_pieces

/-! ## Statements -/

/-- The parameters of a statement answer its placeholders. -/
theorem Statement.binds (statement : Statement) :
    Sql.Binds statement.sql statement.params statement.pieces :=
  .of_pieces statement.wellFormed_pieces statement.textOf_pieces statement.valuesOf_pieces

/-- **Parameters answer placeholders**: those of every statement its placeholders outside of
quotes, one for one and each with the value that belongs there; and what a condition, a conjunction
or a plan puts behind the parameters given, which stay, answers the placeholders of what is
written. -/
theorem params_answer_placeholders :
    (∀ statement : Statement,
      Sql.Binds statement.sql statement.params statement.pieces) ∧
    (∀ (e : Expr) (given : List Cell), ∃ own,
      (e.write given).2 = given ++ own ∧ Sql.Binds (e.write given).1 own e.pieces) ∧
    (∀ (terms : List Expr) (given : List Cell), ∃ own,
      (Sql.writeTerms terms given).2 = given ++ own ∧
        (Sql.writeTerms terms given).1 = terms.map Expr.sql ∧
        Sql.Binds (Sql.whereClause terms) own (Sql.wherePieces terms)) ∧
    ∀ (plan : Plan) (given : List Cell), ∃ own,
      (plan.write given).2 = given ++ own ∧ Sql.Binds (plan.write given).1 own plan.pieces := by
  refine ⟨Statement.binds, fun e given => ?_, fun terms given => ?_, fun plan given => ?_⟩
  · rw [e.write_eq]
    exact ⟨e.params, rfl, e.binds⟩
  · rw [Sql.writeTerms_eq]
    exact ⟨Sql.conjunctionParams terms, rfl, rfl, Sql.binds_whereClause terms⟩
  · rw [plan.write_eq]
    exact ⟨plan.params, rfl, plan.binds⟩

end ModelStore
