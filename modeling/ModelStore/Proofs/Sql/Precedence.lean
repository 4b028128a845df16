import ModelStore.Proofs.Sql.Grouping

/-!
# How conditions are read

The text of a condition has no parentheses around its parts: an operator stands behind what it is
about, whatever that is.  So a text means the tree that it was made from only where no comparison by
size stands over an operator that binds loosely and is open on its right, as equality and the tests
for null are.  Elsewhere the comparison takes the last placeholder for its own left side, and the
text denotes another tree, which can have another value.

## Main definitions

* `Sql.Expr.tree`: what a condition is meant to say.
* `Sql.Expr.reading`: what its text denotes.
* `Sql.Expr.Clear`: whether both are the same.

## Main results

* `Sql.Expr.denotes_reading`: what the text of a condition denotes.
* `Sql.Expr.run_tree`: what a condition is meant to say has its value.
* `Sql.Expr.denotes_iff`: the text of a condition denotes its tree just if it is clear.
-/

namespace ModelStore.Sql

/-! ## Conditions -/

namespace Expr

/-- What a condition is meant to say.  Membership in an empty list is a falsehood. -/
def tree : Expr → Tree
  | column ref => .leaf (.column ref)
  | compare left op _ => .binary (.compare op) left.tree (.leaf .hole)
  | member _ [] => .binary (.compare .eq) (.leaf (.number 0)) (.leaf (.number 1))
  | member left values => .member left.tree values.length
  | nullTest left isNull => .binary (.is !isNull) left.tree (.leaf .null)

/-- What the text of a condition denotes: every operator is attached where it binds. -/
def reading (e : Expr) : Tree := e.tree.suffixes.foldl Tree.attach (.leaf e.tree.first)

/-- Whether the text of a condition says what it is meant to say: no comparison by size is over a
condition whose last operator binds looser and is open on its right. -/
def Clear : Expr → Prop
  | column _ => True
  | compare left op _ => left.Clear ∧ op.binding ≤ left.tree.rightBinding
  | member _ [] => True
  | member left _ => left.Clear
  | nullTest left _ => left.Clear

/-- The column that the text of a condition begins with, if it names one. -/
def lead : Expr → Option ColumnRef
  | column ref => some ref
  | compare left _ _ => left.lead
  | member _ [] => none
  | member left _ => left.lead
  | nullTest left _ => left.lead

end Expr

/-- Whether no null character stands in the name of a column. -/
def ColumnRef.IsReadable (ref : ColumnRef) : Prop :=
  '\x00' ∉ ref.name.toList ∧ ∀ qualifier ∈ ref.qualifier, '\x00' ∉ qualifier.toList

namespace Expr

/-- Whether no null character stands in the text of a condition. -/
def IsReadable (e : Expr) : Prop := ∀ ref ∈ e.lead, ref.IsReadable

/-! ### The tokens of the text -/

theorem grouped_tree_iff (e : Expr) : e.tree.Grouped ↔ e.Clear := by
  induction e with
  | column ref => exact Iff.rfl
  | compare left op right ih =>
      have hLast : op.binding < 2 := Operator.binding_lt_two (.compare op)
      simp [tree, Clear, Tree.Grouped, Tree.leftBinding, ih, Operator.binding, hLast]
  | member left values ih =>
      cases values with
      | nil => simp [tree, Clear, Tree.Grouped, Tree.leftBinding, Tree.rightBinding,
          Operator.binding, Comparison.binding]
      | cons value values => exact ih
  | nullTest left isNull ih =>
      simp [tree, Clear, Tree.Grouped, Tree.leftBinding, ih, Operator.binding]

/-- A comparison behind a condition. -/
theorem spells_compare (op : Comparison) :
    Spells (" " ++ op.sign ++ " ?").toList [.sign op.sign, .hole] := by
  have hChars : (" " ++ op.sign ++ " ?").toList = ' ' :: (op.sign.toList ++ ' ' :: ['?']) := by
    simp
  rw [hChars]
  refine Spells.blank fun rest hRest => ?_
  rw [List.append_assoc, List.cons_append, lex_sign, spells_hole rest hRest, Option.map_map]
  rfl

/-- A list of placeholders, up to the parenthesis behind it. -/
theorem spells_placeholders (n : Nat) :
    Spells ((placeholders n).toList ++ [')']) (holeTokens n ++ [.sign ")"]) := by
  have hClose : Spells [')'] [.sign ")"] := Spells.nil.close_paren
  induction n using holeTokens.induct with
  | case1 => exact hClose
  | case2 => exact spells_hole.append hClose (by simp [Breaks])
  | case3 n ih =>
      have hText : (placeholders (n + 2)).toList =
          '?' :: ',' :: ' ' :: (placeholders (n + 1)).toList := by
        simp only [placeholders, String.toList_intercalate, List.replicate_succ, List.map_cons,
          List.intercalate_cons_cons]
        rfl
      rw [hText]
      exact spells_hole.append ih.blank.comma (by simp [Breaks])

theorem spells_member (n : Nat) :
    Spells (" IN (" ++ placeholders n ++ ")").toList (memberTokens n) := by
  have hIn : Spells "IN".toList [.word "IN"] := spells_word _ rfl
  have hChars : (" IN (" ++ placeholders n ++ ")").toList =
      ' ' :: ("IN".toList ++ ' ' :: '(' :: ((placeholders n).toList ++ [')'])) := by
    simp
  rw [hChars]
  exact (hIn.append (spells_placeholders n).open_paren.blank (by simp [Breaks])).blank

theorem spells_nullTest (isNull : Bool) :
    Spells (if isNull then " IS NULL" else " IS NOT NULL").toList
      ((Operator.is !isNull).tokens ++ Operand.null.tokens) := by
  cases isNull with
  | true => exact spells_words ["IS", "NULL"] rfl
  | false => exact spells_words ["IS", "NOT", "NULL"] rfl

end Expr

theorem ColumnRef.spells_sql {ref : ColumnRef} (hReadable : ref.IsReadable) :
    Spells ref.sql.toList ref.tokens := by
  obtain ⟨qualifier, name⟩ := ref
  obtain ⟨hName, hQualifier⟩ := hReadable
  cases qualifier with
  | none => exact spells_quoteName hName
  | some qualifier =>
      have hDot : Spells ('.' :: (quoteName name).toList) [.sign ".", .name name] := by
        refine (spells_quoteName hName).cons (by decide) (by decide) fun rest => ?_
        simp [quoteName, quoted, readToken, readSign, signs, isWordStart]
      intro rest hRest
      have hChars : (ColumnRef.sql ⟨some qualifier, name⟩).toList ++ rest =
          (quoteName qualifier).toList ++ ('.' :: (quoteName name).toList ++ rest) := by
        simp [ColumnRef.sql]
      rw [hChars, lex_quoteName (hQualifier qualifier rfl) (by simp), hDot rest hRest,
        Option.map_map]
      rfl

/-- A column that cannot be read breaks off what follows, too. -/
theorem ColumnRef.lex_sql_eq_none {ref : ColumnRef} (hReadable : ¬ref.IsReadable)
    (rest : List Char) : lex (ref.sql.toList ++ rest) = none := by
  obtain ⟨qualifier, name⟩ := ref
  cases qualifier with
  | none =>
      have hNul : '\x00' ∈ name.toList := by simpa [ColumnRef.IsReadable] using hReadable
      exact lex_quoteName_eq_none hNul rest
  | some qualifier =>
      have hChars : (ColumnRef.sql ⟨some qualifier, name⟩).toList ++ rest =
          (quoteName qualifier).toList ++ ('.' :: ((quoteName name).toList ++ rest)) := by
        simp [ColumnRef.sql]
      rw [hChars]
      by_cases hQualifier : '\x00' ∈ qualifier.toList
      · exact lex_quoteName_eq_none hQualifier _
      · have hName : '\x00' ∈ name.toList := by
          by_contra hName
          exact hReadable ⟨hName, by simpa using hQualifier⟩
        rw [lex_quoteName hQualifier (by simp)]
        have hDot : readToken '.' ((quoteName name).toList ++ rest) =
            some (.sign ".", (quoteName name).toList ++ rest) := by
          simp [quoteName, quoted, readToken, readSign, signs, isWordStart]
        rw [lex_cons (by decide) (by decide) hDot, lex_quoteName_eq_none hName]
        rfl

namespace Expr

/-- The text of a condition is read as the tokens of what it is meant to say. -/
theorem spells_sql {e : Expr} (hReadable : e.IsReadable) : Spells e.sql.toList e.tree.tokens := by
  induction e with
  | column ref => exact ColumnRef.spells_sql (hReadable ref rfl)
  | compare left op right ih =>
      have hText : (compare left op right).sql = left.sql ++ (" " ++ op.sign ++ " ?") := by
        simp [sql, String.append_assoc]
      rw [hText, String.toList_append]
      exact (ih hReadable).append (spells_compare op) (by simp [Breaks])
  | member left values ih =>
      cases values with
      | nil =>
          intro rest hRest
          have hText : (member left []).sql.toList ++ rest =
              (0 : Nat).repr.toList ++
                ' ' :: (Comparison.eq.sign.toList ++ ' ' :: ((1 : Nat).repr.toList ++ rest)) := by
            simp [sql, Comparison.sign, Nat.toDigits_of_lt_base, Nat.digitChar]
          rw [hText, spells_repr 0 _ (by simp [Breaks]), lex_blank, lex_sign,
            spells_repr 1 rest hRest, Option.map_map, Option.map_map]
          rfl
      | cons value values =>
          have hText : (member left (value :: values)).sql =
              left.sql ++ (" IN (" ++ placeholders (value :: values).length ++ ")") := by
            simp [sql, String.append_assoc]
          rw [hText, String.toList_append]
          exact (ih hReadable).append (spells_member _) (by simp [Breaks])
  | nullTest left isNull ih =>
      rw [sql, String.toList_append]
      exact (ih hReadable).append (spells_nullTest isNull) (by cases isNull <;> simp [Breaks])

theorem exists_sql_eq_append {e : Expr} {ref : ColumnRef} (hLead : e.lead = some ref) :
    ∃ rest, e.sql.toList = ref.sql.toList ++ rest := by
  induction e with
  | column other =>
      cases hLead
      exact ⟨[], by simp [sql]⟩
  | compare left op right ih =>
      obtain ⟨rest, hRest⟩ := ih hLead
      exact ⟨rest ++ (" " ++ op.sign ++ " ?").toList, by simp [sql, hRest]⟩
  | member left values ih =>
      cases values with
      | nil => cases hLead
      | cons value values =>
          obtain ⟨rest, hRest⟩ := ih hLead
          exact ⟨rest ++ (" IN (" ++ placeholders (value :: values).length ++ ")").toList,
            by simp [sql, hRest]⟩
  | nullTest left isNull ih =>
      obtain ⟨rest, hRest⟩ := ih hLead
      exact ⟨rest ++ (if isNull then " IS NULL" else " IS NOT NULL").toList,
        by simp [sql, hRest]⟩

/-- The text of a condition can be read just if no null character stands in it. -/
theorem lex_sql_ne_none_iff (e : Expr) : lex e.sql.toList ≠ none ↔ e.IsReadable := by
  constructor
  · intro hLex ref hLead
    by_contra hReadable
    obtain ⟨rest, hText⟩ := exists_sql_eq_append hLead
    exact hLex (hText ▸ ColumnRef.lex_sql_eq_none hReadable rest)
  · intro hReadable
    rw [(spells_sql hReadable).lex_eq]
    exact Option.some_ne_none _

/-! ### What the text denotes -/

theorem tokens_reading (e : Expr) : e.reading.tokens = e.tree.tokens := by
  have hFold (suffixes : List Suffix) (tree : Tree) :
      (suffixes.foldl Tree.attach tree).tokens =
        tree.tokens ++ suffixes.flatMap Suffix.tokens := by
    induction suffixes generalizing tree with
    | nil => simp
    | cons suffix suffixes ih => simp [ih, Tree.tokens_attach]
  rw [reading, hFold, Tree.tokens_eq e.tree]
  rfl

theorem grouped_reading (e : Expr) : e.reading.Grouped := by
  have hFold (suffixes : List Suffix) {tree : Tree} (hGrouped : tree.Grouped) :
      (suffixes.foldl Tree.attach tree).Grouped := by
    induction suffixes generalizing tree with
    | nil => exact hGrouped
    | cons suffix suffixes ih => exact ih (hGrouped.attach suffix)
  exact hFold _ trivial

/-- **What a text denotes**: the text of a condition that can be read denotes its reading. -/
theorem denotes_reading {e : Expr} (hReadable : e.IsReadable) : Denotes e.sql e.reading :=
  ⟨e.tokens_reading ▸ (spells_sql hReadable).lex_eq, e.grouped_reading⟩

/-! ### Value -/

theorem affinity_tree (columns : ColumnRef → Cell × Affinity) (e : Expr) :
    e.tree.affinity columns = e.affinity columns := by
  cases e with
  | member left values => cases values <;> rfl
  | _ => rfl

/-- The tree of a condition takes just the values of the condition off the parameters, and then has
its value. -/
theorem run_tree (columns : ColumnRef → Cell × Affinity) (e : Expr) (rest : List Cell) :
    e.tree.run columns (e.params ++ rest) = (e.eval columns, rest) := by
  induction e generalizing rest with
  | column ref => rfl
  | compare left op right ih =>
      have hLeft := ih (right :: rest)
      simp only [params, List.append_assoc, List.singleton_append, tree, Tree.run, hLeft,
        affinity_tree, eval]
      rfl
  | member left values ih =>
      cases values with
      | nil => rfl
      | cons value values =>
          have hLeft := ih (value :: values ++ rest)
          simp only [params, List.append_assoc, tree, Tree.run, hLeft, affinity_tree, eval,
            List.take_left, List.drop_left]
  | nullTest left isNull ih =>
      simp only [params, tree, Tree.run, ih rest, eval, Operator.value]
      cases left.eval columns <;> cases isNull <;> rfl

/-- What the text of a condition denotes is what the condition is meant to say just if it is
clear. -/
theorem reading_eq_tree_iff (e : Expr) : e.reading = e.tree ↔ e.Clear := by
  rw [← grouped_tree_iff]
  constructor
  · intro hEq
    exact hEq ▸ e.grouped_reading
  · intro hGrouped
    exact e.grouped_reading.unique hGrouped e.tokens_reading

/-- **Precedence**: the text of a condition denotes one tree, if no null character stands in it, and
none otherwise.  The tree is what the condition is meant to say just if the condition is clear; and
what it is meant to say has, under its parameters, the value of the condition. -/
theorem denotes_iff (e : Expr) :
    (∀ tree, Denotes e.sql tree ↔ e.IsReadable ∧ tree = e.reading) ∧
      (e.reading = e.tree ↔ e.Clear) ∧
        ∀ columns, e.tree.run columns e.params = (e.eval columns, []) := by
  refine ⟨fun tree => ?_, e.reading_eq_tree_iff, fun columns => ?_⟩
  · constructor
    · intro hTree
      have hReadable : e.IsReadable := by
        rw [← lex_sql_ne_none_iff, hTree.1]
        exact Option.some_ne_none _
      exact ⟨hReadable, hTree.unique (denotes_reading hReadable)⟩
    · rintro ⟨hReadable, rfl⟩
      exact denotes_reading hReadable
  · simpa using run_tree columns e []

/-- A comparison by size over an equality is read the other way round: of a column that holds 0,
it is not true that 5 is exceeded by whether the column is 1, but the column is whether 1
exceeds 5. -/
example :
    let e := compare (compare (column ⟨none, "a"⟩) .eq (.int 1)) .gt (.int 5)
    let columns := fun _ => (Cell.int 0, Affinity.none)
    e.reading = .binary (.compare .eq) (.leaf (.column ⟨none, "a"⟩))
        (.binary (.compare .gt) (.leaf .hole) (.leaf .hole)) ∧
      e.eval columns = truth false ∧ e.reading.run columns e.params = (truth true, []) := by
  decide

end Expr

end ModelStore.Sql
