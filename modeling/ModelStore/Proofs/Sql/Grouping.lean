import ModelStore.Proofs.Sql.Tokens

/-!
# How expressions are grouped

The store groups the tokens of an expression by how tightly its operators bind.  The comparisons by
size bind tighter than equality, membership and the tests for null, and of two operators that bind
alike the first one is applied first.  A membership is closed by its parenthesis.

A text denotes a tree if it is read as the tokens of the tree and the tree is grouped as the store
groups them.  For every text there is at most one such tree: an expression is an operand with a
sequence of suffixes, and in a grouped tree each suffix is attached where it binds.

## Main definitions

* `Sql.Tree`, `Sql.Tree.tokens`, `Sql.Tree.Grouped`: what expressions can mean, and the grouping.
* `Sql.Tree.run`: the value of a tree under parameters.
* `Sql.Denotes`: a text that means a tree.
* `Sql.Tree.attach`: a suffix put where it binds.

## Main results

* `Sql.Tree.Grouped.unique`: grouped trees with the same tokens are the same.
* `Sql.Denotes.unique`: a text denotes at most one tree.
* `Sql.Tree.Grouped.attach`: attaching suffixes gives grouped trees.
-/

namespace ModelStore.Sql

/-! ## Trees -/

/-- What stands between the operators of an expression. -/
inductive Operand where
  | column (ref : ColumnRef)
  | hole
  | number (n : Nat)
  | null
  deriving DecidableEq, Repr, Inhabited

/-- The operators with two operands. -/
inductive Operator where
  | compare (op : Comparison)
  /-- Equality that takes a null for a value. -/
  | is (negated : Bool)
  deriving DecidableEq, Repr, Inhabited

/-- What an expression can mean. -/
inductive Tree where
  | leaf (operand : Operand)
  | binary (op : Operator) (left right : Tree)
  /-- Membership in a list of placeholders. -/
  | member (left : Tree) (count : Nat)
  deriving DecidableEq, Repr, Inhabited

/-- How tightly a comparison binds. -/
def Comparison.binding : Comparison → Nat
  | .eq | .ne => 0
  | .gt | .gte | .lt | .lte => 1

/-- How tightly an operator binds. -/
def Operator.binding : Operator → Nat
  | compare op => op.binding
  | is _ => 0

theorem Operator.binding_lt_two (op : Operator) : op.binding < 2 := by
  cases op with
  | compare op => cases op <;> decide
  | is negated => exact Nat.two_pos

/-! ### Tokens -/

/-- The tokens of a column. -/
def ColumnRef.tokens (ref : ColumnRef) : List Token :=
  match ref.qualifier with
  | some qualifier => [.name qualifier, .sign ".", .name ref.name]
  | none => [.name ref.name]

def Operand.tokens : Operand → List Token
  | column ref => ref.tokens
  | hole => [.hole]
  | number n => [.number n.repr]
  | null => [.word "NULL"]

def Operator.tokens : Operator → List Token
  | compare op => [.sign op.sign]
  | is false => [.word "IS"]
  | is true => [.word "IS", .word "NOT"]

/-- So many placeholders between commas. -/
def holeTokens : Nat → List Token
  | 0 => []
  | 1 => [.hole]
  | n + 2 => .hole :: .sign "," :: holeTokens (n + 1)

/-- The tokens of a membership, behind what it is about. -/
def memberTokens (count : Nat) : List Token :=
  .word "IN" :: .sign "(" :: holeTokens count ++ [.sign ")"]

namespace Tree

def tokens : Tree → List Token
  | leaf operand => operand.tokens
  | binary op left right => left.tokens ++ (op.tokens ++ right.tokens)
  | member left count => left.tokens ++ memberTokens count

/-! ### Grouping -/

/-- How tightly the operators bind that a tree has open on its left. -/
def leftBinding : Tree → Nat
  | leaf _ => 2
  | binary op left _ => min op.binding left.leftBinding
  | member _ _ => 0

/-- How tightly the operators bind that a tree has open on its right.  A membership has none. -/
def rightBinding : Tree → Nat
  | leaf _ => 2
  | binary op _ right => min op.binding right.rightBinding
  | member _ _ => 2

/-- Whether a tree is grouped as its tokens are read: what is open on the left of an operator binds
at least as tightly as the operator, and what is open on its right binds tighter. -/
def Grouped : Tree → Prop
  | leaf _ => True
  | binary op left right =>
    left.Grouped ∧ right.Grouped ∧
      op.binding ≤ left.rightBinding ∧ op.binding < right.leftBinding
  | member left _ => left.Grouped

/-! ### Value -/

variable (columns : ColumnRef → Cell × Affinity)

/-- The affinity of a tree: that of a column, and none otherwise. -/
def affinity : Tree → Affinity
  | leaf (.column ref) => (columns ref).2
  | _ => .none

end Tree

/-- The value of an operator, given the affinities and the values of its operands. -/
def Operator.value (op : Operator) (a b : Affinity) (left right : Cell) : Cell :=
  let (l, r) := Affinity.align a b left right
  match op with
  | compare op =>
    if left.isNull || right.isNull then .null else Expr.truth (op.holds (Cell.order l r))
  | is negated =>
    if left.isNull || right.isNull then
      Expr.truth ((left.isNull && right.isNull) != negated)
    else Expr.truth (Cell.same l r != negated)

/-- The value of a tree that takes its values off a list of parameters, and the parameters that
are left. -/
def Tree.run (columns : ColumnRef → Cell × Affinity) : Tree → List Cell → Cell × List Cell
  | leaf (.column ref), params => ((columns ref).1, params)
  | leaf .hole, params => (params.headD .null, params.tail)
  | leaf (.number n), params => (.int n, params)
  | leaf .null, params => (.null, params)
  | binary op left right, params =>
    let (a, params) := left.run columns params
    let (b, params) := right.run columns params
    (op.value (left.affinity columns) (right.affinity columns) a b, params)
  | member left count, params =>
    let (a, params) := left.run columns params
    (Expr.memberCells (left.affinity columns) a (params.take count), params.drop count)

/-- A text that means a tree: it is read as the tokens of the tree, and these are grouped so. -/
def Denotes (text : String) (tree : Tree) : Prop :=
  lex text.toList = some tree.tokens ∧ tree.Grouped

/-! ## A text denotes at most one tree -/

/-- What goes on with an expression. -/
inductive Suffix where
  | binary (op : Operator) (right : Operand)
  | member (count : Nat)
  deriving DecidableEq, Repr, Inhabited

namespace Suffix

def tokens : Suffix → List Token
  | binary op right => op.tokens ++ right.tokens
  | member count => memberTokens count

/-- How tightly a suffix binds to what stands before it. -/
def binding : Suffix → Nat
  | binary op _ => op.binding
  | member _ => 0

/-- A suffix behind all of an expression. -/
def behind : Suffix → Tree → Tree
  | binary op right, tree => .binary op tree (.leaf right)
  | member count, tree => .member tree count

end Suffix

namespace Tree

/-- The operand that an expression begins with. -/
def first : Tree → Operand
  | leaf operand => operand
  | binary _ left _ => left.first
  | member left _ => left.first

/-- What goes on behind the first operand. -/
def suffixes : Tree → List Suffix
  | leaf _ => []
  | binary op left right => left.suffixes ++ .binary op right.first :: right.suffixes
  | member left count => left.suffixes ++ [.member count]

/-- Puts a suffix where it binds: behind the right operand of an operator if it binds tighter. -/
def attach : Tree → Suffix → Tree
  | binary op left right, suffix =>
    if op.binding < suffix.binding then .binary op left (right.attach suffix)
    else suffix.behind (.binary op left right)
  | leaf operand, suffix => suffix.behind (.leaf operand)
  | member left count, suffix => suffix.behind (.member left count)

theorem tokens_eq (tree : Tree) :
    tree.tokens = tree.first.tokens ++ tree.suffixes.flatMap Suffix.tokens := by
  induction tree with
  | leaf operand => simp [tokens, first, suffixes]
  | binary op left right ihLeft ihRight =>
      simp [tokens, first, suffixes, ihLeft, ihRight, Suffix.tokens]
  | member left count ih => simp [tokens, first, suffixes, ih, Suffix.tokens]

/-! ### In a grouped tree every suffix is where it binds -/

/-- What is open on the left of a grouped tree binds no tighter than any of its operators. -/
theorem Grouped.leftBinding_le {tree : Tree} (hGrouped : tree.Grouped) :
    ∀ suffix ∈ tree.suffixes, tree.leftBinding ≤ suffix.binding := by
  induction tree with
  | leaf operand => simp [suffixes]
  | binary op left right ihLeft ihRight =>
      obtain ⟨hLeft, hRight, -, hBinds⟩ := hGrouped
      intro suffix hSuffix
      rw [suffixes, List.mem_append, List.mem_cons] at hSuffix
      rw [leftBinding]
      rcases hSuffix with hSuffix | rfl | hSuffix
      · exact (min_le_right _ _).trans (ihLeft hLeft suffix hSuffix)
      · exact min_le_left _ _
      · have := ihRight hRight suffix hSuffix
        omega
  | member left count ih => simp [leftBinding]

/-- A suffix goes behind all of a tree where it binds no tighter than what is open there. -/
theorem attach_eq_behind {tree : Tree} (suffix : Suffix)
    (hBinds : suffix.binding ≤ tree.rightBinding) : tree.attach suffix = suffix.behind tree := by
  cases tree with
  | leaf operand => rfl
  | member left count => rfl
  | binary op left right =>
      rw [rightBinding] at hBinds
      rw [attach, if_neg (by omega)]

/-- Suffixes that bind tighter than an operator go behind its right operand. -/
theorem foldl_attach_binary {op : Operator} (left right : Tree) {suffixes : List Suffix}
    (hBinds : ∀ suffix ∈ suffixes, op.binding < suffix.binding) :
    suffixes.foldl attach (.binary op left right) =
      .binary op left (suffixes.foldl attach right) := by
  induction suffixes generalizing right with
  | nil => rfl
  | cons suffix suffixes ih =>
      obtain ⟨hFirst, hRest⟩ := List.forall_mem_cons.mp hBinds
      rw [List.foldl_cons, List.foldl_cons, attach, if_pos hFirst, ih _ hRest]

/-- **Grouped trees** are what attaching their suffixes one after another gives. -/
theorem Grouped.foldl_attach {tree : Tree} (hGrouped : tree.Grouped) :
    tree.suffixes.foldl attach (.leaf tree.first) = tree := by
  induction tree with
  | leaf operand => rfl
  | binary op left right ihLeft ihRight =>
      obtain ⟨hLeft, hRight, hOpen, hBinds⟩ := hGrouped
      have hTighter : ∀ suffix ∈ right.suffixes, op.binding < suffix.binding :=
        fun suffix hSuffix => hBinds.trans_le (hRight.leftBinding_le suffix hSuffix)
      have hAttach := attach_eq_behind (.binary op right.first) hOpen
      rw [suffixes, first, List.foldl_append, ihLeft hLeft, List.foldl_cons, hAttach,
        Suffix.behind, foldl_attach_binary _ _ hTighter, ihRight hRight]
  | member left count ih =>
      rw [suffixes, first, List.foldl_append, ih hGrouped, List.foldl_cons, List.foldl_nil,
        attach_eq_behind _ (Nat.zero_le _), Suffix.behind]

end Tree

/-! ### Tokens tell operands and suffixes apart -/

/-- Whether tokens go on with no name. -/
def NoDot (tokens : List Token) : Prop := tokens.head? ≠ some (.sign ".")

theorem ColumnRef.tokens_inj {a b : ColumnRef} {rest more : List Token} (hRest : NoDot rest)
    (hMore : NoDot more) (hEq : a.tokens ++ rest = b.tokens ++ more) : a = b ∧ rest = more := by
  obtain ⟨p, m⟩ := a
  obtain ⟨q, n⟩ := b
  cases p with
  | none =>
      cases q with
      | none => simpa [ColumnRef.tokens] using hEq
      | some q =>
          obtain ⟨-, rfl⟩ : m = q ∧ rest = .sign "." :: .name n :: more := by
            simpa [ColumnRef.tokens] using hEq
          exact absurd rfl hRest
  | some p =>
      cases q with
      | none =>
          obtain ⟨-, rfl⟩ : p = n ∧ .sign "." :: .name m :: rest = more := by
            simpa [ColumnRef.tokens] using hEq
          exact absurd rfl hMore
      | some q =>
          have hParts : p = q ∧ m = n ∧ rest = more := by simpa [ColumnRef.tokens] using hEq
          obtain ⟨rfl, rfl, rfl⟩ := hParts
          exact ⟨rfl, rfl⟩

theorem ColumnRef.exists_tokens_eq (ref : ColumnRef) :
    ∃ name more, ref.tokens = .name name :: more := by
  obtain ⟨_ | qualifier, name⟩ := ref
  · exact ⟨name, [], rfl⟩
  · exact ⟨qualifier, _, rfl⟩

/-- What operands begin with tells them apart, and where they end. -/
theorem Operand.tokens_inj {a b : Operand} {rest more : List Token} (hRest : NoDot rest)
    (hMore : NoDot more) (hEq : a.tokens ++ rest = b.tokens ++ more) : a = b ∧ rest = more := by
  cases a with
  | column p =>
      cases b with
      | column q =>
          obtain ⟨rfl, rfl⟩ := ColumnRef.tokens_inj hRest hMore hEq
          exact ⟨rfl, rfl⟩
      | _ =>
          obtain ⟨name, others, hTokens⟩ := p.exists_tokens_eq
          simp [Operand.tokens, hTokens] at hEq
  | _ =>
      cases b with
      | column q =>
          obtain ⟨name, others, hTokens⟩ := q.exists_tokens_eq
          simp [Operand.tokens, hTokens] at hEq
      | _ => simp_all [Operand.tokens, Nat.repr_inj]

theorem holeTokens_inj {m n : ℕ} {rest more : List Token}
    (hEq : holeTokens m ++ .sign ")" :: rest = holeTokens n ++ .sign ")" :: more) :
    m = n ∧ rest = more := by
  induction m using holeTokens.induct generalizing n with
  | case1 =>
      match n with
      | 0 => simpa [holeTokens] using hEq
      | 1 => simp [holeTokens] at hEq
      | n + 2 => simp [holeTokens] at hEq
  | case2 =>
      match n with
      | 0 => simp [holeTokens] at hEq
      | 1 => simpa [holeTokens] using hEq
      | n + 2 => simp [holeTokens] at hEq
  | case3 m ih =>
      match n with
      | 0 => simp [holeTokens] at hEq
      | 1 => simp [holeTokens] at hEq
      | n + 2 =>
          obtain ⟨hCount, hRest⟩ := ih (n := n + 1) (by simpa [holeTokens] using hEq)
          exact ⟨by omega, hRest⟩

theorem Comparison.sign_inj {a b : Comparison} (hEq : a.sign = b.sign) : a = b := by
  cases a <;> cases b <;> first | rfl | exact absurd hEq (by decide)

/-- No operand begins with a word that goes on with an operator. -/
theorem Operand.tokens_ne_not (a : Operand) (rest more : List Token) :
    a.tokens ++ rest ≠ .word "NOT" :: more := by
  cases a with
  | column p =>
      obtain ⟨name, others, hTokens⟩ := p.exists_tokens_eq
      simp [Operand.tokens, hTokens]
  | _ => simp [Operand.tokens]

theorem Operator.tokens_inj {a b : Operator} {p q : Operand} {rest more : List Token}
    (hEq : a.tokens ++ (p.tokens ++ rest) = b.tokens ++ (q.tokens ++ more)) :
    a = b ∧ p.tokens ++ rest = q.tokens ++ more := by
  match a, b with
  | .compare a, .compare b =>
      obtain ⟨hSign, hRest⟩ : a.sign = b.sign ∧ p.tokens ++ rest = q.tokens ++ more := by
        simpa [Operator.tokens] using hEq
      exact ⟨by rw [Comparison.sign_inj hSign], hRest⟩
  | .compare a, .is false => simp [Operator.tokens] at hEq
  | .compare a, .is true => simp [Operator.tokens] at hEq
  | .is false, .compare b => simp [Operator.tokens] at hEq
  | .is true, .compare b => simp [Operator.tokens] at hEq
  | .is false, .is false => simpa [Operator.tokens] using hEq
  | .is true, .is true => simpa [Operator.tokens] using hEq
  | .is false, .is true =>
      exact absurd (by simpa [Operator.tokens] using hEq) (p.tokens_ne_not _ _)
  | .is true, .is false =>
      exact absurd (by simpa [Operator.tokens] using hEq.symm) (q.tokens_ne_not _ _)

theorem Suffix.tokens_inj {a b : Suffix} {rest more : List Token} (hRest : NoDot rest)
    (hMore : NoDot more) (hEq : a.tokens ++ rest = b.tokens ++ more) : a = b ∧ rest = more := by
  match a, b with
  | .binary op p, .binary op' q =>
      obtain ⟨rfl, hOperands⟩ := Operator.tokens_inj (by simpa [Suffix.tokens] using hEq)
      obtain ⟨rfl, rfl⟩ := Operand.tokens_inj hRest hMore hOperands
      exact ⟨rfl, rfl⟩
  | .member m, .member n =>
      obtain ⟨rfl, rfl⟩ := holeTokens_inj (by simpa [Suffix.tokens, memberTokens] using hEq)
      exact ⟨rfl, rfl⟩
  | .binary (.compare op) p, .member n => simp [Suffix.tokens, memberTokens, Operator.tokens] at hEq
  | .member m, .binary (.compare op) q => simp [Suffix.tokens, memberTokens, Operator.tokens] at hEq
  | .binary (.is negated) p, .member n =>
      cases negated <;> simp [Suffix.tokens, memberTokens, Operator.tokens] at hEq
  | .member m, .binary (.is negated) q =>
      cases negated <;> simp [Suffix.tokens, memberTokens, Operator.tokens] at hEq

/-- A suffix begins with a word or a sign that is no dot. -/
theorem Suffix.exists_tokens_eq (suffix : Suffix) :
    ∃ token more, suffix.tokens = token :: more ∧ token ≠ .sign "." := by
  cases suffix with
  | member count => exact ⟨_, _, rfl, by decide⟩
  | binary op right =>
      match op with
      | .compare op => exact ⟨.sign op.sign, _, rfl, by cases op <;> decide⟩
      | .is false => exact ⟨_, _, rfl, by decide⟩
      | .is true => exact ⟨_, _, rfl, by decide⟩

theorem noDot_flatMap (suffixes : List Suffix) : NoDot (suffixes.flatMap Suffix.tokens) := by
  cases suffixes with
  | nil => simp [NoDot]
  | cons suffix suffixes =>
      obtain ⟨token, more, hTokens, hToken⟩ := suffix.exists_tokens_eq
      simpa [NoDot, hTokens] using hToken

theorem flatMap_tokens_inj {suffixes others : List Suffix}
    (hEq : suffixes.flatMap Suffix.tokens = others.flatMap Suffix.tokens) : suffixes = others := by
  induction suffixes generalizing others with
  | nil =>
      cases others with
      | nil => rfl
      | cons other others =>
          obtain ⟨token, more, hTokens, -⟩ := other.exists_tokens_eq
          simp [hTokens] at hEq
  | cons suffix suffixes ih =>
      cases others with
      | nil =>
          obtain ⟨token, more, hTokens, -⟩ := suffix.exists_tokens_eq
          simp [hTokens] at hEq
      | cons other others =>
          obtain ⟨rfl, hRest⟩ :=
            Suffix.tokens_inj (noDot_flatMap suffixes) (noDot_flatMap others) (by simpa using hEq)
          rw [ih hRest]

/-- **Reading is unambiguous**: grouped trees with the same tokens are the same. -/
theorem Tree.Grouped.unique {tree other : Tree} (hGrouped : tree.Grouped)
    (hOther : other.Grouped) (hTokens : tree.tokens = other.tokens) : tree = other := by
  rw [tree.tokens_eq, other.tokens_eq] at hTokens
  obtain ⟨hFirst, hSuffixes⟩ :=
    Operand.tokens_inj (noDot_flatMap _) (noDot_flatMap _) hTokens
  rw [← hGrouped.foldl_attach, ← hOther.foldl_attach, hFirst, flatMap_tokens_inj hSuffixes]

/-- A text denotes at most one tree. -/
theorem Denotes.unique {text : String} {tree other : Tree} (hTree : Denotes text tree)
    (hOther : Denotes text other) : tree = other := by
  refine hTree.2.unique hOther.2 ?_
  have := hTree.1.symm.trans hOther.1
  simpa using this

/-! ## What attaching gives is grouped -/

theorem Suffix.grouped_behind {suffix : Suffix} {tree : Tree} (hGrouped : tree.Grouped)
    (hBinds : suffix.binding ≤ tree.rightBinding) : (suffix.behind tree).Grouped := by
  cases suffix with
  | binary op right => exact ⟨hGrouped, trivial, hBinds, op.binding_lt_two⟩
  | member count => exact hGrouped

theorem Suffix.binding_le_two (suffix : Suffix) : suffix.binding ≤ 2 := by
  cases suffix with
  | binary op right => exact op.binding_lt_two.le
  | member count => exact Nat.zero_le 2

namespace Tree

/-- What is open on the right of a grouped tree binds no looser than what is open on its left. -/
theorem Grouped.leftBinding_le_rightBinding {tree : Tree} (hGrouped : tree.Grouped) :
    tree.leftBinding ≤ tree.rightBinding := by
  induction tree with
  | leaf operand => exact le_rfl
  | member left count ih => exact Nat.zero_le _
  | binary op left right ihLeft ihRight =>
      obtain ⟨-, hRight, -, hBinds⟩ := hGrouped
      have := ihRight hRight
      simp only [leftBinding, rightBinding]
      omega

/-- What is open on the left stays so, apart from the suffix itself. -/
theorem le_leftBinding_attach {tree : Tree} {suffix : Suffix} {level : Nat}
    (hTree : level ≤ tree.leftBinding) (hSuffix : level ≤ suffix.binding) :
    level ≤ (tree.attach suffix).leftBinding := by
  have hBehind (other : Tree) (hOther : level ≤ other.leftBinding) :
      level ≤ (suffix.behind other).leftBinding := by
    cases suffix with
    | binary op right => exact le_min hSuffix hOther
    | member count => exact hSuffix
  cases tree with
  | leaf operand => exact hBehind _ hTree
  | member left count => exact hBehind _ hTree
  | binary op left right =>
      rw [attach]
      split
      · exact hTree
      · exact hBehind _ hTree

/-- **Attaching** a suffix to a grouped tree gives one. -/
theorem Grouped.attach {tree : Tree} (hGrouped : tree.Grouped) (suffix : Suffix) :
    (tree.attach suffix).Grouped := by
  induction tree with
  | leaf operand => exact Suffix.grouped_behind hGrouped suffix.binding_le_two
  | member left count => exact Suffix.grouped_behind hGrouped suffix.binding_le_two
  | binary op left right ihLeft ihRight =>
      obtain ⟨hLeft, hRight, hOpen, hBinds⟩ := hGrouped
      rw [Tree.attach]
      split
      case isTrue hTighter =>
        exact ⟨hLeft, ihRight hRight, hOpen, le_leftBinding_attach hBinds hTighter⟩
      case isFalse hLooser =>
        have := hRight.leftBinding_le_rightBinding
        refine Suffix.grouped_behind ⟨hLeft, hRight, hOpen, hBinds⟩ ?_
        rw [rightBinding]
        omega

theorem tokens_attach (tree : Tree) (suffix : Suffix) :
    (tree.attach suffix).tokens = tree.tokens ++ suffix.tokens := by
  have hBehind (other : Tree) : (suffix.behind other).tokens = other.tokens ++ suffix.tokens := by
    cases suffix <;> rfl
  induction tree with
  | leaf operand => exact hBehind _
  | member left count ih => exact hBehind _
  | binary op left right ihLeft ihRight =>
      rw [attach]
      split
      · simp [tokens, ihRight]
      · exact hBehind _

end Tree

end ModelStore.Sql
