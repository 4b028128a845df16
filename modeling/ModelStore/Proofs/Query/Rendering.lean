import ModelStore.Proofs.Query.Naming
import ModelStore.Proofs.Sql.Pieces

/-!
# The text of a plan, in pieces

The names in the statement of a plan stand between quotes, and every bound value has a placeholder
of its own.  The pieces below say which value a placeholder is for: those of the subqueries come
before those of the own conjunction, as in the list of parameters.

A plan that was built names only tables and columns that the store has created, and relations.  If
no null character stands in the name of a relation, the statement is read from end to end, unless
it has too many parameters.

## Main definitions

* `Sql.Expr.pieces`, `Plan.pieces`: the pieces of a condition and of a plan.
* `Sql.Piece.Uses`: pieces that are words, placeholders, or names with some property.

## Main results

* `Plan.textOf_pieces`, `Plan.wellSpaced_pieces`, `Plan.valuesOf_pieces`: the text of a plan is
  that of its pieces, which are well spaced, and its parameters are the values of their
  placeholders.
* `Query.PlannedAs.uses_pieces`: the names in the statement of a plan are names of the schema.
* `Query.PlannedAs.readingFault_eq_none_iff`: the statement of a plan is read just if it does not
  have too many parameters.
-/

namespace ModelStore

open Sql (Expr ColumnRef Piece textOf valuesOf WellSpaced quoteName)
open Sql.Piece (IsPlain)

/-! ## Conditions -/

namespace Sql

/-- The pieces of a column. -/
def ColumnRef.pieces (ref : ColumnRef) : List Piece :=
  match ref.qualifier with
  | some qualifier => [.name qualifier, .plain ".", .name ref.name]
  | none => [.name ref.name]

/-- The pieces of a condition. -/
def Expr.pieces : Expr → List Piece
  | column ref => ref.pieces
  | compare left op right => left.pieces ++ [.plain (" " ++ op.sign ++ " "), .hole right]
  | member _ [] => [.plain "0 = 1"]
  | member left values =>
    left.pieces ++ .plain " IN (" ::
      ([Piece.plain ", "].intercalate (values.map fun value => [.hole value]) ++ [.plain ")"])
  | nullTest left isNull => left.pieces ++ [.plain (if isNull then " IS NULL" else " IS NOT NULL")]

/-- The pieces of the clause of a conjunction. -/
def wherePieces (terms : List Expr) : List Piece :=
  if terms.isEmpty then []
  else .plain " WHERE " :: [Piece.plain " AND "].intercalate (terms.map Expr.pieces)

theorem ColumnRef.textOf_pieces (ref : ColumnRef) : textOf ref.pieces = ref.sql.toList := by
  obtain ⟨qualifier, name⟩ := ref
  cases qualifier <;> simp [ColumnRef.pieces, ColumnRef.sql]

theorem ColumnRef.wellSpaced_pieces (ref : ColumnRef) : WellSpaced ref.pieces := by
  obtain ⟨qualifier, name⟩ := ref
  have hName : WellSpaced [Piece.name name] := .singleton (.inl rfl)
  cases qualifier with
  | none => exact hName
  | some qualifier =>
      refine .cons_cons (.cons hName ?_ rfl) (.inl rfl) rfl
      simp [Piece.WellFormed, IsPlain]

theorem ColumnRef.valuesOf_pieces (ref : ColumnRef) : valuesOf ref.pieces = [] := by
  obtain ⟨qualifier, name⟩ := ref
  cases qualifier <;> rfl

theorem textOf_holes (values : List Cell) :
    textOf ([Piece.plain ", "].intercalate (values.map fun value => [.hole value])) =
      (placeholders values.length).toList := by
  rw [textOf_intercalate, placeholders, String.toList_intercalate, List.map_map, List.map_replicate,
    ← List.map_const']
  rfl

theorem Expr.textOf_pieces (e : Expr) : textOf e.pieces = e.sql.toList := by
  induction e with
  | column ref => exact ref.textOf_pieces
  | compare left op right ih => simp [Expr.pieces, Expr.sql, ih]
  | member left values ih =>
      cases values with
      | nil => simp [Expr.pieces, Expr.sql]
      | cons value values =>
          have hHoles := textOf_holes (value :: values)
          simp only [Expr.pieces, Expr.sql, textOf_append, textOf_cons, textOf_nil, ih, hHoles]
          simp
  | nullTest left isNull ih => simp [Expr.pieces, Expr.sql, ih]

theorem Expr.wellSpaced_pieces (e : Expr) : WellSpaced e.pieces := by
  induction e with
  | column ref => exact ref.wellSpaced_pieces
  | compare left op right ih =>
      refine ih.append (.cons (.singleton trivial) ?_ rfl) (by simp [Piece.isQuoted])
      cases op <;> simp [Piece.WellFormed, IsPlain, Comparison.sign]
  | member left values ih =>
      cases values with
      | nil => exact .singleton (by simp [Piece.WellFormed, IsPlain])
      | cons value values =>
          have hComma : (Piece.plain ", ").WellFormed := by simp [Piece.WellFormed, IsPlain]
          have hHoles : WellSpaced ([Piece.plain ", "].intercalate
              ((value :: values).map fun value => [Piece.hole value])) := by
            refine .intercalate hComma fun part hPart => ?_
            obtain ⟨value, -, rfl⟩ := List.mem_map.mp hPart
            exact .singleton trivial
          have hClose : WellSpaced [Piece.plain ")"] :=
            .singleton (by simp [Piece.WellFormed, IsPlain])
          have hList := hHoles.append hClose (by simp [Piece.isQuoted])
          refine ih.append (.cons hList ?_ rfl) (by simp [Piece.isQuoted])
          simp [Piece.WellFormed, IsPlain]
  | nullTest left isNull ih =>
      refine ih.append (.singleton ?_) (by simp [Piece.isQuoted])
      cases isNull <;> simp [Piece.WellFormed, IsPlain]

/-- The values of the placeholders of a condition are its parameters. -/
theorem Expr.valuesOf_pieces (e : Expr) : valuesOf e.pieces = e.params := by
  induction e with
  | column ref => exact ref.valuesOf_pieces
  | compare left op right ih => simp [Expr.pieces, Expr.params, ih]
  | member left values ih =>
      cases values with
      | nil => rfl
      | cons value values =>
          simp [Expr.pieces, Expr.params, ih, valuesOf_intercalate, List.flatMap_map]
  | nullTest left isNull ih => simp [Expr.pieces, Expr.params, ih]

theorem textOf_wherePieces (terms : List Expr) :
    textOf (wherePieces terms) = (whereClause terms).toList := by
  unfold wherePieces whereClause
  split
  · rfl
  · rw [textOf_cons, textOf_intercalate, String.toList_append, String.toList_intercalate,
      List.map_map, List.map_map]
    simp [Function.comp_def, Expr.textOf_pieces]

theorem wellSpaced_wherePieces (terms : List Expr) : WellSpaced (wherePieces terms) := by
  unfold wherePieces
  split
  · exact .nil
  · have hAnd : (Piece.plain " AND ").WellFormed := by simp [Piece.WellFormed, IsPlain]
    refine .cons (.intercalate hAnd fun part hPart => ?_) ?_ rfl
    · obtain ⟨e, -, rfl⟩ := List.mem_map.mp hPart
      exact e.wellSpaced_pieces
    · simp [Piece.WellFormed, IsPlain]

theorem valuesOf_wherePieces (terms : List Expr) :
    valuesOf (wherePieces terms) = conjunctionParams terms := by
  unfold wherePieces conjunctionParams
  split
  · rename_i hEmpty
    rw [List.isEmpty_iff.mp hEmpty]
    rfl
  · rw [valuesOf_plain, valuesOf_intercalate, List.flatMap_map]
    simp [Expr.valuesOf_pieces]

/-- A clause begins with a word. -/
theorem head?_wherePieces (terms : List Expr) :
    ∀ piece ∈ (wherePieces terms).head?, piece.isQuoted = false := by
  unfold wherePieces
  split <;> simp [Piece.isQuoted]

end Sql

/-! ## Parts of a statement -/

/-- The pieces of an item of a select list. -/
def SelectItem.pieces (item : SelectItem) : List Piece :=
  item.ref.pieces ++ [.plain " AS ", .name item.name]

/-- The pieces of what stands before the joins. -/
def headPieces (core : PlanCore) (joins : List (Link × Plan)) : List Piece :=
  .plain "SELECT " ::
    ([Piece.plain ", "].intercalate ((selectItems core joins).map SelectItem.pieces) ++
      [.plain " FROM ", .name core.table])

/-- The pieces of what stands behind a subquery. -/
def joinTailPieces (table : String) (link : Link) : List Piece :=
  .plain ") AS " :: .name link.name :: .plain " ON " ::
    ((link.localRef table).pieces ++ .plain " = " :: link.referencedRef.pieces)

/-- The pieces of a sort key. -/
def SortKey.pieces (key : SortKey) : List Piece :=
  key.ref.pieces ++ [.plain (" " ++ key.direction.sql)]

/-- The pieces of the clause of the sort keys. -/
def orderPieces (keys : List SortKey) : List Piece :=
  if keys.isEmpty then []
  else .plain " ORDER BY " :: [Piece.plain ", "].intercalate (keys.map SortKey.pieces)

/-- The pieces of a window. -/
def Window.pieces (window : Window) : List Piece :=
  if window.sql = "" then [] else [.plain window.sql]

/-- The pieces of what stands behind the joins. -/
def tailPieces (core : PlanCore) : List Piece :=
  Sql.wherePieces core.predicate ++ (orderPieces core.order ++ core.window.pieces)

section Parts

private theorem comma_wellFormed : (Piece.plain ", ").WellFormed := by
  simp [Piece.WellFormed, IsPlain]

theorem SelectItem.wellSpaced_pieces (item : SelectItem) : WellSpaced item.pieces := by
  have hName : WellSpaced [Piece.name item.name] := .singleton (.inl rfl)
  refine item.ref.wellSpaced_pieces.append (.cons hName ?_ rfl) (by simp [Piece.isQuoted])
  simp [Piece.WellFormed, IsPlain]

theorem wellSpaced_headPieces (core : PlanCore) (joins : List (Link × Plan)) :
    WellSpaced (headPieces core joins) := by
  have hItems : WellSpaced ([Piece.plain ", "].intercalate
      ((selectItems core joins).map SelectItem.pieces)) := by
    refine .intercalate comma_wellFormed fun part hPart => ?_
    obtain ⟨item, -, rfl⟩ := List.mem_map.mp hPart
    exact item.wellSpaced_pieces
  have hTable : WellSpaced [Piece.plain " FROM ", .name core.table] :=
    .cons (.singleton (.inl rfl)) (by simp [Piece.WellFormed, IsPlain]) rfl
  refine .cons (hItems.append hTable (by simp [Piece.isQuoted])) ?_ rfl
  simp [Piece.WellFormed, IsPlain]

theorem textOf_headPieces (core : PlanCore) (joins : List (Link × Plan)) :
    textOf (headPieces core joins) = (selectHead core joins).toList := by
  have hItem : ∀ item : SelectItem, textOf item.pieces = item.sql.toList := by
    intro item
    simp [SelectItem.pieces, SelectItem.sql, ColumnRef.textOf_pieces]
  unfold headPieces selectHead
  simp only [Sql.textOf_cons, Sql.textOf_append, Sql.textOf_nil, Sql.textOf_intercalate,
    String.toList_append, String.toList_intercalate, List.map_map, Function.comp_def, hItem]
  simp

theorem valuesOf_headPieces (core : PlanCore) (joins : List (Link × Plan)) :
    valuesOf (headPieces core joins) = [] := by
  simp [headPieces, Sql.valuesOf_intercalate, SelectItem.pieces, ColumnRef.valuesOf_pieces]

theorem wellSpaced_joinTailPieces (table : String) (link : Link) :
    WellSpaced (joinTailPieces table link) := by
  have hRight : WellSpaced (.plain " = " :: link.referencedRef.pieces) :=
    .cons link.referencedRef.wellSpaced_pieces (by simp [Piece.WellFormed, IsPlain]) rfl
  have hBoth := (link.localRef table).wellSpaced_pieces.append hRight (by simp [Piece.isQuoted])
  refine .cons (.cons_cons (.cons hBoth ?_ rfl) (.inl rfl) rfl) ?_ rfl
  all_goals simp [Piece.WellFormed, IsPlain]

theorem textOf_joinTailPieces (table : String) (link : Link) :
    textOf (joinTailPieces table link) = (joinTail table link).toList := by
  unfold joinTailPieces joinTail
  simp [ColumnRef.textOf_pieces]

theorem valuesOf_joinTailPieces (table : String) (link : Link) :
    valuesOf (joinTailPieces table link) = [] := by
  simp [joinTailPieces, ColumnRef.valuesOf_pieces]

theorem wellSpaced_orderPieces (keys : List SortKey) : WellSpaced (orderPieces keys) := by
  unfold orderPieces
  split
  · exact .nil
  · refine .cons (.intercalate comma_wellFormed fun part hPart => ?_) ?_ rfl
    · obtain ⟨key, -, rfl⟩ := List.mem_map.mp hPart
      refine key.ref.wellSpaced_pieces.append (.singleton ?_) (by simp [Piece.isQuoted])
      cases key.direction <;> simp [Piece.WellFormed, IsPlain, Direction.sql]
    · simp [Piece.WellFormed, IsPlain]

theorem textOf_orderPieces (keys : List SortKey) :
    textOf (orderPieces keys) = (orderClause keys).toList := by
  have hKey : ∀ key : SortKey, textOf key.pieces = key.sql.toList := by
    intro key
    simp [SortKey.pieces, SortKey.sql, ColumnRef.textOf_pieces]
  unfold orderPieces orderClause
  split
  · rfl
  · simp [Sql.textOf_intercalate, String.toList_intercalate, Function.comp_def, hKey]

theorem valuesOf_orderPieces (keys : List SortKey) : valuesOf (orderPieces keys) = [] := by
  unfold orderPieces
  split
  · rfl
  · simp [Sql.valuesOf_intercalate, SortKey.pieces, ColumnRef.valuesOf_pieces]

theorem Window.isPlain_sql (window : Window) : IsPlain window.sql := by
  obtain ⟨limit, offset⟩ := window
  have hLimit : IsPlain " LIMIT " := by simp [IsPlain]
  have hOffset : IsPlain " OFFSET " := by simp [IsPlain]
  cases limit with
  | none =>
      cases offset with
      | none => simp [Window.sql, IsPlain]
      | some offset =>
          have hBoth : IsPlain " LIMIT -1 OFFSET " := by simp [IsPlain]
          exact hBoth.append (Piece.isPlain_repr offset)
  | some limit =>
      have hStart := hLimit.append (Piece.isPlain_repr limit)
      cases offset with
      | none => exact hStart
      | some offset => exact (hStart.append hOffset).append (Piece.isPlain_repr offset)

theorem Window.wellSpaced_pieces (window : Window) : WellSpaced window.pieces := by
  unfold Window.pieces
  split
  · exact .nil
  · rename_i hSome
    refine .singleton ⟨fun hNil => hSome ?_, window.isPlain_sql⟩
    exact String.toList_inj.mp hNil

theorem Window.textOf_pieces (window : Window) : textOf window.pieces = window.sql.toList := by
  unfold Window.pieces
  split
  · rename_i hNone
    rw [hNone]
    rfl
  · simp

theorem Window.valuesOf_pieces (window : Window) : valuesOf window.pieces = [] := by
  unfold Window.pieces
  split <;> rfl

/-- A window begins with a word. -/
theorem Window.head?_pieces (window : Window) :
    ∀ piece ∈ window.pieces.head?, piece.isQuoted = false := by
  unfold Window.pieces
  split <;> simp [Piece.isQuoted]

/-- The clause of the sort keys begins with a word. -/
theorem head?_orderPieces (keys : List SortKey) :
    ∀ piece ∈ (orderPieces keys).head?, piece.isQuoted = false := by
  unfold orderPieces
  split <;> simp [Piece.isQuoted]

/-- What stands behind the joins begins with a word. -/
theorem head?_tailPieces (core : PlanCore) :
    ∀ piece ∈ (tailPieces core).head?, piece.isQuoted = false :=
  Sql.head?_append_isQuoted (Sql.head?_wherePieces core.predicate)
    (Sql.head?_append_isQuoted (head?_orderPieces core.order) core.window.head?_pieces)

theorem wellSpaced_tailPieces (core : PlanCore) : WellSpaced (tailPieces core) :=
  (Sql.wellSpaced_wherePieces core.predicate).append
    ((wellSpaced_orderPieces core.order).append core.window.wellSpaced_pieces
      core.window.head?_pieces)
    (Sql.head?_append_isQuoted (head?_orderPieces core.order) core.window.head?_pieces)

theorem textOf_tailPieces (core : PlanCore) :
    textOf (tailPieces core) = (selectTail core).toList := by
  simp [tailPieces, selectTail, Sql.textOf_wherePieces, textOf_orderPieces, Window.textOf_pieces]

theorem valuesOf_tailPieces (core : PlanCore) :
    valuesOf (tailPieces core) = Sql.conjunctionParams core.predicate := by
  simp [tailPieces, Sql.valuesOf_wherePieces, valuesOf_orderPieces, Window.valuesOf_pieces]

end Parts

/-! ## Plans -/

/-- What holds of a plan whenever it holds of those that it joins holds of every plan. -/
@[elab_as_elim]
theorem Plan.induction {motive : Plan → Prop}
    (node : ∀ core joins, (∀ join ∈ joins, motive join.2) → motive (.node core joins))
    (plan : Plan) : motive plan :=
  @Plan.rec motive (fun joins => ∀ join ∈ joins, motive join.2) (fun join => motive join.2) node
    (by simp) (fun _ _ hHead hTail => List.forall_mem_cons.mpr ⟨hHead, hTail⟩)
    (fun _ _ hPlan => hPlan) plan

mutual

/-- The pieces of the statement of a plan. -/
def Plan.pieces : Plan → List Piece
  | .node core joins =>
    headPieces core joins ++ (Plan.joinsPieces core.table joins ++ tailPieces core)

/-- The pieces of the joins of a statement. -/
def Plan.joinsPieces (table : String) : List (Link × Plan) → List Piece
  | [] => []
  | (link, plan) :: rest =>
    .plain joinHead ::
      (Plan.pieces plan ++ (joinTailPieces table link ++ Plan.joinsPieces table rest))

end

/-- The joins of a statement begin with a word. -/
theorem Plan.head?_joinsPieces (table : String) (joins : List (Link × Plan)) :
    ∀ piece ∈ (Plan.joinsPieces table joins).head?, piece.isQuoted = false := by
  cases joins with
  | nil => simp [Plan.joinsPieces]
  | cons join joins => simp [Plan.joinsPieces, Piece.isQuoted]

/-- The text of a plan is that of its pieces. -/
theorem Plan.textOf_pieces (plan : Plan) : plan.sql.toList = textOf plan.pieces := by
  induction plan using Plan.induction with
  | node core joins ih =>
      have hJoins : ∀ {others : List (Link × Plan)}, (∀ join ∈ others, join ∈ joins) →
          (Plan.joinsSql core.table others).toList =
            textOf (Plan.joinsPieces core.table others) := by
        intro others hSub
        induction others with
        | nil => rfl
        | cons join others ihOthers =>
            obtain ⟨hJoin, hOthers⟩ := List.forall_mem_cons.mp hSub
            rw [Plan.joinsSql, Plan.joinsPieces]
            simp only [Sql.textOf_cons, Sql.textOf_append, String.toList_append, ← ih join hJoin,
              ihOthers hOthers, textOf_joinTailPieces, Sql.chars_plain, List.append_assoc]
      rw [Plan.sql, Plan.pieces]
      simp only [Sql.textOf_append, String.toList_append, textOf_headPieces, textOf_tailPieces,
        hJoins fun join hJoin => hJoin, List.append_assoc]

/-- No two quoted pieces of a plan touch. -/
theorem Plan.wellSpaced_pieces (plan : Plan) : WellSpaced plan.pieces := by
  induction plan using Plan.induction with
  | node core joins ih =>
      have hJoins : ∀ {others : List (Link × Plan)}, (∀ join ∈ others, join ∈ joins) →
          WellSpaced (Plan.joinsPieces core.table others) := by
        intro others hSub
        induction others with
        | nil => exact .nil
        | cons join others ihOthers =>
            obtain ⟨hJoin, hOthers⟩ := List.forall_mem_cons.mp hSub
            have hRest := (wellSpaced_joinTailPieces core.table join.1).append (ihOthers hOthers)
              (Plan.head?_joinsPieces core.table others)
            have hPlan := (ih join hJoin).append hRest (by simp [joinTailPieces, Piece.isQuoted])
            exact .cons hPlan (by simp [Piece.WellFormed, IsPlain, joinHead]) rfl
      have hBody := (hJoins fun join hJoin => hJoin).append (wellSpaced_tailPieces core)
        (head?_tailPieces core)
      exact (wellSpaced_headPieces core joins).append hBody
        (Sql.head?_append_isQuoted (Plan.head?_joinsPieces core.table joins)
          (head?_tailPieces core))

/-- The values of the placeholders of a plan are its parameters. -/
theorem Plan.valuesOf_pieces (plan : Plan) : valuesOf plan.pieces = plan.params := by
  induction plan using Plan.induction with
  | node core joins ih =>
      have hJoins : ∀ {others : List (Link × Plan)}, (∀ join ∈ others, join ∈ joins) →
          valuesOf (Plan.joinsPieces core.table others) = Plan.joinsParams others := by
        intro others hSub
        induction others with
        | nil => rfl
        | cons join others ihOthers =>
            obtain ⟨hJoin, hOthers⟩ := List.forall_mem_cons.mp hSub
            rw [Plan.joinsPieces, Plan.joinsParams, Sql.valuesOf_plain, Sql.valuesOf_append,
              Sql.valuesOf_append, ih join hJoin, ihOthers hOthers, valuesOf_joinTailPieces]
            simp
      rw [Plan.pieces, Plan.params, Sql.valuesOf_append, Sql.valuesOf_append,
        hJoins fun join hJoin => hJoin, valuesOf_headPieces, valuesOf_tailPieces]
      rfl

/-! ## The names in a statement -/

/-- The words that statements are made of, besides their windows. -/
def words : List String :=
  [ "SELECT ", "SELECT COUNT(*) FROM ", "INSERT INTO ", "UPDATE ", "DELETE FROM "
  , " FROM ", " LEFT JOIN (", ") AS ", " AS ", " ON ", " SET ", " DEFAULT VALUES", " (", ") VALUES ("
  , " WHERE ", " AND ", " ORDER BY ", " ASC", " DESC", " LIMIT 1", " RETURNING "
  , " = ", " != ", " > ", " >= ", " < ", " <= ", " IN (", " IS NULL", " IS NOT NULL", "0 = 1"
  , ", ", ".", ")" ]

/-- Whether a text is a word or a window that says something. -/
def IsWord (text : String) : Prop :=
  text ∈ words ∨ text ≠ "" ∧ ∃ window : Window, text = window.sql

/-- Whether a piece is a word, a placeholder, or a name with some property. -/
def Sql.Piece.Uses (property : String → Prop) : Piece → Prop
  | .plain text => IsWord text
  | .quoted quote content => quote = '"' ∧ property content
  | .hole _ => True

section Uses

variable {property : String → Prop}

@[simp] theorem uses_name {name : String} : (Piece.name name).Uses property ↔ property name :=
  and_iff_right rfl

@[simp] theorem uses_hole (value : Cell) : (Piece.hole value).Uses property := trivial

theorem uses_plain {text : String} (hWord : text ∈ words) : (Piece.plain text).Uses property :=
  .inl hWord

/-- What is a word, a placeholder or a name is what it is called. -/
theorem Sql.Piece.Uses.wellFormed {piece : Piece} (hUses : piece.Uses property) :
    piece.WellFormed := by
  have hWords : ∀ word ∈ words, (Piece.plain word).WellFormed := by
    simp [words, Piece.WellFormed, IsPlain]
  cases piece with
  | plain text =>
      rcases hUses with hWord | ⟨hSome, window, rfl⟩
      · exact hWords text hWord
      · exact ⟨fun hNil => hSome (String.toList_inj.mp hNil), window.isPlain_sql⟩
  | quoted quote content => exact .inl hUses.1
  | hole value => trivial

/-- Parts between commas use the names that the parts use. -/
theorem uses_list {parts : List (List Piece)}
    (hParts : ∀ part ∈ parts, ∀ piece ∈ part, piece.Uses property) :
    ∀ piece ∈ [Piece.plain ", "].intercalate parts, piece.Uses property :=
  (Sql.forall_mem_intercalate (uses_plain (by decide)) parts).mpr hParts

theorem uses_columnRef {ref : ColumnRef} (hQualifier : ∀ q ∈ ref.qualifier, property q)
    (hName : property ref.name) : ∀ piece ∈ ref.pieces, piece.Uses property := by
  obtain ⟨qualifier, name⟩ := ref
  cases qualifier with
  | none => simpa [ColumnRef.pieces] using hName
  | some q =>
      rw [ColumnRef.pieces, List.forall_mem_cons, List.forall_mem_cons, List.forall_mem_singleton]
      exact ⟨uses_name.mpr (hQualifier q rfl), uses_plain (by decide), uses_name.mpr hName⟩

theorem uses_holes (values : List Cell) :
    ∀ piece ∈ [Piece.plain ", "].intercalate (values.map fun value => [.hole value]),
      piece.Uses property := by
  refine uses_list fun part hPart => ?_
  obtain ⟨value, -, rfl⟩ := List.mem_map.mp hPart
  simp

/-- A condition uses the names of its column. -/
theorem uses_expr {e : Expr} (hRef : ∀ piece ∈ e.ref.pieces, piece.Uses property) :
    ∀ piece ∈ e.pieces, piece.Uses property := by
  induction e with
  | column ref => exact hRef
  | compare left op right ih =>
      rw [Expr.pieces, List.forall_mem_append, List.forall_mem_cons, List.forall_mem_singleton]
      refine ⟨ih hRef, uses_plain ?_, uses_hole right⟩
      cases op <;> decide
  | member left values ih =>
      cases values with
      | nil => exact List.forall_mem_singleton.mpr (uses_plain (by decide))
      | cons value values =>
          show ∀ piece ∈ left.pieces ++ .plain " IN (" :: (_ ++ [.plain ")"]), _
          rw [List.forall_mem_append, List.forall_mem_cons, List.forall_mem_append,
            List.forall_mem_singleton]
          exact ⟨ih hRef, uses_plain (by decide), uses_holes _, uses_plain (by decide)⟩
  | nullTest left isNull ih =>
      rw [Expr.pieces, List.forall_mem_append, List.forall_mem_singleton]
      refine ⟨ih hRef, uses_plain ?_⟩
      cases isNull <;> decide

/-- The clause of a conjunction uses the names of its columns. -/
theorem uses_wherePieces {terms : List Expr}
    (hTerms : ∀ e ∈ terms, ∀ piece ∈ e.ref.pieces, piece.Uses property) :
    ∀ piece ∈ Sql.wherePieces terms, piece.Uses property := by
  unfold Sql.wherePieces
  split
  · simp
  · rw [List.forall_mem_cons, Sql.forall_mem_intercalate (uses_plain (by decide)),
      List.forall_mem_map]
    exact ⟨uses_plain (by decide), fun e he => uses_expr (hTerms e he)⟩

/-- What stands before the joins uses the names of the table and of the items. -/
theorem uses_headPieces {core : PlanCore} {joins : List (Link × Plan)}
    (hTable : property core.table)
    (hItems : ∀ item ∈ selectItems core joins,
      (∀ piece ∈ item.ref.pieces, piece.Uses property) ∧ property item.name) :
    ∀ piece ∈ headPieces core joins, piece.Uses property := by
  rw [headPieces, List.forall_mem_cons, List.forall_mem_append, List.forall_mem_cons,
    List.forall_mem_singleton]
  refine ⟨uses_plain (by decide), uses_list ?_, uses_plain (by decide), uses_name.mpr hTable⟩
  rw [List.forall_mem_map]
  intro item hItem
  rw [SelectItem.pieces, List.forall_mem_append, List.forall_mem_cons, List.forall_mem_singleton]
  exact ⟨(hItems item hItem).1, uses_plain (by decide), uses_name.mpr (hItems item hItem).2⟩

/-- What stands behind the joins uses the names of the columns in it. -/
theorem uses_tailPieces {core : PlanCore}
    (hPredicate : ∀ e ∈ core.predicate, ∀ piece ∈ e.ref.pieces, piece.Uses property)
    (hOrder : ∀ key ∈ core.order, ∀ piece ∈ key.ref.pieces, piece.Uses property) :
    ∀ piece ∈ tailPieces core, piece.Uses property := by
  have hKeys : ∀ piece ∈ orderPieces core.order, piece.Uses property := by
    unfold orderPieces
    split
    · simp
    · refine List.forall_mem_cons.mpr ⟨uses_plain (by decide), uses_list ?_⟩
      rw [List.forall_mem_map]
      intro key hKey
      rw [SortKey.pieces, List.forall_mem_append, List.forall_mem_singleton]
      refine ⟨hOrder key hKey, uses_plain ?_⟩
      cases key.direction <;> decide
  have hWindow : ∀ piece ∈ core.window.pieces, piece.Uses property := by
    unfold Window.pieces
    split
    · simp
    · rename_i hSome
      exact List.forall_mem_singleton.mpr (.inr ⟨hSome, core.window, rfl⟩)
  rw [tailPieces, List.forall_mem_append, List.forall_mem_append]
  exact ⟨uses_wherePieces hPredicate, hKeys, hWindow⟩

/-- The joins use the names that the joined plans use and those in their conditions. -/
theorem uses_joinsPieces {table : String} {joins : List (Link × Plan)}
    (hJoins : ∀ join ∈ joins, (∀ piece ∈ join.2.pieces, piece.Uses property) ∧
      property join.1.name ∧ (∀ piece ∈ (join.1.localRef table).pieces, piece.Uses property) ∧
      ∀ piece ∈ join.1.referencedRef.pieces, piece.Uses property) :
    ∀ piece ∈ Plan.joinsPieces table joins, piece.Uses property := by
  induction joins with
  | nil => simp [Plan.joinsPieces]
  | cons join joins ih =>
      obtain ⟨⟨hPlan, hName, hLocal, hReferenced⟩, hRest⟩ := List.forall_mem_cons.mp hJoins
      rw [Plan.joinsPieces, List.forall_mem_cons, List.forall_mem_append, List.forall_mem_append,
        joinTailPieces, List.forall_mem_cons, List.forall_mem_cons, List.forall_mem_cons,
        List.forall_mem_append, List.forall_mem_cons]
      exact ⟨uses_plain (by decide), hPlan,
        ⟨uses_plain (by decide), uses_name.mpr hName, uses_plain (by decide), hLocal,
          uses_plain (by decide), hReferenced⟩, ih hRest⟩

end Uses

/-! ## The names of a schema -/

/-- The names of a schema have some property, and so have those that columns get under relations. -/
structure Schema.NamesHave {ι : Type} (schema : Schema ι) (property : String → Prop) : Prop where
  table : ∀ key, property (schema.table key).name
  column : ∀ key, ∀ column ∈ (schema.table key).columns, property column.name
  relation : ∀ key, ∀ relation ∈ (schema.table key).relations, property relation.name
  localField : ∀ key, ∀ relation ∈ (schema.table key).relations, property relation.localField
  joined : ∀ key, ∀ relation ∈ (schema.table key).relations, ∀ name, property name →
    property (joinedName relation.name name)

section Schema

variable {ι : Type} {schema : Schema ι} {property : String → Prop}
  (hNames : schema.NamesHave property)

include hNames

/-- A known column under the name of its table uses names of the schema. -/
theorem Schema.NamesHave.uses_column {key : ι} {ref : ColumnRef}
    (hQualifier : ∀ q ∈ ref.qualifier, q = (schema.table key).name)
    (hKnown : ((schema.table key).column? ref.name).isSome = true) :
    ∀ piece ∈ ref.pieces, piece.Uses property := by
  obtain ⟨column, hColumn⟩ := Option.isSome_iff_exists.mp hKnown
  obtain ⟨hMem, hName⟩ := Table.mem_of_column? hColumn
  exact uses_columnRef (fun q hq => hQualifier q hq ▸ hNames.table key)
    (hName ▸ hNames.column key column hMem)

/-- The columns that a plan shows bear names of the schema. -/
theorem Query.PlannedAs.outputs_have {query : Query ι} :
    ∀ {key : ι} {plan : Plan}, query.PlannedAs schema key plan →
      ∀ column ∈ plan.outputs, property column.name := by
  induction query using Query.induction with
  | node own related ih =>
      intro key plan hPlanned
      obtain ⟨core, joins⟩ := plan
      obtain ⟨hCore, hJoins⟩ := hPlanned
      simp only [Plan.core, Plan.joins] at hCore hJoins
      rw [Plan.outputs, List.forall_mem_append, List.forall_mem_map, Plan.outputsOfJoins_eq]
      constructor
      · intro column hColumn
        exact hNames.column key column (hCore.fetched_mem column (List.mem_append_left _ hColumn))
      · intro output hOutput
        obtain ⟨join, hJoin, hUnder⟩ := List.mem_flatMap.mp hOutput
        obtain ⟨column, hColumn, rfl⟩ := List.mem_map.mp hUnder
        obtain ⟨entry, hMem, hEntry⟩ := hJoins.exists_entry join hJoin
        rw [hEntry.link_eq]
        exact hNames.joined key entry.1 hEntry.relation_mem _
          (ih entry hMem hEntry.planned column hColumn)

section Level

variable {key : ι} {own : SearchOptions} {core : PlanCore}
  (hCore : core.PlannedAs (schema.table key) own) {related : List (Relation ι × Query ι)}
  {joins : List (Link × Plan)} (hJoins : Query.AllPlannedAs schema key related joins)

include hJoins

theorem Query.AllPlannedAs.link_has {join : Link × Plan} (hJoin : join ∈ joins) :
    property join.1.name := by
  obtain ⟨entry, -, hEntry⟩ := hJoins.exists_entry join hJoin
  exact hEntry.link_eq ▸ hNames.relation key entry.1 hEntry.relation_mem

/-- A column under the name of a joined relation uses names of the schema. -/
theorem Query.AllPlannedAs.uses_under {join : Link × Plan} (hJoin : join ∈ joins) {name : String}
    (hName : property name) :
    ∀ piece ∈ (⟨some join.1.name, name⟩ : ColumnRef).pieces, piece.Uses property :=
  uses_columnRef
    (fun _ hQualifier => Option.mem_some_iff.mp hQualifier ▸ hJoins.link_has hNames hJoin) hName

include hCore

/-- Every item of the select list uses names of the schema. -/
theorem Query.AllPlannedAs.uses_items : ∀ item ∈ selectItems core joins,
    (∀ piece ∈ item.ref.pieces, piece.Uses property) ∧ property item.name := by
  refine forall_mem_selectItems (fun column hColumn => ?_) fun join hJoin column hColumn => ?_
  · have hMem := hCore.fetched_mem column hColumn
    refine ⟨hNames.uses_column ?_ (Table.column?_isSome hMem), hNames.column key column hMem⟩
    rintro q hq
    exact (Option.mem_some_iff.mp hq).symm.trans hCore.table_eq
  · obtain ⟨entry, -, hEntry⟩ := hJoins.exists_entry join hJoin
    have hName := hEntry.planned.outputs_have hNames column hColumn
    refine ⟨hJoins.uses_under hNames hJoin hName, ?_⟩
    rw [hEntry.link_eq]
    exact hNames.joined key entry.1 hEntry.relation_mem _ hName

/-- The joins use names of the schema if the plans that are joined do. -/
theorem Query.AllPlannedAs.uses_joins
    (hPlans : ∀ join ∈ joins, ∀ piece ∈ join.2.pieces, piece.Uses property) :
    ∀ piece ∈ Plan.joinsPieces core.table joins, piece.Uses property := by
  refine uses_joinsPieces fun join hJoin => ?_
  obtain ⟨entry, -, hEntry⟩ := hJoins.exists_entry join hJoin
  have hTable : property core.table := hCore.table_eq ▸ hNames.table key
  have hLocal : ∀ piece ∈ (join.1.localRef core.table).pieces, piece.Uses property := by
    refine uses_columnRef (fun q hq => Option.mem_some_iff.mp hq ▸ hTable) ?_
    rw [hEntry.link_eq]
    exact hNames.localField key entry.1 hEntry.relation_mem
  have hField : property join.1.referencedField := by
    obtain ⟨column, hColumn, hName⟩ := hEntry.fetches
    have hFetched := hNames.column entry.1.target column
      (hEntry.planned.own_planned.fetched_mem column hColumn)
    rw [hName] at hFetched
    rw [hEntry.link_eq]
    exact hFetched
  exact ⟨hPlans join hJoin, hJoins.link_has hNames hJoin, hLocal,
    hJoins.uses_under hNames hJoin hField⟩

end Level

/-- **The names in the statement of a plan** are names of the schema. -/
theorem Query.PlannedAs.uses_pieces {query : Query ι} :
    ∀ {key : ι} {plan : Plan}, query.PlannedAs schema key plan →
      ∀ piece ∈ plan.pieces, piece.Uses property := by
  induction query using Query.induction with
  | node own related ih =>
      intro key plan hPlanned
      obtain ⟨core, joins⟩ := plan
      obtain ⟨hCore, hJoins⟩ := hPlanned
      simp only [Plan.core, Plan.joins] at hCore hJoins
      have hTable : property core.table := hCore.table_eq ▸ hNames.table key
      have hOwn {ref : ColumnRef} (hQualifier : ref.qualifier = some (schema.table key).name) :
          ∀ q ∈ ref.qualifier, q = (schema.table key).name := by
        rintro q hq
        rw [hQualifier] at hq
        exact (Option.mem_some_iff.mp hq).symm
      rw [Plan.pieces, List.forall_mem_append, List.forall_mem_append]
      refine ⟨uses_headPieces hTable (hJoins.uses_items hNames hCore),
        hJoins.uses_joins hNames hCore fun join hJoin => ?_,
        uses_tailPieces (fun e he => ?_) fun sortKey hSortKey => ?_⟩
      · obtain ⟨entry, hMem, hEntry⟩ := hJoins.exists_entry join hJoin
        exact ih entry hMem hEntry.planned
      · obtain ⟨hQualifier, hKnown⟩ := hCore.ref_known e he
        exact hNames.uses_column (hOwn hQualifier) hKnown
      · obtain ⟨hQualifier, hKnown⟩ := hCore.sortKey_known sortKey hSortKey
        exact hNames.uses_column (hOwn hQualifier) hKnown

end Schema

/-! ## Reading the statement of a plan -/

/-- Whether a name can be quoted in a statement without breaking it off. -/
def Legible (name : String) : Prop := '\x00' ∉ name.toList

instance (name : String) : Decidable (Legible name) := inferInstanceAs (Decidable (_ ∉ _))

/-- A schema none of whose relations has a name that breaks off a statement. -/
def Schema.LegibleRelations {ι : Type} (schema : Schema ι) : Prop :=
  ∀ key, ∀ relation ∈ (schema.table key).relations, Legible relation.name

theorem Legible.joinedName {relation name : String} (hRelation : Legible relation)
    (hName : Legible name) : Legible (joinedName relation name) := by
  simp only [Legible, ModelStore.joinedName, String.toList_append, List.mem_append, not_or]
  exact ⟨⟨hRelation, by simp⟩, hName⟩

/-- What uses legible names only is read. -/
theorem Sql.Piece.Uses.isReadable {piece : Piece} (hUses : piece.Uses Legible) :
    piece.isReadable = true := by
  cases piece with
  | plain text => rfl
  | quoted quote content => simpa [Piece.isReadable, Legible] using hUses.2
  | hole value => rfl

/-- The names of a schema that a store holds are legible if those of its relations are. -/
theorem Store.Holds.names_legible {ι : Type} {schema : Schema ι} {store : Store}
    (hStore : store.Holds schema) (hNamed : schema.WellNamed)
    (hLegible : schema.LegibleRelations) : schema.NamesHave Legible := by
  have hColumn : ∀ key, ∀ column ∈ (schema.table key).columns, Legible column.name := by
    intro key
    obtain ⟨stored, -, hHolds⟩ := hStore key
    exact hHolds.names_readable.2
  refine
    { table := fun key => ?_
      column := hColumn
      relation := hLegible
      localField := fun key relation hMem => ?_
      joined := fun key relation hMem name => (hLegible key relation hMem).joinedName }
  · obtain ⟨stored, -, hHolds⟩ := hStore key
    exact hHolds.names_readable.1
  · obtain ⟨column, hField⟩ :=
      Option.isSome_iff_exists.mp ((hNamed key).fields_exist relation hMem)
    obtain ⟨hColumnMem, hName⟩ := Table.mem_of_column? hField
    exact hName ▸ hColumn key column hColumnMem

/-- **Reading the statement of a plan**: it has no fault just if it does not have too many
parameters. -/
theorem Query.PlannedAs.readingFault_eq_none_iff {ι : Type} {schema : Schema ι}
    (hNamed : schema.WellNamed) (hLegible : schema.LegibleRelations) {store : Store}
    (hStore : store.Holds schema) {query : Query ι} {key : ι} {plan : Plan}
    (hPlanned : query.PlannedAs schema key plan) :
    Sql.readingFault plan.sql = none ↔ plan.params.length ≤ Sql.placeholderLimit := by
  have hNames := hStore.names_legible hNamed hLegible
  rw [Sql.readingFault_eq_none_iff plan.wellSpaced_pieces plan.textOf_pieces, plan.valuesOf_pieces]
  exact and_iff_right fun piece hPiece => (hPlanned.uses_pieces hNames piece hPiece).isReadable

end ModelStore
