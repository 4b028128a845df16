import ModelStore.Proofs.Sql.Tokens
import ModelStore.Schema.Ddl

/-!
# Reading back how a table is laid out

The statement that creates a table says how the table is laid out: its name, and for each column in
order the name, the storage type, the constraints and the default.  A reader of the tokens finds all
of this again, whatever the names and text defaults are, as long as no null character stands in one.
Columns end at the commas outside of parentheses, and quoted tokens hold no commas, parentheses or
keywords, so nothing in a name or a text is taken for a part of the statement.

So tables that are laid out in different ways are created by different statements.

## Main definitions

* `Layout`, `Table.layout`: how a table is laid out.
* `Layout.ofSql`: what a statement says about that.
* `Table.IsReadable`: tables whose names and text defaults have no null characters.

## Main results

* `Table.lex_createSql`: the tokens of the statement.
* `Table.layout_recovered`: the statement says just how the table is laid out.
-/

namespace ModelStore

open Sql (Token Spells Breaks lex quoteName quoteText)

/-! ## Layouts -/

/-- How a column is laid out. -/
structure ColumnLayout where
  name : String
  type : String
  primaryKey : Bool
  notNull : Bool
  unique : Bool
  /-- The default as it is written. -/
  initial : Option String
  deriving DecidableEq, Repr, Inhabited

/-- How a table is laid out. -/
structure Layout where
  name : String
  columns : List ColumnLayout
  deriving DecidableEq, Repr, Inhabited

/-- The layout of a column. -/
def Column.layout (column : Column) : ColumnLayout :=
  ⟨column.name, column.type.sqlType, column.primaryKey, !column.nullable, column.unique,
    column.initial.sql⟩

/-- The layout of a table. -/
def Table.layout {ι : Type} (table : Table ι) : Layout :=
  ⟨table.name, table.columns.map Column.layout⟩

/-! ## Reading a layout -/

/-- A token as it is written. -/
def Sql.Token.spelling : Token → String
  | word s | number s | sign s => s
  | name s => quoteName s
  | text s => quoteText s
  | hole => "?"

/-- Puts a token in front of the first item. -/
def pushToken (token : Token) (items : List (List Token)) : List (List Token) :=
  items.modifyHead (token :: ·)

/-- The items between the commas that stand in no parentheses, given how many parentheses are
open. -/
def splitItems : Nat → List Token → Option (List (List Token))
  | depth, [] => if depth = 0 then some [[]] else none
  | depth, token :: rest =>
    if token = .sign "(" then (splitItems (depth + 1) rest).map (pushToken token)
    else if token = .sign ")" then
      match depth with
      | 0 => none
      | depth + 1 => (splitItems depth rest).map (pushToken token)
    else if token = .sign "," ∧ depth = 0 then (splitItems 0 rest).map ([] :: ·)
    else (splitItems depth rest).map (pushToken token)

/-- Whether some tokens are a default: a literal, perhaps with a sign, or an expression in
parentheses. -/
def isDefault : List Token → Bool
  | [.number _] | [.text _] | [.word _] => true
  | [.sign sign, .number _] => sign == "+" || sign == "-"
  | token :: rest =>
    token == .sign "(" && rest.getLast? == some (.sign ")") && (splitItems 0 rest.dropLast).isSome
  | [] => false

/-- What the constraints of a column say, of which a default is the last. -/
def readConstraints (layout : ColumnLayout) : List Token → Option ColumnLayout
  | [] => some layout
  | .word "PRIMARY" :: .word "KEY" :: rest =>
    readConstraints { layout with primaryKey := true } rest
  | .word "NOT" :: .word "NULL" :: rest => readConstraints { layout with notNull := true } rest
  | .word "UNIQUE" :: rest => readConstraints { layout with unique := true } rest
  | .word "DEFAULT" :: value =>
    if isDefault value then
      some { layout with initial := some (String.join (value.map Token.spelling)) }
    else none
  | _ => none

/-- What the definition of a column says. -/
def ColumnLayout.ofTokens : List Token → Option ColumnLayout
  | .name name :: .word type :: rest =>
    readConstraints ⟨name, type, false, false, false, none⟩ rest
  | _ => none

/-- What the tokens of a statement say. -/
def Layout.ofTokens : List Token → Option Layout
  | .word "CREATE" :: .word "TABLE" :: .word "IF" :: .word "NOT" :: .word "EXISTS" ::
      .name name :: .sign "(" :: rest =>
    if rest = [.sign ")"] then some ⟨name, []⟩
    else if rest.getLast? = some (.sign ")") then
      (splitItems 0 rest.dropLast).bind fun items =>
        (items.mapM ColumnLayout.ofTokens).map (⟨name, ·⟩)
    else none
  | _ => none

/-- What the text of a statement says. -/
def Layout.ofSql (sql : String) : Option Layout := (lex sql.toList).bind Layout.ofTokens

/-! ## The tokens of a statement -/

/-- The tokens of an integer. -/
def integerTokens (i : Int) : List Token :=
  if 0 ≤ i then [.number i.toNat.repr] else [.sign "-", .number (-i).toNat.repr]

/-- The tokens of the default that the store applies. -/
def DefaultRule.tokens : DefaultRule → List Token
  | .none | .uuid => []
  | .unixEpoch =>
    [.word "DEFAULT", .sign "(", .word "strftime", .sign "(", .text "%s", .sign ",", .text "now",
      .sign ")", .sign ")"]
  | .text s => [.word "DEFAULT", .text s]
  | .integer i => .word "DEFAULT" :: integerTokens i
  | .boolean b => [.word "DEFAULT", .number (if b then "1" else "0")]

/-- The words of the constraints of a column. -/
def Column.words (column : Column) : List String :=
  column.type.sqlType :: (if column.primaryKey then ["PRIMARY", "KEY"] else []) ++
    (if column.nullable then [] else ["NOT", "NULL"]) ++ (if column.unique then ["UNIQUE"] else [])

/-- The tokens of the definition of a column. -/
def Column.tokens (column : Column) : List Token :=
  .name column.name :: column.words.map .word ++ column.initial.tokens

/-- The words that the statement begins with. -/
def createWords : List String := ["CREATE", "TABLE", "IF", "NOT", "EXISTS"]

/-- The tokens of the statement that creates a table. -/
def Table.createTokens {ι : Type} (table : Table ι) : List Token :=
  createWords.map .word ++
    .name table.name :: .sign "(" ::
      ([Token.sign ","].intercalate (table.columns.map Column.tokens) ++ [.sign ")"])

/-! ### The text is read as these -/

/-- Whether a default has no null character in it. -/
def DefaultRule.IsReadable : DefaultRule → Prop
  | .text s => '\x00' ∉ s.toList
  | _ => True

/-- Whether no null character stands in the name or the default of a column. -/
def Column.IsReadable (column : Column) : Prop :=
  '\x00' ∉ column.name.toList ∧ column.initial.IsReadable

/-- Whether no null character stands in a name or a default. -/
def Table.IsReadable {ι : Type} (table : Table ι) : Prop :=
  '\x00' ∉ table.name.toList ∧ ∀ column ∈ table.columns, column.IsReadable

/-- An integer is one number, behind a sign if it is negative. -/
theorem spells_integer (i : Int) : Spells (toString i).toList (integerTokens i) := by
  have hDigits (n : Nat) : Spells ('-' :: n.repr.toList) [.sign "-", .number n.repr] := by
    obtain ⟨c, cs, hChars⟩ : ∃ c cs, Nat.toDigits 10 n = c :: cs :=
      List.exists_cons_of_ne_nil Nat.toDigits_ne_nil
    have hDigit : c.isDigit = true :=
      Nat.isDigit_of_mem_toDigits (b := 10) (by decide) (by decide) (hChars ▸ List.mem_cons_self)
    -- A second sign would begin a comment, or an arrow.
    have hMinus : c ≠ '-' := by rintro rfl; revert hDigit; decide
    have hArrow : c ≠ '>' := by rintro rfl; revert hDigit; decide
    refine (Sql.spells_repr n).cons (by decide) (by decide) fun rest => ?_
    rw [Nat.toList_repr, hChars]
    simp [Sql.readToken, Sql.readSign, Sql.signs, Sql.isWordStart, hMinus, hArrow.symm]
  rw [Int.toString_eq_repr, Int.repr_eq_if, integerTokens]
  split
  · exact Sql.spells_repr i.toNat
  · rw [String.toList_append]
    exact hDigits (-i).toNat

/-- What stands behind the constraints of a column. -/
def DefaultRule.clause (rule : DefaultRule) : String :=
  match rule.sql with
  | some value => " DEFAULT " ++ value
  | Option.none => ""

theorem DefaultRule.breaks_clause (rule : DefaultRule) : Breaks rule.clause.toList := by
  unfold clause
  cases rule.sql <;> simp [Breaks]

theorem DefaultRule.spells_clause {rule : DefaultRule} (hReadable : rule.IsReadable) :
    Spells rule.clause.toList rule.tokens := by
  have hDefault (value : String) {tokens : List Token} (hValue : Spells value.toList tokens) :
      Spells (" DEFAULT " ++ value).toList (.word "DEFAULT" :: tokens) := by
    have hWord : Spells " DEFAULT".toList [.word "DEFAULT"] :=
      Sql.spells_words ["DEFAULT"] rfl
    have hText : (" DEFAULT " ++ value).toList = " DEFAULT".toList ++ ' ' :: value.toList := by
      simp
    rw [hText]
    exact hWord.append hValue.blank (by simp [Breaks])
  cases rule with
  | none => exact Spells.nil
  | uuid => exact Spells.nil
  | unixEpoch =>
      have hNow := (Sql.spells_quoteText "now" (by simp)).append
        Spells.nil.close_paren.close_paren (by simp [Breaks])
      have hArguments := (Sql.spells_quoteText "%s" (by simp)).append hNow.comma
        (by simp [Breaks])
      have hCall := (Sql.spells_word "strftime" rfl).append hArguments.open_paren
        (by simp [Breaks])
      exact hDefault "(strftime('%s','now'))" hCall.open_paren
  | text s => exact hDefault _ (Sql.spells_quoteText s hReadable)
  | integer i => exact hDefault _ (spells_integer i)
  | boolean b =>
      cases b with
      | true => exact hDefault _ (Sql.spells_repr 1)
      | false => exact hDefault _ (Sql.spells_repr 0)

theorem Column.all_words (column : Column) : column.words.all Sql.isBareWord = true := by
  have hType : Sql.isBareWord column.type.sqlType = true := by cases column.type <;> rfl
  have hFlag (flag : Bool) {ifSo ifNot : List String} (hSo : ifSo.all Sql.isBareWord = true)
      (hNot : ifNot.all Sql.isBareWord = true) :
      (if flag then ifSo else ifNot).all Sql.isBareWord = true := by
    cases flag
    · exact hNot
    · exact hSo
  simp only [words, List.all_cons, List.all_append, Bool.and_eq_true]
  exact ⟨⟨⟨hType, hFlag _ rfl rfl⟩, hFlag _ rfl rfl⟩, hFlag _ rfl rfl⟩

theorem Column.toList_sql (column : Column) :
    column.sql.toList = (quoteName column.name).toList ++
      ((column.words.flatMap fun word => ' ' :: word.toList) ++ column.initial.clause.toList) := by
  obtain ⟨name, type, nullable, primaryKey, unique, initial⟩ := column
  cases nullable <;> cases primaryKey <;> cases unique <;> simp [Column.sql, Column.words] <;> rfl

/-- The definition of a column is read as its tokens. -/
theorem Column.spells_sql {column : Column} (hReadable : column.IsReadable) :
    Spells column.sql.toList column.tokens := by
  have hBehind := (Sql.spells_words _ column.all_words).append
    (DefaultRule.spells_clause hReadable.2) column.initial.breaks_clause
  rw [column.toList_sql]
  exact (Sql.spells_quoteName hReadable.1).append hBehind (by simp [Breaks, Column.words])

/-- Definitions between commas are read as their tokens between commas. -/
theorem spells_columns {columns : List Column}
    (hReadable : ∀ column ∈ columns, column.IsReadable) :
    Spells (", ".toList.intercalate (columns.map fun column => column.sql.toList))
      ([Token.sign ","].intercalate (columns.map Column.tokens)) := by
  induction columns with
  | nil => exact Spells.nil
  | cons column columns ih =>
      obtain ⟨hColumn, hColumns⟩ := List.forall_mem_cons.mp hReadable
      have hRest := ih hColumns
      cases columns with
      | nil => simpa [List.intercalate] using Column.spells_sql hColumn
      | cons next columns =>
          simp only [List.map_cons, List.intercalate_cons_cons] at hRest ⊢
          rw [List.append_assoc, List.append_assoc]
          exact (Column.spells_sql hColumn).append hRest.blank.comma (by simp [Breaks])

variable {ι : Type}

theorem Table.toList_createSql (table : Table ι) :
    ' ' :: table.createSql.toList =
      (createWords.flatMap fun word => ' ' :: word.toList) ++
        ' ' :: ((quoteName table.name).toList ++
          ' ' :: '(' :: (", ".toList.intercalate
            (table.columns.map fun column => column.sql.toList) ++ [')'])) := by
  have hColumns : (String.intercalate ", " (table.columns.map Column.sql)).toList =
      ", ".toList.intercalate (table.columns.map fun column => column.sql.toList) := by
    simp [String.toList_intercalate, Function.comp_def]
  have hText : table.createSql.toList = "CREATE TABLE IF NOT EXISTS ".toList ++
      ((quoteName table.name).toList ++ ' ' :: '(' :: (", ".toList.intercalate
        (table.columns.map fun column => column.sql.toList) ++ [')'])) := by
    unfold Table.createSql Table.createHead
    simp only [String.toList_append, hColumns, List.append_assoc]
    rfl
  have hWords : ' ' :: "CREATE TABLE IF NOT EXISTS ".toList =
      (createWords.flatMap fun word => ' ' :: word.toList) ++ [' '] := by decide
  calc ' ' :: table.createSql.toList
      = (' ' :: "CREATE TABLE IF NOT EXISTS ".toList) ++ _ := congrArg (' ' :: ·) hText
    _ = _ := congrArg (· ++ _) hWords
    _ = _ := by rw [List.append_assoc, List.singleton_append]

/-- **The tokens of the statement** that creates a table. -/
theorem Table.lex_createSql {table : Table ι} (hReadable : table.IsReadable) :
    lex table.createSql.toList = some table.createTokens := by
  have hBody := (spells_columns hReadable.2).append (Spells.nil.close_paren) (by simp [Breaks])
  have hHead := (Sql.spells_quoteName hReadable.1).append hBody.open_paren.blank (by simp [Breaks])
  have hWords := Sql.spells_words createWords rfl
  have hStatement := (hWords.append hHead.blank (by simp [Breaks])).lex_eq
  rw [← table.toList_createSql, Sql.lex_blank] at hStatement
  exact hStatement

/-! ## The reader finds the layout -/

/-- Tokens that stand in one item. -/
def Whole (tokens : List Token) : Prop :=
  ∀ rest, splitItems 0 (tokens ++ rest) = (splitItems 0 rest).map (·.modifyHead (tokens ++ ·))

theorem Whole.nil : Whole [] := by
  intro rest
  have hId : (fun items : List (List Token) => items.modifyHead ([] ++ ·)) = id := by
    funext items
    cases items <;> rfl
  rw [hId]
  simp

theorem Whole.cons {token : Token} {tokens : List Token} (hTokens : Whole tokens)
    (hToken : token ≠ .sign "(" ∧ token ≠ .sign ")" ∧ token ≠ .sign ",") :
    Whole (token :: tokens) := by
  obtain ⟨hOpen, hClose, hComma⟩ := hToken
  intro rest
  rw [List.cons_append, splitItems, if_neg hOpen, if_neg hClose, if_neg (by simp [hComma]),
    hTokens rest, Option.map_map]
  congr 1
  funext items
  cases items <;> rfl

theorem Whole.append {tokens others : List Token} (hTokens : Whole tokens)
    (hOthers : Whole others) : Whole (tokens ++ others) := by
  intro rest
  rw [List.append_assoc, hTokens, hOthers rest, Option.map_map]
  congr 1
  funext items
  cases items <;> simp

theorem DefaultRule.whole_tokens (rule : DefaultRule) : Whole rule.tokens := by
  cases rule with
  | none => exact Whole.nil
  | uuid => exact Whole.nil
  | unixEpoch =>
      intro rest
      simp only [tokens, List.cons_append, List.nil_append, splitItems]
      simp [Function.comp_def, pushToken]
  | text s => exact (Whole.nil.cons (by simp)).cons (by simp)
  | integer i =>
      refine Whole.cons ?_ (by simp)
      unfold integerTokens
      split
      · exact Whole.nil.cons (by simp)
      · exact (Whole.nil.cons (by simp)).cons (by simp)
  | boolean b =>
      exact (Whole.nil.cons (by simp)).cons (by simp)

theorem Column.whole_tokens (column : Column) : Whole column.tokens := by
  have hWords (words : List String) : Whole (words.map .word) := by
    induction words with
    | nil => exact Whole.nil
    | cons word words ih => exact ih.cons (by simp)
  exact ((hWords column.words).cons (by simp)).append
    column.initial.whole_tokens

/-- Items between commas are found again. -/
theorem splitItems_intercalate {items : List (List Token)} (hSome : items ≠ [])
    (hWhole : ∀ item ∈ items, Whole item) :
    splitItems 0 ([Token.sign ","].intercalate items) = some items := by
  induction items with
  | nil => exact absurd rfl hSome
  | cons item items ih =>
      obtain ⟨hItem, hItems⟩ := List.forall_mem_cons.mp hWhole
      cases items with
      | nil =>
          have := hItem []
          simpa [List.intercalate, splitItems] using this
      | cons next items =>
          rw [List.intercalate_cons_cons, List.append_assoc, hItem, List.singleton_append,
            splitItems, if_neg (by decide), if_neg (by decide), if_pos ⟨rfl, rfl⟩,
            ih (by simp) hItems]
          simp

/-- The default is the last of the constraints. -/
theorem readConstraints_default (rule : DefaultRule) {layout : ColumnLayout}
    (hInitial : layout.initial = none) :
    readConstraints layout rule.tokens = some { layout with initial := rule.sql } := by
  have hNone : ({ layout with initial := none } : ColumnLayout) = layout := by rw [← hInitial]
  cases rule with
  | none => simp [DefaultRule.tokens, DefaultRule.sql, readConstraints, hNone]
  | uuid => simp [DefaultRule.tokens, DefaultRule.sql, readConstraints, hNone]
  | unixEpoch => rfl
  | text s =>
      simp [DefaultRule.tokens, DefaultRule.sql, readConstraints, isDefault, Token.spelling]
  | integer i =>
      have hSpelling : String.join ((integerTokens i).map Token.spelling) = toString i := by
        rw [Int.toString_eq_repr, Int.repr_eq_if, integerTokens]
        split <;> simp [Token.spelling]
      have hDefault : isDefault (integerTokens i) = true := by
        unfold integerTokens
        split <;> rfl
      rw [DefaultRule.tokens, DefaultRule.sql, readConstraints, if_pos hDefault, hSpelling]
  | boolean b => cases b <;> rfl

/-- **A column read back**: its definition says just how it is laid out. -/
theorem ColumnLayout.ofTokens_tokens (column : Column) :
    ColumnLayout.ofTokens column.tokens = some column.layout := by
  obtain ⟨name, type, nullable, primaryKey, unique, initial⟩ := column
  cases nullable <;> cases primaryKey <;> cases unique <;>
    simp [Column.tokens, Column.words, ColumnLayout.ofTokens, readConstraints,
      readConstraints_default, Column.layout]

/-- **A statement read back**: its tokens say just how the table is laid out. -/
theorem Layout.ofTokens_createTokens (table : Table ι) :
    Layout.ofTokens table.createTokens = some table.layout := by
  have hItems : (table.columns.map Column.tokens).mapM ColumnLayout.ofTokens =
      some (table.columns.map Column.layout) := by
    induction table.columns with
    | nil => rfl
    | cons column columns ih => simp [ColumnLayout.ofTokens_tokens, ih]
  have hStart : table.createTokens =
      .word "CREATE" :: .word "TABLE" :: .word "IF" :: .word "NOT" :: .word "EXISTS" ::
        .name table.name :: .sign "(" ::
          ([Token.sign ","].intercalate (table.columns.map Column.tokens) ++ [.sign ")"]) := rfl
  rw [hStart, Layout.ofTokens, Table.layout]
  cases hColumns : table.columns with
  | nil => rfl
  | cons column columns =>
      have hSome : (column :: columns).map Column.tokens ≠ [] := by simp
      have hSplit := splitItems_intercalate hSome fun item hItem => by
        obtain ⟨other, -, rfl⟩ := List.mem_map.mp hItem
        exact other.whole_tokens
      have hBody : [Token.sign ","].intercalate ((column :: columns).map Column.tokens) ≠ [] := by
        intro hEmpty
        rw [hEmpty, splitItems, if_pos rfl] at hSplit
        simp [Column.tokens] at hSplit
      rw [if_neg (mt List.append_left_eq_self.mp hBody), if_pos (by simp),
        List.dropLast_concat, hSplit, Option.bind_some, ← hColumns, hItems]
      rfl

/-- **Reading back**: for all tables without null characters in their names and text defaults, the
statement that creates the table says just how it is laid out; so the statements of two tables that
are laid out in different ways are different.  The literal of a text default is one token, whose
value is the text. -/
theorem Table.layout_recovered {κ : Type} {table : Table ι} (hReadable : table.IsReadable) :
    Layout.ofSql table.createSql = some table.layout ∧
      (∀ other : Table κ, other.IsReadable → other.createSql = table.createSql →
        other.layout = table.layout) ∧
      ∀ column ∈ table.columns, ∀ s, column.initial = .text s →
        ∃ literal, column.initial.sql = some literal ∧ lex literal.toList = some [.text s] := by
  have hOwn {μ : Type} {other : Table μ} (hOther : other.IsReadable) :
      Layout.ofSql other.createSql = some other.layout := by
    rw [Layout.ofSql, Table.lex_createSql hOther, Option.bind_some, Layout.ofTokens_createTokens]
  refine ⟨hOwn hReadable, fun other hOther hEq => ?_, fun column hColumn s hText => ?_⟩
  · have hLayouts := hOwn hOther
    rw [hEq, hOwn hReadable] at hLayouts
    exact (Option.some.inj hLayouts).symm
  · have hDefault : column.initial.IsReadable := (hReadable.2 column hColumn).2
    rw [hText] at hDefault ⊢
    exact ⟨quoteText s, rfl, (Sql.spells_quoteText s hDefault).lex_eq⟩

/-- A table whose names and default look like other parts of a statement. -/
def quotedTable : Table Unit where
  name := "a\"b\" ("
  model := "quoted"
  columns :=
    [ Column.asPrimaryKey (.plain "x\" TEXT, \"y" .integer)
    , (Column.plain "it's" .text).notNull.startingAs (.text "', 1) DEFAULT (''") ]
  relations := []

theorem layout_recovered_quotedTable :
    Layout.ofSql quotedTable.createSql = some
      ⟨"a\"b\" (",
        [ ⟨"x\" TEXT, \"y", "INTEGER", true, true, false, none⟩
        , ⟨"it's", "TEXT", false, true, false, some "''', 1) DEFAULT ('''''"⟩ ]⟩ := by
  have hReadable : quotedTable.IsReadable := by
    simp [Table.IsReadable, Column.IsReadable, DefaultRule.IsReadable, quotedTable,
      Column.asPrimaryKey, Column.plain, Column.notNull, Column.startingAs]
  exact (Table.layout_recovered (κ := Unit) hReadable).1

end ModelStore
