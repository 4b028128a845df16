import ModelStore.Toml.Token

/-!
# Documents as written

A document is lines: headers, and pairs of a key and a value. Keys and values are kept as they are written; a part of a
key or a value that is missing is an empty piece where it should stand.

## Main definitions

* `Piece`, `Form`, `Line`: documents as written.
-/

namespace ModelStore.Toml

/-- A quoted text or a run of bare characters, with the number of bytes before it. -/
structure Piece where
  quotes : Option Quotes
  start : Nat
  chars : List Char
  deriving Repr, Inhabited

/-- The place behind a piece. -/
def Piece.stop (piece : Piece) : Nat := piece.start + sizeOf piece.chars

/-- A piece that is missing. -/
def Piece.missing (start : Nat) : Piece := ⟨none, start, []⟩

/-- A value as written. -/
inductive Form where
  | scalar (piece : Piece)
  | list (start : Nat) (items : List Form)
  | inlined (start : Nat) (pairs : List (List Piece × Form))
  deriving Repr, Inhabited

/-- The place of a value. -/
def Form.start : Form → Nat
  | .scalar piece => piece.start
  | .list start _ => start
  | .inlined start _ => start

/-- A line as written. -/
inductive Line where
  /-- The header of a table, or of an element of an array of tables. -/
  | header (element : Bool) (start : Nat) (key : List Piece)
  | pair (key : List Piece) (value : Form)
  deriving Repr, Inhabited

end ModelStore.Toml
