/-!
# Lines and columns

The line and the column of an offset in a text, both counted from one. Columns count characters, except that the column
of a character of several bytes is the number of bytes before it in its line. The place behind the last character is one
column further, also behind the end of a line.

## Main definitions

* `Toml.positionOf`: the line and the column of an offset.
-/

namespace ModelStore.Toml

/-- The line and the column of an offset, counted from zero, given the line and the numbers of characters and of bytes
that have been passed over in it. -/
def advance : (left : Nat) → List Char → (line column size : Nat) → Nat × Nat
  | _, [], line, column, _ => (line, column)
  | 0, c :: _, line, column, size => (line, if c.utf8Size = 1 then column else size)
  | _ + 1, [_], line, column, _ => (line, column + 1)
  | left + 1, c :: rest, line, column, size =>
    if c = '\n' then advance left rest (line + 1) 0 0
    else advance (left + 1 - c.utf8Size) rest line (column + 1) (size + c.utf8Size)

/-- The line and the column of an offset. -/
def positionOf (text : String) (offset : Nat) : Nat × Nat :=
  let (line, column) := advance offset text.toList 0 0 0
  (line + 1, column + 1)

end ModelStore.Toml
