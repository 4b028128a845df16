import ModelStore.Store.Error

/-!
# Reading statements

A null character ends the text of a statement, so a quoted token in which it stands is never closed. A statement may
have so many placeholders and no more. Both show while the text is read from its start, before anything is looked up.

## Main definitions

* `Sql.readingFault`: the first fault of a text.
-/

namespace ModelStore.Sql

/-- A quoted token: its quote, the number of bytes before it, its characters, newest first, and whether it is open. A
quote that is written twice does not close it. -/
structure QuotedToken where
  quote : Char
  start : Nat
  chars : List Char
  isOpen : Bool
  deriving DecidableEq, Repr, Inhabited

/-- How far a text has been read: the bytes and the placeholders passed, and the last token if it was quoted. -/
structure Progress where
  offset : Nat
  placeholders : Nat
  token : Option QuotedToken
  deriving DecidableEq, Repr, Inhabited

/-- The greatest number of placeholders. -/
def placeholderLimit : Nat := 32766

namespace Progress

/-- The start of a text. -/
def start : Progress := ⟨0, 0, none⟩

/-- Reads a character outside of quoted tokens. -/
def readPlain (sql : String) (progress : Progress) (c : Char) : Except StoreError Progress :=
  let passed : Progress := ⟨progress.offset + c.utf8Size, progress.placeholders, none⟩
  if c = '"' ∨ c = '\'' then .ok { passed with token := some ⟨c, progress.offset, [c], true⟩ }
  else if c ≠ '?' then .ok passed
  else if progress.placeholders < placeholderLimit then
    .ok { passed with placeholders := progress.placeholders + 1 }
  else .error (.tooManyVariables ⟨sql, progress.offset⟩)

/-- Reads a character. -/
def read (sql : String) (progress : Progress) (c : Char) : Except StoreError Progress :=
  match progress.token with
  | none => progress.readPlain sql c
  | some token =>
    let longer : Progress :=
      { progress with
        offset := progress.offset + c.utf8Size
        token := some { token with chars := c :: token.chars, isOpen := token.isOpen != (c == token.quote) } }
    if token.isOpen then
      if c = '\x00' then .error (.unrecognizedToken (String.ofList token.chars.reverse) ⟨sql, token.start⟩)
      else .ok longer
    else if c = token.quote then .ok longer
    else progress.readPlain sql c

end Progress

/-- The first fault of a text. -/
def readingFault (sql : String) : Option StoreError :=
  match sql.toList.foldlM (Progress.read sql) Progress.start with
  | .ok _ => none
  | .error e => some e

end ModelStore.Sql
