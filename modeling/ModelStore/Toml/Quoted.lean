import ModelStore.Toml.Form

/-!
# Quoted texts

What a quoted text says. Between quotes a backslash begins an escape, between apostrophes it stands for itself. A text
on several lines leaves out the end of its first line if nothing stands before it. A failure is an offset.

## Main definitions

* `Piece.text`: what a quoted text says.
-/

namespace ModelStore.Toml

/-! ## The characters ahead -/

/-- The characters that are left, and the number of bytes before them. -/
structure Inside where
  rest : List Char
  offset : Nat
  deriving Repr

/-- A reader of a text consumes characters and ends with a result, or fails at an offset. -/
abbrev TextReader (α : Type) := StateT Inside (Except Nat) α

namespace TextReader

/-- The character ahead. -/
def peek : TextReader (Option Char) := do return (← get).rest.head?

/-- The place reached. -/
def here : TextReader Nat := do return (← get).offset

/-- Fails at the place reached. -/
def fail {α : Type} : TextReader α := do throw (← here)

/-- Consumes so many characters. -/
def eat (count : Nat) : TextReader Unit :=
  modify fun inside => ⟨inside.rest.drop count, inside.offset + sizeOf (inside.rest.take count)⟩

/-! ## Escapes -/

/-- Whether a character is a digit of base sixteen. -/
def isHex (c : Char) : Bool :=
  c.isDigit || decide ('a' ≤ c ∧ c ≤ 'f') || decide ('A' ≤ c ∧ c ≤ 'F')

/-- The value of a digit in a base up to sixteen. -/
def digitValue (c : Char) : Nat :=
  if c.isDigit then c.toNat - '0'.toNat
  else if decide ('a' ≤ c) then c.toNat - 'a'.toNat + 10
  else c.toNat - 'A'.toNat + 10

/-- The natural number of some digits. -/
def valueOf (base : Nat) (cs : List Char) : Nat := cs.foldl (fun acc c => acc * base + digitValue c) 0

/-- A character by its number, which has so many digits. -/
def byNumber (count : Nat) : TextReader Char := do
  let start ← here
  let digits := ((← get).rest.take count).takeWhile isHex
  eat digits.length
  if digits.length < count then fail
  else
    let n := valueOf 16 digits
    if n < 0xD800 ∨ (0xDFFF < n ∧ n < 0x110000) then return Char.ofNat n else throw start

/-- The escapes of one letter. -/
def simpleEscape : Char → Option Char
  | 'b' => some '\x08'
  | 'e' => some '\x1b'
  | 't' => some '\t'
  | 'n' => some '\n'
  | 'f' => some '\x0c'
  | 'r' => some '\r'
  | '"' => some '"'
  | '\\' => some '\\'
  | _ => none

/-- The character of an escape, behind the backslash. -/
def escape : TextReader Char := do
  match ← peek with
  | some 'x' => eat 1; byNumber 2
  | some 'u' => eat 1; byNumber 4
  | some 'U' => eat 1; byNumber 8
  | some c =>
    match simpleEscape c with
    | some meant => eat 1; return meant
    | none => fail
  | none => fail

/-! ## Characters -/

/-- Whether a character may stand in a text only by an escape. -/
def isControl (c : Char) : Bool := (decide (c.toNat < 0x20) && c != '\t') || c.toNat == 0x7f

/-- Consumes the end of a line, if it stands ahead; a return needs a line feed behind it. -/
def lineBreak : TextReader (List Char) := do
  match (← get).rest with
  | '\n' :: _ => eat 1; return ['\n']
  | '\r' :: '\n' :: _ => eat 2; return ['\r', '\n']
  | '\r' :: _ => eat 1; fail
  | _ => return []

/-- Passes over blanks and ends of lines. -/
def gapFrom : (fuel : Nat) → TextReader Unit
  | 0 => return ()
  | fuel + 1 => do
    match ← peek with
    | some c =>
      if Token.isBlank c then
        eat 1
        gapFrom fuel
      else if (← lineBreak).isEmpty then return ()
      else gapFrom fuel
    | none => return ()

/-- Passes over the end of a line behind a backslash, and over the blanks and ends of lines that follow. -/
def continuation : TextReader Unit := do
  eat ((← get).rest.takeWhile Token.isBlank).length
  if (← lineBreak).isEmpty then fail else gapFrom (← get).rest.length

/-- The characters of a text, given whether it has escapes and whether it has several lines. -/
def chars (escapes lines : Bool) : (fuel : Nat) → TextReader (List Char)
  | 0 => return []
  | fuel + 1 => do
    match ← peek with
    | none => return []
    | some c =>
      if c = '\\' && escapes then
        eat 1
        match ← peek with
        | some d =>
          if lines && (Token.isBlank d || d == '\n' || d == '\r') then
            continuation
            chars escapes lines fuel
          else
            let meant ← escape
            return meant :: (← chars escapes lines fuel)
        | none => fail
      else if lines && (c == '\n' || c == '\r') then
        let ends ← lineBreak
        return ends ++ (← chars escapes lines fuel)
      else if isControl c then fail
      else
        eat 1
        return c :: (← chars escapes lines fuel)

end TextReader

/-! ## Texts -/

/-- The quotes that stand on each side. -/
def Quotes.marks : Quotes → List Char
  | .basic => ['"']
  | .bare => ['\'']
  | .basicBlock => ['"', '"', '"']
  | .bareBlock => ['\'', '\'', '\'']

/-- Whether a backslash begins an escape. -/
def Quotes.escapes : Quotes → Bool
  | .basic | .basicBlock => true
  | .bare | .bareBlock => false

/-- Whether a text may have several lines. -/
def Quotes.lines : Quotes → Bool
  | .basic | .bare => false
  | .basicBlock | .bareBlock => true

/-- The characters behind the end of a line, if one comes first. -/
def afterLineBreak (cs : List Char) : List Char :=
  match cs with
  | '\n' :: rest => rest
  | '\r' :: '\n' :: rest => rest
  | cs => cs

/-- What a quoted text says. A text that is not closed fails at its end. -/
def Quotes.text (quotes : Quotes) (start : Nat) (written : List Char) : Except Nat String := do
  let marks := quotes.marks
  let inner := written.drop marks.length
  let inner := if quotes.lines then afterLineBreak inner else inner
  if marks.isSuffixOf inner then
    let body := inner.take (inner.length - marks.length)
    let offset := start + sizeOf written - sizeOf inner
    let (cs, _) ← (TextReader.chars quotes.escapes quotes.lines body.length).run ⟨body, offset⟩
    return String.ofList cs
  else throw (start + sizeOf written)

end ModelStore.Toml
