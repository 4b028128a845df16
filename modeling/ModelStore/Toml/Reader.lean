import ModelStore.Toml.Form

/-!
# Reading lines

Tokens are put together to lines from left to right. A failure is the offset, in bytes, at which the text stops having
the form of a document. What is missing in a key or in place of a value is no failure here: the piece is left empty.

## Main definitions

* `Reader`: the readers.
* `Reader.value`: a value.
* `Line.ofText`: the lines of a text.
-/

namespace ModelStore.Toml

/-! ## The tokens ahead -/

/-- The tokens that are left, and the place behind the last one that was no gap. -/
structure Cursor where
  ahead : List Token
  behind : Nat
  deriving Repr

/-- The number of levels that may be open at once. -/
def depthLimit : Nat := 80

/-- Whether a character may not stand in comments and texts. -/
def isControl (c : Char) : Bool := (decide (c.toNat < 0x20) && c != '\t') || c.toNat == 0x7f

/-- Whether tokens of a kind only stand between others. -/
def TokenKind.isGap : TokenKind → Bool
  | .blank | .comment | .lineBreak | .finish => true
  | _ => false

/-- The place at which a token is wrong in itself: a control character in a comment, or behind a return without a
line feed. -/
def Token.fault? (token : Token) : Option Nat :=
  match token.kind with
  | .comment =>
    if token.chars.any isControl then some (token.start + sizeOf (token.chars.takeWhile fun c => !isControl c))
    else none
  | .lineBreak => if token.chars == ['\r'] then some token.stop else none
  | _ => none

/-- A reader consumes tokens and ends with a result, or fails at an offset. -/
abbrev Reader (α : Type) := StateT Cursor (Except Nat) α

namespace Reader

/-- The token ahead. -/
def peek : Reader Token := do
  let cursor ← get
  return cursor.ahead.headD ⟨.finish, cursor.behind, []⟩

/-- The place of the token ahead. -/
def here : Reader Nat := do return (← peek).start

/-- Consumes the token ahead. -/
def take : Reader Token := do
  let token ← peek
  match token.fault? with
  | some place => throw place
  | none =>
    modify fun cursor => ⟨cursor.ahead.drop 1, if token.kind.isGap then cursor.behind else token.stop⟩
    return token

/-- Consumes the token ahead if it is of a kind; whether it was. -/
def takeIf (kind : TokenKind) : Reader Bool := do
  if (← peek).kind = kind then
    discard take
    return true
  else return false

/-- Passes over a blank. -/
def blank : Reader Unit := do discard (takeIf .blank)

/-- Passes over blanks, comments and ends of lines. -/
def gapFrom : (fuel : Nat) → Reader Unit
  | 0 => return ()
  | fuel + 1 => do
    match (← peek).kind with
    | .blank | .comment | .lineBreak =>
      discard take
      gapFrom fuel
    | _ => return ()

/-- Passes over blanks, comments and ends of lines. -/
def gap : Reader Unit := do gapFrom (← get).ahead.length

/-- What stands behind an expression: a blank, a comment, and the end of the line or of the text. -/
def lineEnd : Reader Unit := do
  blank
  if ← takeIf .comment then return ()
  let token ← peek
  match token.kind with
  | .finish => return ()
  | .lineBreak => discard take
  | _ => throw token.start

/-- Passes over the rest of a line. -/
def restOfLine : (fuel : Nat) → Reader Unit
  | 0 => return ()
  | fuel + 1 => do
    match (← peek).kind with
    | .finish => return ()
    | .lineBreak => discard take
    | _ =>
      discard take
      restOfLine fuel

/-! ## Keys -/

/-- The parts of a key, and whether its last part is there. -/
def keyFrom : (fuel : Nat) → Reader (List Piece × Bool)
  | 0 => return ([], false)
  | fuel + 1 => do
    let token ← peek
    match token.kind with
    | .quoted quotes => more ⟨quotes, token.start, token.chars⟩ fuel
    | .word => more ⟨none, token.start, token.chars⟩ fuel
    | .dot =>
      discard take
      blank
      let (parts, whole) ← keyFrom fuel
      return (.missing token.start :: parts, whole)
    | _ => return ([.missing token.start], false)
where
  /-- A part that is there, and those behind it. -/
  more (part : Piece) (fuel : Nat) : Reader (List Piece × Bool) := do
    discard take
    blank
    if ← takeIf .dot then
      blank
      let (parts, whole) ← keyFrom fuel
      return (part :: parts, whole)
    else return ([part], true)

/-- The parts of a key, and whether its last part is there. -/
def key : Reader (List Piece × Bool) := do keyFrom ((← get).ahead.length + 1)

/-! ## Values -/

/-- The characters that belong to a bare value: words and dots, and what words follow them behind a blank. -/
def bareFrom : (fuel : Nat) → Reader (List Char)
  | 0 => return []
  | fuel + 1 => do
    let token ← peek
    match token.kind with
    | .dot | .word | .quoted _ =>
      discard take
      return token.chars ++ (← bareFrom fuel)
    | .blank =>
      match (← get).ahead with
      | _ :: next :: _ =>
        if next.kind = .word then
          discard take
          return token.chars ++ (← bareFrom fuel)
        else return []
      | _ => return []
    | _ => return []

/-- A value that holds no others. -/
def scalar : Reader Form := do
  let token ← peek
  match token.kind with
  | .quoted quotes =>
    discard take
    return .scalar ⟨quotes, token.start, token.chars⟩
  | _ => return .scalar ⟨none, token.start, ← bareFrom (← get).ahead.length⟩

/-- The items of a list, behind its bracket or behind an item; one may follow if the place is ready for it. -/
def listItems (value : Reader Form) : (fuel : Nat) → (ready : Bool) → Reader (List Form)
  | 0, _ => do throw (← get).behind
  | fuel + 1, ready => do
    gap
    let token ← peek
    match token.kind with
    | .finish => throw (← get).behind
    | .closeBracket =>
      discard take
      return []
    | .comma =>
      if ready then throw token.start
      else
        discard take
        listItems value fuel true
    | .equals => throw token.start
    | _ =>
      if ready then
        let item ← value
        return item :: (← listItems value fuel false)
      else throw token.start

/-- The value of a pair in an inline table, from the key on. -/
def inlineValue (value : Reader Form) : Reader Form := do
  gap
  let token ← peek
  match token.kind with
  | .finish => throw (← get).behind
  | .equals =>
    discard take
    gap
    let token ← peek
    match token.kind with
    | .finish => throw (← get).behind
    | .closeBrace => return .scalar (.missing token.start)
    | _ => value
  | _ => throw token.start

/-- The pairs of an inline table, behind its brace or behind a pair; one may follow if the place is ready for it. -/
def inlinePairs (value : Reader Form) : (fuel : Nat) → (ready : Bool) → Reader (List (List Piece × Form))
  | 0, _ => do throw (← get).behind
  | fuel + 1, ready => do
    gap
    let token ← peek
    match token.kind with
    | .finish => throw (← get).behind
    | .closeBrace =>
      discard take
      return []
    | .comma =>
      if ready then throw token.start
      else
        discard take
        inlinePairs value fuel true
    | .quoted _ | .word | .dot | .equals =>
      if ready then
        let (parts, _) ← key
        let item ← inlineValue value
        return (parts, item) :: (← inlinePairs value fuel false)
      else throw token.start
    | _ => throw token.start

/-- A value, inside which so many levels may be open. It may be missing before a comma, a comment and the end of a
line. -/
def value : (levels : Nat) → Reader Form
  | 0 => valueWith none
  | levels + 1 => valueWith (some (value levels))
where
  /-- A value, given how to read the values inside it if there may be any. -/
  valueWith (inner : Option (Reader Form)) : Reader Form := do
    let fuel := (← get).ahead.length
    let token ← peek
    match token.kind with
    | .comment | .comma | .lineBreak | .finish => return .scalar (.missing token.start)
    | .quoted _ | .word | .dot => scalar
    | .openBracket =>
      match inner with
      | none => throw token.start
      | some inner =>
        discard take
        return .list token.start (← listItems inner fuel true)
    | .openBrace =>
      match inner with
      | none => throw token.start
      | some inner =>
        discard take
        return .inlined token.start (← inlinePairs inner fuel true)
    | _ => throw token.start

/-! ## Lines -/

/-- A header. If it is not closed, it fails behind its key, unless the key is wrong already. -/
def header : Reader Line := do
  let start ← here
  discard take
  let element ← takeIf .openBracket
  blank
  let (parts, whole) ← key
  let stop := (parts.getLastD default).stop
  blank
  let closing ← peek
  if ← takeIf .closeBracket then
    if element then
      if ← takeIf .closeBracket then lineEnd else throw closing.stop
    else lineEnd
  else if whole then throw stop
  else restOfLine (← get).ahead.length
  return .header element start parts

/-- A pair of a key and a value. -/
def pair : Reader Line := do
  let (parts, _) ← key
  blank
  let token ← peek
  if ← takeIf .equals then
    blank
    let item ← value depthLimit
    lineEnd
    return .pair parts item
  else throw token.start

/-- The lines of a document. -/
def lines : (fuel : Nat) → Reader (List Line)
  | 0 => return []
  | fuel + 1 => do
    gap
    let token ← peek
    match token.kind with
    | .finish => return []
    | .openBracket =>
      let line ← header
      return line :: (← lines fuel)
    | .quoted _ | .word | .dot | .equals =>
      let line ← pair
      return line :: (← lines fuel)
    | _ => throw token.start

end Reader

/-! ## Texts -/

/-- The mark that may stand before a document. -/
def byteOrderMark : Char := '\ufeff'

/-- The lines of a text, or the offset at which it stops having the form of a document. -/
def Line.ofText (text : String) : Except Nat (List Line) := do
  let cs := text.toList
  let tokens :=
    if cs.head? == some byteOrderMark then Token.scan byteOrderMark.utf8Size (cs.drop 1) else Token.scan 0 cs
  let (lines, _) ← (Reader.lines tokens.length).run ⟨tokens, 0⟩
  return lines

end ModelStore.Toml
