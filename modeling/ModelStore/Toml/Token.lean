/-!
# Tokens

A text is cut into tokens from left to right; every text can be cut. A token remembers the number of bytes before it.
A quoted text that is never closed ends with its line, and one on several lines with the text.

## Main definitions

* `Token`: a kind, a place, and the characters.
* `Token.scan`: the tokens of a text, of which the last one is the end.
-/

namespace ModelStore.Toml

/-- How a text is quoted: with escapes or as it is, on one line or on several. -/
inductive Quotes where
  | basic
  | bare
  | basicBlock
  | bareBlock
  deriving DecidableEq, Repr, Inhabited

/-- What a token is. -/
inductive TokenKind where
  | dot
  | equals
  | comma
  | openBracket
  | closeBracket
  | openBrace
  | closeBrace
  | blank
  | comment
  | lineBreak
  | quoted (quotes : Quotes)
  | word
  | finish
  deriving DecidableEq, Repr, Inhabited

/-- The number of bytes of some characters. -/
def sizeOf (cs : List Char) : Nat := cs.foldl (fun size c => size + c.utf8Size) 0

/-- A piece of a text that belongs together. -/
structure Token where
  kind : TokenKind
  start : Nat
  chars : List Char
  deriving Repr, Inhabited

namespace Token

/-- The place behind a token. -/
def stop (token : Token) : Nat := token.start + sizeOf token.chars

/-! ## Lengths -/

/-- Whether a character is a blank inside a line. -/
def isBlank (c : Char) : Bool := c == ' ' || c == '\t'

/-- Whether a character ends a word. -/
def endsWord (c : Char) : Bool := ".=,[]\x7b\x7d \t#\r\n".toList.contains c

/-- The number of characters ahead that satisfy a condition. -/
def countWhile (p : Char → Bool) (cs : List Char) : Nat := (cs.takeWhile p).length

/-- The number of characters up to the closing quote of a text with escapes, or up to the end of the line. -/
def basicLength : List Char → Nat
  | [] => 0
  | '"' :: _ => 1
  | '\n' :: _ => 0
  | '\\' :: '\\' :: rest => 2 + basicLength rest
  | '\\' :: '"' :: rest => 2 + basicLength rest
  | _ :: rest => 1 + basicLength rest

/-- The number of characters up to the closing quote of a text as it is, or up to the end of the line. -/
def bareLength : List Char → Nat
  | [] => 0
  | '\'' :: _ => 1
  | '\n' :: _ => 0
  | _ :: rest => 1 + bareLength rest

/-- Up to two more quotes belong to the closing ones. -/
def moreQuotes (quote : Char) (cs : List Char) : Nat := min 2 (countWhile (· == quote) cs)

/-- The number of characters up to the closing quotes of a text with escapes on several lines. -/
def basicBlockLength : List Char → Nat
  | [] => 0
  | '"' :: '"' :: '"' :: rest => 3 + moreQuotes '"' rest
  | '\\' :: '\\' :: rest => 2 + basicBlockLength rest
  | '\\' :: '"' :: rest => 2 + basicBlockLength rest
  | _ :: rest => 1 + basicBlockLength rest

/-- The number of characters up to the closing quotes of a text as it is on several lines. -/
def bareBlockLength : List Char → Nat
  | [] => 0
  | '\'' :: '\'' :: '\'' :: rest => 3 + moreQuotes '\'' rest
  | _ :: rest => 1 + bareBlockLength rest

/-! ## Cutting -/

/-- The kind of the token that begins with a character, and how many of the characters behind it belong to it. -/
def shape (c : Char) (rest : List Char) : TokenKind × Nat :=
  match c with
  | '.' => (.dot, 0)
  | '=' => (.equals, 0)
  | ',' => (.comma, 0)
  | '[' => (.openBracket, 0)
  | ']' => (.closeBracket, 0)
  | '\x7b' => (.openBrace, 0)
  | '\x7d' => (.closeBrace, 0)
  | '#' => (.comment, countWhile (fun d => d != '\r' && d != '\n') rest)
  | '\n' => (.lineBreak, 0)
  | '\r' => (.lineBreak, if rest.head? == some '\n' then 1 else 0)
  | '"' =>
    match rest with
    | '"' :: '"' :: rest => (.quoted .basicBlock, 2 + basicBlockLength rest)
    | rest => (.quoted .basic, basicLength rest)
  | '\'' =>
    match rest with
    | '\'' :: '\'' :: rest => (.quoted .bareBlock, 2 + bareBlockLength rest)
    | rest => (.quoted .bare, bareLength rest)
  | c =>
    if isBlank c then (.blank, countWhile isBlank rest)
    else (.word, countWhile (fun d => !endsWord d) rest)

/-- The tokens of a text that stands behind so many bytes. -/
def scan (start : Nat) : List Char → List Token
  | [] => [⟨.finish, start, []⟩]
  | c :: rest =>
    let (kind, count) := shape c rest
    let chars := c :: rest.take count
    ⟨kind, start, chars⟩ :: scan (start + sizeOf chars) (rest.drop count)
termination_by cs => cs.length
decreasing_by simp only [List.length_drop, List.length_cons]; omega

end Token

end ModelStore.Toml
