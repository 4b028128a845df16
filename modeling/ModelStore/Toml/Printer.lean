/-!
# Writing TOML

A text is written in the first of four styles that takes it as it is: between quotes on one line, between
apostrophes on one line, and the same on several lines. If none does, quotes are used with escapes.

## Main definitions

* `Toml.quote`: a text as a value.
* `Toml.pair`: a line of a document.
-/

namespace ModelStore.Toml

/-! ## What stands in a text -/

/-- The length of the longest run of a character. -/
def longestRun (c : Char) (cs : List Char) : Nat :=
  (cs.foldl (fun (best, run) d => if d = c then (max best (run + 1), run + 1) else (best, 0)) (0, 0)).1

/-- Whether a character can only be written by an escape. -/
def needsEscape (c : Char) : Bool :=
  (decide (c.toNat < 0x20) && c != '\t' && c != '\n') || c.toNat == 0x7f

/-! ## Escapes -/

/-- Upper-case hexadecimal digits, four of them. -/
def fourDigits (n : Nat) : List Char :=
  let digit (k : Nat) : Char := (Nat.digitChar (n / Nat.pow 16 k % 16)).toUpper
  [digit 3, digit 2, digit 1, digit 0]

/-- A character between quotes, given how many quotes may follow one another and how many stand before it. -/
def escapeChar (multiline : Bool) (c : Char) : List Char :=
  if c = '\\' then ['\\', '\\']
  else if c = '\x08' then ['\\', 'b']
  else if c = '\t' then ['\\', 't']
  else if c = '\n' then (if multiline then ['\n'] else ['\\', 'n'])
  else if c = '\x0c' then ['\\', 'f']
  else if c = '\r' then ['\\', 'r']
  else if decide (c.toNat < 0x20) || c.toNat == 0x7f then '\\' :: 'u' :: fourDigits c.toNat
  else [c]

/-- A text between quotes. As many quotes as allowed follow one another bare, and the next one is escaped. -/
def escapeText (multiline : Bool) : (run : Nat) → List Char → List Char
  | _, [] => []
  | run, c :: rest =>
    if c = '"' then
      if run < (if multiline then 2 else 0) then c :: escapeText multiline (run + 1) rest
      else '\\' :: c :: escapeText multiline 0 rest
    else escapeChar multiline c ++ escapeText multiline 0 rest

/-! ## Styles -/

/-- A text on one line between quotes. -/
def basic (cs : List Char) : List Char := '"' :: escapeText false 0 cs ++ ['"']

/-- A text on several lines between quotes, the first of which begins below them. -/
def basicBlock (cs : List Char) : List Char :=
  let marks := ['"', '"', '"']
  marks ++ (if cs.contains '\n' then ['\n'] else []) ++ escapeText true 0 cs ++ marks

/-- A text as it is, on one line between apostrophes. -/
def bareLine (cs : List Char) : List Char := '\'' :: cs ++ ['\'']

/-- A text as it is, on several lines between apostrophes. -/
def bareBlock (cs : List Char) : List Char :=
  let marks := ['\'', '\'', '\'']
  marks ++ (if cs.contains '\n' then ['\n'] else []) ++ cs ++ marks

/-- A text as a value. -/
def quote (s : String) : String :=
  let cs := s.toList
  let escapes := cs.any needsEscape
  let backslash := cs.contains '\\'
  let newline := cs.contains '\n'
  let quotes := longestRun '"' cs
  let apostrophes := longestRun '\'' cs
  String.ofList <|
    if !escapes && !backslash && quotes = 0 && !newline then basic cs
    else if !escapes && apostrophes = 0 && !newline then bareLine cs
    else if !escapes && !backslash && quotes ≤ 2 then basicBlock cs
    else if !escapes && apostrophes ≤ 2 then bareBlock cs
    else if newline then basicBlock cs
    else basic cs

/-- A line of a document: a key that needs no quotes, and a text. -/
def pair (key value : String) : String := key ++ " = " ++ quote value ++ "\n"

end ModelStore.Toml
