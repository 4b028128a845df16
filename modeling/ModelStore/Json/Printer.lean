import ModelStore.Json.Basic
import ModelStore.Binary64.Decimal

/-!
# Writing JSON

Two layouts of one value: compact, on one line without blanks, and indented by two blanks a level. In a text
only the quote, the backslash and the control characters are escaped. An infinity has no JSON number and is
written as null.

## Main definitions

* `Json.realText`: the number format.
* `Json.compact`, `Json.pretty`: the two layouts.
-/

namespace ModelStore.Json

/-! ## Numbers -/

/-- The decimal notation of a magnitude: positional while its point stands no more than four places before
the first digit and sixteen behind it, with an exponent otherwise. -/
def decimalText (d : Decimal) : String :=
  let n : Int := d.digits.length
  let digits := String.ofList d.digits
  let zeros (k : Int) : String := String.ofList (List.replicate k.toNat '0')
  if n ≤ d.point ∧ d.point ≤ 16 then digits ++ zeros (d.point - n) ++ ".0"
  else if 0 < d.point ∧ d.point ≤ 16 then
    String.ofList (d.digits.take d.point.toNat) ++ "." ++ String.ofList (d.digits.drop d.point.toNat)
  else if -5 < d.point ∧ d.point ≤ 0 then "0." ++ zeros (-d.point) ++ digits
  else
    let exponent := d.point - 1
    let sign := if exponent < 0 then "-" else "+"
    let fraction := if n = 1 then "" else "." ++ String.ofList (d.digits.drop 1)
    String.ofList (d.digits.take 1) ++ fraction ++ "e" ++ sign ++ toString exponent.natAbs

/-- A real number, always with a fraction or an exponent. -/
def realText : Binary64 → String
  | .infinite _ => "null"
  | .finite negative m e =>
    let magnitude := if m = 0 then "0.0" else decimalText (Binary64.shortest m e)
    if negative then "-" ++ magnitude else magnitude

/-! ## Texts -/

/-- The lower-case hexadecimal digit of a number below sixteen. -/
def hexDigit (n : Nat) : Char := Nat.digitChar n

/-- How a character stands inside quotes. -/
def escapeChar (c : Char) : String :=
  if c = '"' then "\\\""
  else if c = '\\' then "\\\\"
  else if c = '\n' then "\\n"
  else if c = '\r' then "\\r"
  else if c = '\t' then "\\t"
  else if c = '\x08' then "\\b"
  else if c = '\x0c' then "\\f"
  else if c.toNat < 0x20 then
    "\\u00" ++ String.ofList [hexDigit (c.toNat / 16), hexDigit (c.toNat % 16)]
  else String.singleton c

/-- A text between quotes. -/
def quote (s : String) : String :=
  "\"" ++ String.join (s.toList.map escapeChar) ++ "\""

/-! ## Layouts -/

mutual

/-- A value on one line. -/
def compact : Json → String
  | .null => "null"
  | .bool b => if b then "true" else "false"
  | .int i => toString i
  | .real x => realText x
  | .text s => quote s
  | .list items => "[" ++ String.intercalate "," (compactItems items) ++ "]"
  | .object fields => "\x7b" ++ String.intercalate "," (compactFields fields) ++ "\x7d"

/-- The items of a list, each on its own. -/
def compactItems : List Json → List String
  | [] => []
  | x :: xs => compact x :: compactItems xs

/-- The fields of an object, each with its name. -/
def compactFields : List (String × Json) → List String
  | [] => []
  | (name, x) :: rest => (quote name ++ ":" ++ compact x) :: compactFields rest

end

/-- A line break and the indentation of a level. -/
def lineBreak (level : Nat) : String := "\n" ++ String.ofList (List.replicate (2 * level) ' ')

mutual

/-- A value whose first line continues the current one and whose other lines stand at the level given. -/
def prettyAt (level : Nat) : Json → String
  | .list (x :: xs) =>
    "[" ++ String.intercalate "," (prettyItems (level + 1) (x :: xs)) ++ lineBreak level ++ "]"
  | .object (f :: fs) =>
    "\x7b" ++ String.intercalate "," (prettyFields (level + 1) (f :: fs)) ++ lineBreak level ++ "\x7d"
  | .list [] => "[]"
  | .object [] => "\x7b\x7d"
  | .null => "null"
  | .bool b => if b then "true" else "false"
  | .int i => toString i
  | .real x => realText x
  | .text s => quote s

/-- The items of a list, each on a line of its own. -/
def prettyItems (level : Nat) : List Json → List String
  | [] => []
  | x :: xs => (lineBreak level ++ prettyAt level x) :: prettyItems level xs

/-- The fields of an object, each on a line of its own. -/
def prettyFields (level : Nat) : List (String × Json) → List String
  | [] => []
  | (name, x) :: rest =>
    (lineBreak level ++ quote name ++ ": " ++ prettyAt level x) :: prettyFields level rest

end

/-- A value on several lines. -/
def pretty (value : Json) : String := prettyAt 0 value

end ModelStore.Json
