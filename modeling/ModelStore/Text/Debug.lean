import ModelStore.Text.Seen

/-!
# Texts in messages

A message that cites a text puts it between quotes. Quotes and backslashes in it follow a backslash, and unseen
characters are written by their number, apart from a few that have a letter.

## Main definitions

* `Text.debugQuote`: the cited form.
-/

namespace ModelStore.Text

/-- A natural number in lower-case hexadecimal. -/
def hex (n : Nat) : String := String.ofList (Nat.toDigits 16 n)

/-- How a character stands in a cited text. -/
def debugChar (c : Char) : String :=
  if c = '"' then "\\\""
  else if c = '\\' then "\\\\"
  else if c = '\n' then "\\n"
  else if c = '\r' then "\\r"
  else if c = '\t' then "\\t"
  else if c = '\x00' then "\\0"
  else if isSeen c then String.singleton c
  else "\\u\x7b" ++ hex c.toNat ++ "\x7d"

/-- A text between quotes, as messages cite it. -/
def debugQuote (s : String) : String :=
  "\"" ++ String.join (s.toList.map debugChar) ++ "\""

end ModelStore.Text
