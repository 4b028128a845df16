/-!
# Blanks around a text

The blanks are the white space of Unicode.

## Main definitions

* `Text.isBlank`: the blanks.
* `Text.trim`: a text without the blanks around it.
-/

namespace ModelStore.Text

/-- The code points of the blanks outside the range of ASCII, apart from those of fixed width. -/
def wideBlanks : List Nat := [0x85, 0xA0, 0x1680, 0x2028, 0x2029, 0x202F, 0x205F, 0x3000]

/-- Whether a character is a blank. -/
def isBlank (c : Char) : Bool :=
  c == ' ' || (decide (9 ≤ c.toNat) && decide (c.toNat ≤ 13))
    || (decide (0x2000 ≤ c.toNat) && decide (c.toNat ≤ 0x200A)) || wideBlanks.contains c.toNat

/-- A text without the blanks around it. -/
def trim (s : String) : String :=
  let front := s.toList.dropWhile isBlank
  String.ofList (front.reverse.dropWhile isBlank).reverse

end ModelStore.Text
