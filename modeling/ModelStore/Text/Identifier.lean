/-!
# Identifiers

A fresh identifier has 122 free bits. It is written in 32 hexadecimal digits, in five groups of 8, 4, 4, 4 and 12; the
first digit of the third group is 4, and the first of the fourth is 8, 9, a or b.

## Main definitions

* `Identifier.text`: the identifier of a number.
-/

namespace ModelStore.Identifier

/-- The number of free bits. -/
def bits : Nat := 122

/-- The last hexadecimal digits of a number, so many of them. -/
def digits : (count : Nat) → (n : Nat) → List Char
  | 0, _ => []
  | count + 1, n => digits count (n / 16) ++ [Nat.digitChar (n % 16)]

/-- The identifier of a number, of which the free bits count. -/
def text (n : Nat) : String :=
  let front := digits 15 (n / Nat.pow 2 62)
  let back := digits 15 n
  let variant := Nat.digitChar (8 + n / Nat.pow 2 60 % 4)
  String.intercalate "-" ([front.take 8, (front.drop 8).take 4, '4' :: front.drop 12,
    variant :: back.take 3, back.drop 3].map String.ofList)

/-- The digits are as many as they are asked to be. -/
theorem length_digits (count n : Nat) : (digits count n).length = count := by
  induction count generalizing n with
  | zero => rfl
  | succ count ih => simp [digits, ih]

end ModelStore.Identifier
