/-!
# Binary64 numbers

The real numbers that a JSON document or a stored cell can hold: binary64 magnitudes with a sign, and the
two infinities. There is no NaN; where one could arise the caller says what stands in its place.

A finite number is `± mantissa * 2 ^ exponent`, held in the one form that `ofRatio` produces: the mantissa
has 53 bits, or the exponent is the least one, `-1074`. All arithmetic is exact on natural numbers and
rounds once, to the nearest number and to the even mantissa on a tie.

## Main definitions

* `Binary64.ofRatio`: the number nearest to a quotient of natural numbers.
* `Binary64.compare`: the numerical order, exact also against an integer (`compareInt`).
* `Binary64.toInt?`: the integer that a number equals.
-/

namespace ModelStore

/-- A binary64 number other than a NaN. -/
inductive Binary64 where
  | finite (negative : Bool) (mantissa : Nat) (exponent : Int)
  | infinite (negative : Bool)
  deriving DecidableEq, Repr, Inhabited

namespace Binary64

/-- The exponent of the subnormal numbers, the least there is. -/
def leastExponent : Int := -1074

/-- The greatest exponent of a finite number with a 53-bit mantissa. -/
def greatestExponent : Int := 971

/-- Zero with a sign. -/
def zero (negative : Bool) : Binary64 := .finite negative 0 leastExponent

/-! ## Rounding -/

/-- The quotient of two natural numbers rounded to the nearest one, a tie to the even one. -/
def roundDiv (num den : Nat) : Nat :=
  let q := num / den
  let r := num % den
  if den < 2 * r ∨ (2 * r = den ∧ q % 2 = 1) then q + 1 else q

/-- The fraction `num / den * 2 ^ (- e)`, as a numerator and a denominator. -/
def descale (num den : Nat) (e : Int) : Nat × Nat :=
  if e < 0 then (num * Nat.pow 2 e.natAbs, den) else (num, den * Nat.pow 2 e.natAbs)

/-- The exponent at which the quotient of `num` and `den` has a 53-bit integral part, or the least one. -/
def exponentOf (num den : Nat) : Int :=
  let guess := max ((Nat.log2 num : Int) - (Nat.log2 den : Int) - 53) leastExponent
  let (n, d) := descale num den guess
  if Nat.pow 2 53 ≤ n / d then guess + 1 else guess

/-- The number nearest to `± num / den`; beyond the greatest one it is infinite. -/
def ofRatio (negative : Bool) (num den : Nat) : Binary64 :=
  if num = 0 then zero negative
  else
    let e := exponentOf num den
    let (n, d) := descale num den e
    let m := roundDiv n d
    let (m, e) := if m = Nat.pow 2 53 then (Nat.pow 2 52, e + 1) else (m, e)
    if greatestExponent < e then .infinite negative else .finite negative m e

/-- The number nearest to a natural number. -/
def ofNat (n : Nat) : Binary64 := ofRatio false n 1

/-- The number nearest to an integer. -/
def ofInt (i : Int) : Binary64 := ofRatio (decide (i < 0)) i.natAbs 1

/-! ## Sign and magnitude -/

/-- The sign bit. -/
def isNegative : Binary64 → Bool
  | .finite s _ _ => s
  | .infinite s => s

/-- The same magnitude with the given sign. -/
def withSign (negative : Bool) : Binary64 → Binary64
  | .finite _ m e => .finite negative m e
  | .infinite _ => .infinite negative

/-- Whether the number is one of the two zeros. -/
def isZero : Binary64 → Bool
  | .finite _ m _ => m == 0
  | .infinite _ => false

/-- Whether the number is not an infinity. -/
def isFinite : Binary64 → Bool
  | .finite .. => true
  | .infinite _ => false

/-- The magnitude `mantissa * 2 ^ exponent` as a numerator and a denominator. -/
def ratio (mantissa : Nat) (exponent : Int) : Nat × Nat :=
  if exponent < 0 then (mantissa, Nat.pow 2 exponent.natAbs) else (mantissa * Nat.pow 2 exponent.natAbs, 1)

/-! ## Product and quotient -/

/-- The rounded product of two magnitudes; an infinite factor gives an infinity. -/
def mul : Binary64 → Binary64 → Binary64
  | .finite s m e, .finite t k f =>
    let (n, d) := ratio (m * k) (e + f)
    ofRatio (s != t) n d
  | x, y => .infinite (x.isNegative != y.isNegative)

/-- The rounded quotient by a finite number that is not zero. -/
def div : Binary64 → Binary64 → Binary64
  | .finite s m e, .finite t k f =>
    let (n, d) := ratio m (e - f)
    ofRatio (s != t) n (d * k)
  | .finite s _ _, .infinite t => zero (s != t)
  | x, y => .infinite (x.isNegative != y.isNegative)

/-! ## Order -/

/-- An integer with the sign and the magnitude given. -/
def signed (negative : Bool) (n : Nat) : Int := if negative then -(n : Int) else n

/-- The order of `± m * 2 ^ e` and `± k * 2 ^ f`. -/
def compareScaled (s : Bool) (m : Nat) (e : Int) (t : Bool) (k : Nat) (f : Int) : Ordering :=
  let low := min e f
  Ord.compare (signed s (m * Nat.pow 2 (e - low).toNat)) (signed t (k * Nat.pow 2 (f - low).toNat))

/-- The numerical order; the two zeros are equal. -/
def compare : Binary64 → Binary64 → Ordering
  | .finite s m e, .finite t k f => compareScaled s m e t k f
  | .infinite s, .infinite t => Ord.compare t.toNat s.toNat
  | .infinite s, .finite .. => if s then .lt else .gt
  | .finite .., .infinite t => if t then .gt else .lt

/-- The order of a number and an integer, without rounding either. -/
def compareInt : Binary64 → Int → Ordering
  | .finite s m e, i => compareScaled s m e (decide (i < 0)) i.natAbs 0
  | .infinite s, _ => if s then .lt else .gt

/-! ## Integers -/

/-- The integer that the number equals, if there is one. -/
def toInt? : Binary64 → Option Int
  | .finite s m e =>
    let (n, d) := ratio m e
    if n % d = 0 then some (signed s (n / d)) else none
  | .infinite _ => none

end Binary64

end ModelStore
