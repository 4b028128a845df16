import ModelStore.Binary64.Basic

/-!
# Decimal digits of binary64 numbers

A positive magnitude is written in decimal as a string of digits and the place of its point: the digits
`d₁ d₂ … dₙ` with point place `k` denote `0.d₁d₂…dₙ * 10 ^ k`.

## Main definitions

* `Binary64.shortest`: the fewest digits that read back as the number, the nearest such, a tie to the even one.
* `Binary64.toPlaces`: a fixed number of significant digits, a half going up.
* `Binary64.ofDecimal`: the number nearest to a decimal.
-/

namespace ModelStore

/-- Digits `d₁ … dₙ`, the first not zero, with their point: `0.d₁…dₙ * 10 ^ point`. -/
structure Decimal where
  digits : List Char
  point : Int
  deriving DecidableEq, Repr, Inhabited

namespace Decimal

/-- The digits of a natural number. -/
def digitsOf (n : Nat) : List Char := Nat.toDigits 10 n

/-- The decimal `n * 10 ^ p` without its trailing zeros. -/
def ofScaled (n : Nat) (p : Int) : Decimal :=
  let ds := digitsOf n
  let kept := (ds.reverse.dropWhile (· == '0')).reverse
  ⟨kept, p + ds.length⟩

end Decimal

namespace Binary64

/-! ## Decimal scale -/

/-- Whether `10 ^ k ≤ num / den`. -/
def reachesTen (num den : Nat) (k : Int) : Bool :=
  if k < 0 then decide (den ≤ num * Nat.pow 10 k.natAbs) else decide (den * Nat.pow 10 k.natAbs ≤ num)

/-- The greatest `k` with `10 ^ k ≤ num / den`. -/
def decimalExponent (num den : Nat) : Int :=
  let bits : Int := (Nat.log2 num : Int) - (Nat.log2 den : Int)
  let guess := Int.fdiv (bits * 1233) 4096
  if reachesTen num den (guess + 1) then guess + 1
  else if reachesTen num den guess then guess
  else if reachesTen num den (guess - 1) then guess - 1
  else guess - 2

/-- The fraction `num / den / 10 ^ p` as a numerator and a denominator. -/
def scaleTen (num den : Nat) (p : Int) : Nat × Nat :=
  if p < 0 then (num * Nat.pow 10 p.natAbs, den) else (num, den * Nat.pow 10 p.natAbs)

/-! ## Shortest digits -/

/--
The decimals that read back as `m * 2 ^ e` fill an interval around it. In units of `2 ^ (e - 2)` it reaches
from `4 * m` half a gap down and half a gap up; below a power of two the gap is half as wide. The ends
belong to it if and only if the mantissa is even.
-/
structure Neighbourhood where
  low : Nat
  mid : Nat
  high : Nat
  closed : Bool

/-- The interval of `m * 2 ^ e`. -/
def neighbourhood (m : Nat) (e : Int) : Neighbourhood :=
  let down := if m = Nat.pow 2 52 ∧ leastExponent < e then 1 else 2
  ⟨4 * m - down, 4 * m, 4 * m + 2, m % 2 == 0⟩

/-- Whether `c * 10 ^ p` lies in the interval, in the unit `num / den`. -/
def Neighbourhood.holds (h : Neighbourhood) (unit : Nat × Nat) (p : Int) (c : Nat) : Bool :=
  let (un, ud) := unit
  let (cn, cd) := if p < 0 then (c, Nat.pow 10 p.natAbs) else (c * Nat.pow 10 p.natAbs, 1)
  let x := cn * ud
  let y := cd * un
  if h.closed then decide (h.low * y ≤ x ∧ x ≤ h.high * y) else decide (h.low * y < x ∧ x < h.high * y)

/-- The best decimal on the grid of `10 ^ p`, if one of the two neighbours of the value reads back. -/
def onGrid (h : Neighbourhood) (unit : Nat × Nat) (p : Int) : Option Nat :=
  let (n, d) := scaleTen (h.mid * unit.1) unit.2 p
  let c := n / d
  let r := n % d
  let below := h.holds unit p c && c != 0
  let above := h.holds unit p (c + 1)
  if below && above then
    some (if 2 * r < d ∨ (2 * r = d ∧ c % 2 = 0) then c else c + 1)
  else if below then some c
  else if above then some (c + 1)
  else none

/-- The first grid, from one digit to seventeen, that holds a decimal of the interval. -/
def searchGrids (h : Neighbourhood) (unit : Nat × Nat) (top : Int) : (left : Nat) → Decimal
  | 0 => Decimal.ofScaled (h.mid * unit.1 / unit.2) 0
  | left + 1 =>
    let p := top + 1 - (17 - left : Int)
    match onGrid h unit p with
    | some c => Decimal.ofScaled c p
    | none => searchGrids h unit top left

/-- The fewest digits that read back as the finite magnitude `m * 2 ^ e`, which is not zero. -/
def shortest (m : Nat) (e : Int) : Decimal :=
  let (n, d) := ratio m e
  searchGrids (neighbourhood m e) (ratio 1 (e - 2)) (decimalExponent n d) 17

/-! ## A fixed number of digits -/

/-- The first `places` significant digits of the magnitude `m * 2 ^ e`, which is not zero; the last is rounded, a half
up. -/
def toPlaces (places : Nat) (m : Nat) (e : Int) : Decimal :=
  let (n, d) := ratio m e
  let p := decimalExponent n d + 1 - places
  let (sn, sd) := scaleTen n d p
  Decimal.ofScaled ((2 * sn + sd) / (2 * sd)) p

/-! ## Reading -/

/-- The number nearest to `± significand * 10 ^ exponent`. -/
def ofDecimal (negative : Bool) (significand : Nat) (exponent : Int) : Binary64 :=
  if exponent < 0 then ofRatio negative significand (Nat.pow 10 exponent.natAbs)
  else ofRatio negative (significand * Nat.pow 10 exponent.natAbs) 1

end Binary64

end ModelStore
