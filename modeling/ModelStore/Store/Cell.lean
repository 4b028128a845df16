import ModelStore.Binary64.Decimal

/-!
# Stored values

A cell holds a null, an integer, a real number, a text or a blob. Cells of different classes are ordered by class:
null, numbers, text, blob. Numbers are ordered by value, text and blobs by their bytes.

The declared type of a column gives it an affinity, by which values are converted when they are stored and when
they are compared with the column: text that is written as a number becomes one for a numeric column, and a
number becomes text for a text column.

## Main definitions

* `Cell`, `Cell.order`: values and their order.
* `Affinity.store`: the value that a column keeps.
* `Affinity.align`: the two sides of a comparison.
-/

namespace ModelStore

/-- A stored value. Text whose bytes are no Unicode text is kept as its bytes. -/
inductive Cell where
  | null
  | int (value : Int)
  | real (value : Binary64)
  | text (value : String)
  | rawText (bytes : List UInt8)
  | blob (bytes : List UInt8)
  deriving DecidableEq, Repr, Inhabited

namespace Cell

/-! ## Order -/

/-- Whether the cell is null. -/
def isNull : Cell → Bool
  | null => true
  | _ => false

/-- The classes, in their order. -/
def rank : Cell → Nat
  | null => 0
  | int _ | real _ => 1
  | text _ | rawText _ => 2
  | blob _ => 3

/-- The bytes of a text. -/
def bytesOf (s : String) : List UInt8 := s.toUTF8.toList

/-- The order of two byte strings. -/
def orderBytes : List UInt8 → List UInt8 → Ordering
  | [], [] => .eq
  | [], _ :: _ => .lt
  | _ :: _, [] => .gt
  | a :: as, b :: bs =>
    match compare a b with
    | .eq => orderBytes as bs
    | decided => decided

/-- The order of two cells. -/
def order : Cell → Cell → Ordering
  | int i, int j => compare i j
  | int i, real x => (x.compareInt i).swap
  | real x, int i => x.compareInt i
  | real x, real y => x.compare y
  | text s, text t => compare s t
  | text s, rawText t => orderBytes (bytesOf s) t
  | rawText s, text t => orderBytes s (bytesOf t)
  | rawText s, rawText t => orderBytes s t
  | blob s, blob t => orderBytes s t
  | c, d => compare c.rank d.rank

/-- Whether two cells are equal in their order; a null is then equal to a null. -/
def same (c d : Cell) : Bool := order c d == .eq

end Cell

/-! ## Numbers in text -/

namespace Numeral

/-- The blanks that may surround a number. -/
def isBlank (c : Char) : Bool := c == ' ' || (decide (9 ≤ c.toNat) && decide (c.toNat ≤ 13))

/-- The significand beyond which no further digit counts. -/
def significandLimit : Nat := (Nat.pow 2 64 - 10) / 10

/-- The greatest exponent that is told from greater ones. -/
def exponentLimit : Nat := 10000

/-- The parts of a number written in decimal. -/
structure Parts where
  negative : Bool
  whole : List Nat
  fraction : Option (List Nat)
  exponent : Option (Bool × List Nat)
  deriving Repr

/-- The value of a digit. -/
def digit (c : Char) : Nat := c.toNat - '0'.toNat

/-- The digits at the start of a text, and the rest. -/
def spanDigits (cs : List Char) : List Nat × List Char :=
  ((cs.takeWhile Char.isDigit).map digit, cs.dropWhile Char.isDigit)

/-- The sign at the start of a text, and the rest. -/
def spanSign : List Char → Bool × List Char
  | '-' :: rest => (true, rest)
  | '+' :: rest => (false, rest)
  | rest => (false, rest)

/-- The parts of a text that is a number between blanks: digits, with a point among them or at either end, and
perhaps an exponent. -/
def parse (s : String) : Option Parts :=
  let (negative, rest) := spanSign (s.toList.dropWhile isBlank)
  let (whole, rest) := spanDigits rest
  let (fraction, rest) :=
    match rest with
    | '.' :: rest => let (ds, rest) := spanDigits rest; (some ds, rest)
    | _ => (none, rest)
  if whole.isEmpty && (fraction.getD []).isEmpty then none
  else
    let mark := match rest with
      | c :: rest => if c == 'e' || c == 'E' then some rest else none
      | [] => none
    match mark with
    | none => if rest.all isBlank then some ⟨negative, whole, fraction, none⟩ else none
    | some rest =>
      let (below, rest) := spanSign rest
      let (ds, rest) := spanDigits rest
      if ds.isEmpty || !rest.all isBlank then none
      else some ⟨negative, whole, fraction, some (below, ds)⟩

/-- Whether a number is written without point and exponent. -/
def Parts.isWhole (parts : Parts) : Bool := parts.fraction.isNone && parts.exponent.isNone

/-- The integer that digits denote. -/
def ofDigits (ds : List Nat) : Nat := ds.foldl (fun acc d => acc * 10 + d) 0

/-- The significand that integral digits give, with the number of digits that no longer count. -/
def significand (start : Nat) : List Nat → Nat × Nat
  | [] => (start, 0)
  | d :: ds => if start < significandLimit then significand (start * 10 + d) ds else (start, ds.length + 1)

/-- The real number that the parts denote. -/
def Parts.toReal (parts : Parts) : Binary64 :=
  let (s, dropped) := significand 0 parts.whole
  let ds := parts.fraction.getD []
  let (s, unused) := significand s ds
  let shift : Int := (dropped : Int) - ((ds.length - unused : Nat) : Int)
  let power : Int :=
    match parts.exponent with
    | none => 0
    | some (below, ds) =>
      let e := ds.foldl (fun acc d => if acc < exponentLimit then acc * 10 + d else exponentLimit) 0
      if below then -(e : Int) else e
  Binary64.ofDecimal parts.negative s (shift + power)

end Numeral

/-! ## Affinity -/

/-- How a column, or another operand, converts values. -/
inductive Affinity where
  | none
  | text
  | integer
  | real
  deriving DecidableEq, Repr, Inhabited

namespace Affinity

/-- Whether the affinity makes numbers of text. -/
def isNumeric : Affinity → Bool
  | integer | real => true
  | none | text => false

/-- The least number above the integers that a cell can hold: two to the power of 63. -/
def cellBound : Int := 9223372036854775808

/-- The integers that a cell can hold. -/
def fitsCell (i : Int) : Bool := decide (-cellBound ≤ i ∧ i < cellBound)

/-- The number that a text denotes: an integer where it is written as one and fits, a real number otherwise. -/
def numberOf (s : String) : Option Cell :=
  (Numeral.parse s).map fun parts =>
    let i := Binary64.signed parts.negative (Numeral.ofDigits parts.whole)
    if parts.isWhole && fitsCell i then .int i else .real parts.toReal

/-- A real number as an integer, if it is one and neither the least nor the greatest. -/
def integral (x : Binary64) : Cell :=
  match x.toInt? with
  | some i => if decide (-cellBound < i ∧ i < cellBound - 1) then .int i else .real x
  | Option.none => .real x

/-- A real number without a negative zero. -/
def unsigned (x : Binary64) : Binary64 := if x.isZero then Binary64.zero false else x

/-- A real number in text: fifteen digits, with at least one behind the point. -/
def realText : Binary64 → String
  | .infinite negative => if negative then "-Inf" else "Inf"
  | .finite negative m e =>
    if m = 0 then "0.0"
    else
      let d := Binary64.toPlaces 15 m e
      let sign := if negative then "-" else ""
      let zeros (k : Int) : List Char := List.replicate k.toNat '0'
      let orZero (ds : List Char) : List Char := if ds.isEmpty then ['0'] else ds
      let exponent := d.point - 1
      let body : List Char :=
        if exponent < -4 ∨ 14 < exponent then
          let digits := Nat.toDigits 10 exponent.natAbs
          let padded := if digits.length < 2 then '0' :: digits else digits
          d.digits.take 1 ++ ['.'] ++ orZero (d.digits.drop 1) ++
            ['e', if exponent < 0 then '-' else '+'] ++ padded
        else if d.point ≤ 0 then ['0', '.'] ++ zeros (-d.point) ++ d.digits
        else
          let whole := d.digits.take d.point.toNat
          whole ++ zeros (d.point - whole.length) ++ ['.'] ++ orZero (d.digits.drop d.point.toNat)
      sign ++ String.ofList body

/-- The text of a number; other cells stay. -/
def toText : Cell → Cell
  | .int i => .text (toString i)
  | .real x => .text (realText x)
  | c => c

/-- The number that a text denotes, if it denotes one; other cells stay. -/
def toNumber : Cell → Cell
  | .text s => (numberOf s).getD (.text s)
  | c => c

/-- The value that a column keeps. -/
def store : Affinity → Cell → Cell
  | none, .real x => .real (unsigned x)
  | none, c => c
  | text, c => toText c
  | integer, c =>
    match toNumber c with
    | .real x => integral x
    | d => d
  | real, c =>
    match toNumber c with
    | .int i => .real (Binary64.ofInt i)
    | .real x => .real (unsigned x)
    | d => d

/-- The affinity by which two operands are compared: two columns are compared as numbers if either is numeric, and
a column lends its affinity to an operand that has none. -/
def common : Affinity → Affinity → Affinity
  | none, b => b
  | a, none => a
  | a, b => if a.isNumeric || b.isNumeric then integer else none

/-- The two sides of a comparison after conversion. -/
def align (a b : Affinity) (c d : Cell) : Cell × Cell :=
  match common a b with
  | none => (c, d)
  | text => (toText c, toText d)
  | integer | real => (toNumber c, toNumber d)

end Affinity

end ModelStore
