import ModelStore.Binary64.Decimal
import ModelStore.Toml.Quoted

/-!
# Scalars

A value without quotes is a truth value, an integer, a real number, or a moment: a date, a time, or both. Digits may
be grouped by single underscores. How a value begins decides what it is taken for, and so where it fails.

## Main definitions

* `Scalar`: single values.
* `Scalar.ofBare`: the value of a run of characters, or the number of bytes behind which it is wrong.
* `Scalar.ofPiece`: the value of a piece.
-/

namespace ModelStore.Toml

/-- A single value. Reals and moments are kept as written. A number out of range is `unfit`. -/
inductive Scalar where
  | text (value : String)
  | integer (value : Int)
  | real (written : String)
  | unfit (written : String)
  | boolean (value : Bool)
  | moment (written : String)
  deriving DecidableEq, Repr, Inhabited

/-! ## Digits -/

open TextReader (isHex digitValue valueOf)

/-- Whether a character is a digit of a base. -/
def isDigitOf (base : Nat) (c : Char) : Bool := isHex c && decide (digitValue c < base)

/-- Fails where digits should stand if there are none, or if there are several and the first is a zero in vain. -/
def checkDigits (zeros : Bool) (place : Nat) (run : List Char) : Except Nat Unit :=
  let count := (run.filter Char.isDigit).length
  if count = 0 then .error place
  else if 1 < count && run.head? == some '0' && !zeros then .error place
  else .ok ()

/-- The digits and underscores at the start, and what follows them. -/
def spanDigits (cs : List Char) : List Char × List Char := cs.span fun c => c.isDigit || c == '_'

/-- Whether a character marks an exponent. -/
def isExponentMark (c : Char) : Bool := c == 'e' || c == 'E'

/-- Whether a character is a sign. -/
def isSign (c : Char) : Bool := c == '+' || c == '-'

/-- Fails where a real number without its sign is wrong. -/
def checkReal (place : Nat) (cs : List Char) : Except Nat Unit := do
  let (whole, rest) := spanDigits cs
  checkDigits false place whole
  let place := place + whole.length
  let (place, rest) ←
    match rest with
    | '.' :: rest =>
      let (fraction, rest) := spanDigits rest
      checkDigits true (place + 1) fraction
      pure (place + 1 + fraction.length, rest)
    | rest => pure (place, rest)
  let (place, rest) ←
    if rest.head?.any isExponentMark then
      let after := rest.drop 1
      let sign := if after.head?.any isSign then 1 else 0
      let (exponent, rest) := spanDigits (after.drop sign)
      checkDigits true (place + 1 + sign) exponent
      pure (place + 1 + sign + exponent.length, rest)
    else pure (place, rest)
  if rest.isEmpty then return () else throw place

/-- The parts between underscores, with their places. -/
def groups (place : Nat) : List Char → List (Nat × List Char)
  | [] => [(place, [])]
  | c :: rest =>
    if c = '_' then (place, []) :: groups (place + 1) rest
    else
      match groups (place + c.utf8Size) rest with
      | (_, group) :: others => (place, c :: group) :: others
      | [] => [(place, [c])]

/-- Fails where a part between underscores neither begins nor ends with a digit, or is empty. The part at the very
start and single characters may end as they like. -/
def checkGroup (isDigit : Char → Bool) (total : Nat) (group : Nat × List Char) : Except Nat Unit :=
  let (start, cs) := group
  let stop := start + sizeOf cs
  if 0 < start && !(cs.head?.all isDigit) then .error (start - 1)
  else if 1 < sizeOf cs && stop < total && !(cs.getLast?.all isDigit) then .error stop
  else if cs.isEmpty && start ≠ 0 && stop ≠ total then .error start
  else .ok ()

/-- Fails where underscores do not group digits. The characters stand at a place of a run of so many bytes. -/
def checkGroups (isDigit : Char → Bool) (total place : Nat) (cs : List Char) : Except Nat Unit := do
  if cs.contains '_' then
    if cs.head? == some '_' then throw 0
    if 1 < cs.length && cs.getLast? == some '_' then throw (place + sizeOf cs - 1)
    (groups place cs).forM (checkGroup isDigit total)

/-- Characters without underscores. -/
def ungrouped (cs : List Char) : List Char := cs.filter (· != '_')

/-- A sign and what follows it. -/
def unsigned : List Char → Bool × List Char
  | '-' :: rest => (true, rest)
  | '+' :: rest => (false, rest)
  | rest => (false, rest)

/-! ## Numbers -/

/-- The integer of some digits with or without a sign. Down to `-2 ^ 127` and below `2 ^ 128` it is in range. -/
def Scalar.ofDigits (base : Nat) (cs : List Char) : Scalar :=
  let (negative, digits) := unsigned (ungrouped cs)
  let n := valueOf base digits
  let limit := if negative then Nat.pow 2 127 + 1 else Nat.pow 2 128
  if digits.isEmpty || !digits.all (isDigitOf base) || decide (limit ≤ n) then .unfit (String.ofList cs)
  else .integer (if negative then -(n : Int) else n)

/-- Whether a real number is within the range of binary64 numbers, given its digits and the power of ten that scales
them. -/
def isWithinRange (digits : List Char) (exponent : Int) : Bool :=
  let digits := digits.dropWhile (· == '0')
  let magnitude : Int := digits.length + exponent
  if digits.isEmpty || decide (magnitude < -400) then true
  else if 400 < magnitude then false
  else (Binary64.ofDecimal false (valueOf 10 digits) exponent).isFinite

/-- The real number of some characters that have the form of one. -/
def Scalar.ofReal (cs : List Char) : Scalar :=
  let (_, body) := unsigned (ungrouped cs)
  let mantissa := body.takeWhile fun c => !isExponentMark c
  let whole := mantissa.takeWhile (· != '.')
  let fraction := (mantissa.dropWhile (· != '.')).drop 1
  let (below, power) := unsigned ((body.dropWhile fun c => !isExponentMark c).drop 1)
  let size : Int := valueOf 10 power
  let exponent := (if below then -size else size) - fraction.length
  if isWithinRange (whole ++ fraction) exponent then .real (String.ofList cs) else .unfit (String.ofList cs)

/-! ## Moments -/

/-- The number of so many digits at the start, and the rest. -/
def takeNumber? (count : Nat) (cs : List Char) : Option (Nat × List Char) :=
  let ds := cs.take count
  if ds.length = count && ds.all Char.isDigit then some (valueOf 10 ds, cs.drop count) else none

/-- What follows one character that satisfies a condition. -/
def takeChar? (p : Char → Bool) : List Char → Option (List Char)
  | c :: rest => if p c then some rest else none
  | [] => none

/-- Whether a year has a leap day. -/
def isLeap (year : Nat) : Bool := year % 4 == 0 && (year % 100 != 0 || year % 400 == 0)

/-- The number of days of a month. -/
def daysIn (year month : Nat) : Nat :=
  if month = 2 then (if isLeap year then 29 else 28)
  else if month = 4 || month = 6 || month = 9 || month = 11 then 30
  else 31

/-- What follows a date. -/
def afterDate? (cs : List Char) : Option (List Char) := do
  let (year, cs) ← takeNumber? 4 cs
  let (month, cs) ← takeNumber? 2 (← takeChar? (· == '-') cs)
  let (day, cs) ← takeNumber? 2 (← takeChar? (· == '-') cs)
  if 1 ≤ month && month ≤ 12 && 1 ≤ day && day ≤ daysIn year month then some cs else none

/-- What follows the seconds of a time of day, which may have decimals. -/
def afterSeconds? (cs : List Char) : Option (List Char) := do
  let (second, cs) ← takeNumber? 2 cs
  if second ≤ 60 then
    match cs with
    | '.' :: rest =>
      let ds := rest.takeWhile Char.isDigit
      if ds.isEmpty then none else some (rest.dropWhile Char.isDigit)
    | cs => some cs
  else none

/-- What follows a time of day. The seconds may be left out. -/
def afterTime? (cs : List Char) : Option (List Char) := do
  let (hour, cs) ← takeNumber? 2 cs
  let (minute, cs) ← takeNumber? 2 (← takeChar? (· == ':') cs)
  if hour ≤ 23 && minute ≤ 59 then
    match cs with
    | ':' :: rest => afterSeconds? rest
    | cs => some cs
  else none

/-- Whether some characters are the distance from universal time. -/
def isZone (cs : List Char) : Bool :=
  match cs with
  | ['Z'] | ['z'] => true
  | c :: rest =>
    isSign c &&
      match takeNumber? 2 rest with
      | some (hours, ':' :: rest) =>
        match takeNumber? 2 rest with
        | some (minutes, []) => decide (hours ≤ 23) && decide (minutes ≤ 59)
        | _ => false
      | _ => false
  | [] => false

/-- Whether a character may stand between a date and a time. -/
def isTimeMark (c : Char) : Bool := c == 'T' || c == 't' || c == ' '

/-- Whether some characters are a moment. -/
def isMoment (cs : List Char) : Bool :=
  match afterDate? cs with
  | some [] => true
  | some rest =>
    match (takeChar? isTimeMark rest).bind afterTime? with
    | some [] => true
    | some zone => isZone zone
    | none => false
  | none => afterTime? cs == some []

/-! ## Values -/

namespace Scalar

/-- A value that begins with a digit or an underscore behind its sign, if there is one: `cs` is all of it, `body` what
stands at the place behind the sign. -/
def numeric (cs : List Char) (place : Nat) (body : List Char) : Except Nat Scalar := do
  let rest := body.dropWhile Char.isDigit
  let integer : Except Nat Scalar := do
    if body.head? == some '0' then throw place
    checkGroups isHex (sizeOf cs) 0 cs
    return ofDigits 10 cs
  match rest with
  | [] => integer
  | c :: _ =>
    if c = '-' || c = ':' then
      if isMoment cs then return .moment (String.ofList cs) else throw 0
    else if rest.contains ' ' then throw 0
    else if rest.any fun d => d == '.' || isExponentMark d then
      checkReal place body
      checkGroups Char.isDigit (sizeOf cs) 0 cs
      return ofReal cs
    else if c = '_' then integer
    else throw 0

/-- An integer with a mark of its base, behind which its digits stand at a place. -/
def marked (cs : List Char) (base : Nat) (place : Nat) (digits : List Char) : Except Nat Scalar := do
  if digits.head?.any isSign then throw place
  let good := digits.takeWhile fun c => isDigitOf base c || c == '_'
  if good.length < digits.length then throw (place + good.length)
  checkGroups isHex (sizeOf cs) place digits
  return ofDigits base digits

/-- A value that begins with a zero behind its sign, if there is one. -/
def fromZero (cs : List Char) (signed : Bool) (place : Nat) (body : List Char) : Except Nat Scalar :=
  let based (base : Nat) : Except Nat Scalar :=
    if signed then .error 0 else marked cs base 2 (body.drop 2)
  match body.drop 1 with
  | [] => .ok (ofDigits 10 cs)
  | 'x' :: _ => based 16
  | 'o' :: _ => based 8
  | 'b' :: _ => based 2
  | 'X' :: _ | 'O' :: _ | 'B' :: _ | 'D' :: _ | 'd' :: _ => .error 0
  | _ => numeric cs place body

/-- A real number in the form of a word, behind its sign. -/
def named (cs : List Char) (place : Nat) (body : List Char) (name : String) : Except Nat Scalar :=
  if body == name.toList then .ok (.real (String.ofList cs)) else .error place

/-- A value that begins with a point behind its sign, which no value does. -/
def fromPoint (place : Nat) : Except Nat Scalar := .error place

/-- A value behind its sign. -/
def signed (cs body : List Char) : Except Nat Scalar :=
  match body with
  | [] => .error 0
  | c :: _ =>
    if isSign c then .error 1
    else if c = '0' then fromZero cs true 1 body
    else if c.isDigit || c == '_' then numeric cs 1 body
    else if c = '.' then fromPoint 1
    else if c = 'i' || c = 'I' then named cs 1 body "inf"
    else if c = 'n' || c = 'N' then named cs 1 body "nan"
    else .error 0

/-- The value of a run of characters, or the number of bytes behind which it is wrong. -/
def ofBare (cs : List Char) : Except Nat Scalar :=
  match cs with
  | [] => .error 0
  | c :: rest =>
    if isSign c then signed cs rest
    else if c = '0' then fromZero cs false 0 cs
    else if c.isDigit || c == '_' then numeric cs 0 cs
    else if c = '.' then fromPoint 0
    else if cs == "true".toList then .ok (.boolean true)
    else if cs == "false".toList then .ok (.boolean false)
    else if c = 'i' then named cs 0 cs "inf"
    else if c = 'n' then named cs 0 cs "nan"
    else .error 0

/-- The value of a piece, or the offset at which it is wrong. -/
def ofPiece (piece : Piece) : Except Nat Scalar :=
  match piece.quotes with
  | some quotes => (quotes.text piece.start piece.chars).map .text
  | none => (ofBare piece.chars).mapError (piece.start + ·)

end Scalar

end ModelStore.Toml
