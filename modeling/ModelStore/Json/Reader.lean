import ModelStore.Json.Failure

/-!
# Reading JSON text

A document is read from left to right with one character of look-ahead. What has been consumed decides the
place that a failure carries: some failures are met at a character that was consumed, others at the
character ahead.

Nesting is limited: with `depth` levels left a list or an object may only open if it leaves one level over.
All loops are bounded by the number of characters that are left, of which each round consumes at least one.

## Main definitions

* `Cursor`, `Reader`: the text ahead and the readers over it.
* `Reader.value`: a value.
* `Reader.skipValue`: passes a value over, without making one.
* `Json.parse`: a whole document.
-/

namespace ModelStore.Json

/-! ## The text ahead -/

/-- The number of levels that may be open at once. -/
def depthLimit : Nat := 127

/-- The text that is left, the place that has been reached, and the number of levels that may still open. -/
structure Cursor where
  rest : List Char
  line : Nat
  column : Nat
  levels : Nat
  deriving Repr

/-- The start of a text. -/
def Cursor.start (text : String) : Cursor := ⟨text.toList, 1, 0, depthLimit⟩

/-- Consumes one character. -/
def Cursor.eat (cursor : Cursor) : Cursor :=
  match cursor.rest with
  | [] => cursor
  | c :: rest =>
    if c = '\n' then { cursor with rest := rest, line := cursor.line + 1, column := 0 }
    else { cursor with rest := rest, column := cursor.column + c.utf8Size }

/-- The place that has been reached. -/
def Cursor.position (cursor : Cursor) : Position := ⟨cursor.line, cursor.column⟩

/-- The place one byte further on, if the text goes on. -/
def Cursor.ahead (cursor : Cursor) : Position :=
  match cursor.rest with
  | [] => cursor.position
  | c :: _ => if c = '\n' then ⟨cursor.line + 1, 0⟩ else ⟨cursor.line, cursor.column + 1⟩

/-- The characters that separate tokens. -/
def isBlank (c : Char) : Bool := c == ' ' || c == '\n' || c == '\t' || c == '\r'

/-- Consumes characters of the text given while they satisfy a condition. -/
def Cursor.eatWhile (p : Char → Bool) : List Char → Cursor → Cursor
  | [], cursor => cursor
  | c :: rest, cursor => if p c then Cursor.eatWhile p rest cursor.eat else cursor

/-- A reader consumes text and ends with a result or a failure; also a failure keeps the place reached. -/
abbrev Reader (α : Type) := ExceptT Failure (StateM Cursor) α

namespace Reader

/-! ## Single characters -/

/-- The character ahead. -/
def peek : Reader (Option Char) := do return (← get).rest.head?

/-- Consumes the character ahead. -/
def eat : Reader Unit := modify Cursor.eat

/-- Fails at the place reached. -/
def fail {α : Type} (error : GrammarError) : Reader α := do
  throw ⟨.grammar error, some (← get).position⟩

/-- Fails at the character ahead. -/
def failAhead {α : Type} (error : GrammarError) : Reader α := do
  throw ⟨.grammar error, some (← get).ahead⟩

/-- Fails for a cause whose place is found later. -/
def refuse {α : Type} (cause : Cause) : Reader α := throw ⟨cause, none⟩

/-- Gives a failure without a place the one that has been reached. -/
def located {α : Type} (reader : Reader α) : Reader α :=
  tryCatch reader fun failure => do
    let cursor ← get
    throw ⟨failure.cause, some (failure.position.getD cursor.position)⟩

/-- Runs a reader and then, whatever its outcome, what closes it; the first failure is the one that counts. -/
def closedBy {α : Type} (body : Reader α) (close : Reader Unit) : Reader α := do
  let outcome ← (tryCatch (Except.ok <$> body) fun failure => pure (.error failure) : Reader (Except Failure α))
  let closing ← (tryCatch (Except.ok <$> close) fun failure => pure (.error failure) : Reader (Except Failure Unit))
  match outcome, closing with
  | .ok value, .ok _ => return value
  | .error failure, _ => throw failure
  | _, .error failure => throw failure

/-- Consumes blanks and shows the character behind them. -/
def peekToken : Reader (Option Char) := do
  modify fun cursor => cursor.eatWhile isBlank cursor.rest
  peek

/-- Consumes blanks and shows the character behind them, where a value has to begin. -/
def peekValue : Reader Char := do
  match ← peekToken with
  | some c => return c
  | none => failAhead .eofInValue

/-- Consumes the letters of a literal. -/
def ident : List Char → Reader Unit
  | [] => pure ()
  | expected :: rest => do
    match ← peek with
    | none => fail .eofInValue
    | some c =>
      if c = expected then
        eat
        ident rest
      else failAhead .expectedIdent

/-! ## Numbers -/

/-- The greatest significand that is kept. -/
def significandLimit : Nat := Nat.pow 2 64 - 1

/-- The greatest exponent that is kept. -/
def exponentLimit : Nat := Nat.pow 2 31 - 1

/-- Consumes digits and returns their values. -/
def digits : Reader (List Nat) := do
  let cursor ← get
  let taken := cursor.rest.takeWhile Char.isDigit
  set { cursor with rest := cursor.rest.drop taken.length, column := cursor.column + taken.length }
  return taken.map fun c => c.toNat - '0'.toNat

/-- Extends a significand by digits while it stays within the limit; also the digits that are left. -/
def extend (limit : Nat) : (significand : Nat) → List Nat → Nat × List Nat
  | s, [] => (s, [])
  | s, d :: ds => if limit < s * 10 + d then (s, d :: ds) else extend limit (s * 10 + d) ds

/-- The power of ten with the exponent given, as a number. -/
def powerOfTen (k : Nat) : Binary64 := Binary64.ofRatio false (Nat.pow 10 k) 1

/-- Divides by the greatest power of ten until the rest of the exponent is in reach, or nothing is left. A
significand of 64 bits is gone after two divisions. -/
def shrink (x : Binary64) (exponent : Nat) : (steps : Nat) → Binary64 × Nat
  | 0 => (x, exponent)
  | steps + 1 =>
    if 308 < exponent ∧ x.isZero = false then
      shrink (x.div (powerOfTen 308)) (exponent - 308) steps
    else (x, exponent)

/-- The number `significand * 10 ^ exponent`, rounded once for the significand and once for each power of ten
that it is scaled by; nothing if it is too great. -/
def scaled (negative : Bool) (significand : Nat) (exponent : Int) : Option Binary64 :=
  let x := Binary64.ofNat significand
  let magnitude :=
    if exponent < 0 then
      let (y, k) := shrink x exponent.natAbs 3
      some (if y.isZero then y else y.div (powerOfTen k))
    else if exponent ≤ 308 then some (x.mul (powerOfTen exponent.toNat))
    else if x.isZero then some x
    else none
  match magnitude with
  | some y => if y.isFinite then some (y.withSign negative) else none
  | none => none

/-- A number with a fraction or an exponent, once its text has been consumed. -/
def real (negative : Bool) (significand : Nat) (exponent : Int) : Reader Json := do
  match scaled negative significand exponent with
  | some x => return .real x
  | none => fail .numberOutOfRange

/-- Keeps an exponent within its limits. -/
def clampExponent (e : Int) : Int :=
  max (-(exponentLimit : Int) - 1) (min e exponentLimit)

/-- The exponent of a number, from its mark on. -/
def exponent (negative : Bool) (significand : Nat) (start : Int) : Reader Json := do
  eat
  let below ←
    match ← peek with
    | some '+' => eat; pure false
    | some '-' => eat; pure true
    | _ => pure false
  match ← peek with
  | none => fail .eofInValue
  | some c =>
    if c.isDigit then
      let before ← get
      let ds ← digits
      match extend exponentLimit 0 ds with
      | (e, []) => real negative significand (clampExponent (if below then start - e else start + e))
      | (_, beyond) =>
        if significand ≠ 0 ∧ below = false then
          let seen := ds.length - beyond.length + 1
          throw ⟨.grammar .numberOutOfRange, some ⟨before.line, before.column + seen⟩⟩
        else return .real (Binary64.zero negative)
    else failAhead .invalidNumber

/-- The rest of a number behind its fraction. -/
def afterFraction (negative : Bool) (significand : Nat) (start : Int) : Reader Json := do
  match ← peek with
  | some 'e' | some 'E' => exponent negative significand start
  | _ => real negative significand start

/-- The fraction of a number, from its point on. -/
def fraction (negative : Bool) (significand : Nat) (start : Int) : Reader Json := do
  eat
  let ds ← digits
  match ds with
  | [] =>
    match ← peek with
    | some _ => failAhead .invalidNumber
    | none => fail .eofInValue
  | _ =>
    let (s, left) := extend significandLimit significand ds
    afterFraction negative s (start - ((ds.length - left.length : Nat) : Int))

/-- An integer whose text has been consumed. A negative zero and what lies below 64 bits are reals. -/
def integer (negative : Bool) (significand : Nat) : Json :=
  if negative then
    if significand = 0 then .real (Binary64.zero true)
    else if Nat.pow 2 63 < significand then .real ((Binary64.ofNat significand).withSign true)
    else .int (-(significand : Int))
  else .int significand

/-- A number, from its first digit on. -/
def number (negative : Bool) : Reader Json := do
  match ← peek with
  | none => fail .eofInValue
  | some c =>
    if c = '0' then
      eat
      match ← peek with
      | some d => if d.isDigit then failAhead .invalidNumber else tail 0 []
      | none => tail 0 []
    else if c.isDigit then
      let (s, left) := extend significandLimit 0 (← digits)
      tail s left
    else failAhead .invalidNumber
where
  /-- What follows the integral digits, of which some may have been left out. -/
  tail (significand : Nat) (left : List Nat) : Reader Json := do
    match ← peek with
    | some '.' => fraction negative significand left.length
    | some 'e' | some 'E' => exponent negative significand left.length
    | _ =>
      match left with
      | [] => return integer negative significand
      | _ => real negative significand left.length

/-! ## Texts -/

/-- Four hexadecimal digits. -/
def hexDigits : Reader Nat := do
  let cursor ← get
  let bytes := cursor.rest.take 4
  let width := (String.ofList bytes).utf8ByteSize
  if width < 4 then
    set (cursor.eatWhile (fun _ => true) cursor.rest)
    fail .eofInText
  else
    match bytes.map hexValue with
    | [some a, some b, some c, some d] =>
      set { cursor with rest := cursor.rest.drop 4, column := cursor.column + 4 }
      return ((a * 16 + b) * 16 + c) * 16 + d
    | _ => throw ⟨.grammar .invalidEscape, some (byteOffset cursor.position 4 cursor.rest)⟩
where
  /-- The value of a hexadecimal digit. -/
  hexValue (c : Char) : Option Nat :=
    if c.isDigit then some (c.toNat - '0'.toNat)
    else if 'a' ≤ c ∧ c ≤ 'f' then some (c.toNat - 'a'.toNat + 10)
    else if 'A' ≤ c ∧ c ≤ 'F' then some (c.toNat - 'A'.toNat + 10)
    else none
  /-- The place some bytes further on, behind the characters given. -/
  byteOffset (place : Position) : (left : Nat) → List Char → Position
    | _, [] => place
    | left, c :: rest =>
      if left = 0 then place
      else if c = '\n' then byteOffset ⟨place.line + 1, 0⟩ (left - 1) rest
      else byteOffset ⟨place.line, place.column + min left c.utf8Size⟩ (left - c.utf8Size) rest

/-- The character ahead, inside a text. -/
def peekInText : Reader Char := do
  match ← peek with
  | some c => return c
  | none => fail .eofInText

/-- The character of an escape by number, which takes two such escapes outside the basic plane. -/
def unicodeEscape : Reader Char := do
  let n ← hexDigits
  if 0xDC00 ≤ n ∧ n ≤ 0xDFFF then fail .loneSurrogate
  else if n < 0xD800 ∨ 0xDBFF < n then return Char.ofNat n
  else
    expectOr '\\'
    expectOr 'u'
    let low ← hexDigits
    if low < 0xDC00 ∨ 0xDFFF < low then fail .loneSurrogate
    else return Char.ofNat ((n - 0xD800) * 0x400 + (low - 0xDC00) + 0x10000)
where
  /-- Consumes one character of the second escape. -/
  expectOr (expected : Char) : Reader Unit := do
    let c ← peekInText
    if c = expected then eat
    else
      let cursor ← get
      throw ⟨.grammar .unfinishedSurrogate, some cursor.ahead⟩

/-- The escapes of one letter. -/
def simpleEscape (c : Char) : Option Char :=
  match c with
  | '"' => some '"'
  | '\\' => some '\\'
  | '/' => some '/'
  | 'b' => some '\x08'
  | 'f' => some '\x0c'
  | 'n' => some '\n'
  | 'r' => some '\r'
  | 't' => some '\t'
  | _ => none

/-- The characters of a text up to its closing quote, newest first in `taken`. -/
def textFrom : (fuel : Nat) → (taken : List Char) → Reader String
  | 0, _ => fail .eofInText
  | fuel + 1, taken => do
    let c ← peekInText
    if c = '"' then
      eat
      return String.ofList taken.reverse
    else if c = '\\' then
      eat
      let e ← peekInText
      match simpleEscape e with
      | some c =>
        eat
        textFrom fuel (c :: taken)
      | none =>
        if e = 'u' then
          eat
          textFrom fuel ((← unicodeEscape) :: taken)
        else
          let cursor ← get
          throw ⟨.grammar .invalidEscape, some cursor.ahead⟩
    else if c.toNat < 0x20 then
      eat
      fail .controlCharacter
    else
      eat
      textFrom fuel (c :: taken)

/-- A text, from behind its opening quote on. -/
def text : Reader String := do textFrom ((← get).rest.length + 1) []

/-! ## Lists and objects -/

/-- Whether an item follows. -/
def nextItem (first : Bool) : Reader Bool := do
  match ← peekToken with
  | none => failAhead .eofInList
  | some ']' => return false
  | some c =>
    if c = ',' ∧ first = false then
      eat
      match ← peekToken with
      | some ']' => failAhead .trailingComma
      | some _ => return true
      | none => failAhead .eofInValue
    else if first then return true
    else failAhead .expectedListEnd

/-- Whether a field follows. -/
def nextField (first : Bool) : Reader Bool := do
  match ← peekToken with
  | none => failAhead .eofInObject
  | some '\x7d' => return false
  | some c =>
    if c = ',' ∧ first = false then
      eat
      match ← peekToken with
      | some '"' => return true
      | some '\x7d' => failAhead .trailingComma
      | some _ => failAhead .keyNotText
      | none => failAhead .eofInValue
    else if first then
      if c = '"' then return true else failAhead .keyNotText
    else failAhead .expectedObjectEnd

/-- Consumes the end of a list. -/
def endList : Reader Unit := do
  match ← peekToken with
  | some ']' => eat
  | some ',' =>
    eat
    match ← peekToken with
    | some ']' => failAhead .trailingComma
    | _ => failAhead .trailingCharacters
  | some _ => failAhead .trailingCharacters
  | none => failAhead .eofInList

/-- Consumes the end of an object. -/
def endObject : Reader Unit := do
  match ← peekToken with
  | some '\x7d' => eat
  | some ',' => failAhead .trailingComma
  | some _ => failAhead .trailingCharacters
  | none => failAhead .eofInObject

/-- Consumes the colon behind a name. -/
def colon : Reader Unit := do
  match ← peekToken with
  | some ':' => eat
  | some _ => failAhead .expectedColon
  | none => failAhead .eofInObject

/-- The name of a field, from its opening quote on. -/
def fieldName : Reader String := do
  eat
  text

/-- Some items, read one by one into an accumulator. -/
def itemsFrom {σ : Type} (item : σ → Reader σ) : (fuel : Nat) → (first : Bool) → σ → Reader σ
  | 0, _, _ => failAhead .eofInList
  | fuel + 1, first, acc => do
    if ← nextItem first then itemsFrom item fuel false (← item acc) else return acc

/-- Some fields, read one by one into an accumulator. -/
def fieldsFrom {σ : Type} (field : σ → Reader σ) : (fuel : Nat) → (first : Bool) → σ → Reader σ
  | 0, _, _ => failAhead .eofInObject
  | fuel + 1, first, acc => do
    if ← nextField first then fieldsFrom field fuel false (← field acc) else return acc

/-- The items of a list, its closing bracket not consumed. -/
def items {σ : Type} (start : σ) (item : σ → Reader σ) : Reader σ := do
  itemsFrom item ((← get).rest.length + 1) true start

/-- The fields of an object, its closing brace not consumed. -/
def fields {σ : Type} (start : σ) (field : σ → Reader σ) : Reader σ := do
  fieldsFrom field ((← get).rest.length + 1) true start

/-! ## Values -/

/-- A value, given how to read the values inside a list or an object, if there may be such. -/
def valueWith (inner : Option (Reader Json)) : Reader Json := do
  let c ← peekValue
  match c with
  | 'n' => eat; ident "ull".toList; return .null
  | 't' => eat; ident "rue".toList; return .bool true
  | 'f' => eat; ident "alse".toList; return .bool false
  | '-' => eat; number true
  | '"' => eat; return .text (← text)
  | '[' =>
    match inner with
    | none => failAhead .tooDeep
    | some value =>
      eat
      let found ← items [] fun acc => return (← value) :: acc
      endList
      return .list found.reverse
  | '\x7b' =>
    match inner with
    | none => failAhead .tooDeep
    | some value =>
      eat
      let found ← fields [] fun acc => do
        let name ← fieldName
        colon
        return Fields.set acc name (← value)
      endObject
      return .object found
  | _ => if c.isDigit then number false else failAhead .expectedValue

/-- A value in which so many levels may be open at once. -/
def valueAt : (depth : Nat) → Reader Json
  | 0 => valueWith none
  | depth + 1 => valueWith (some (valueAt depth))

/-- A value. -/
def value : Reader Json := do valueAt (← get).levels

/-! ## Passing over -/

/-- Passes over digits. -/
def skipDigits : Reader Bool := do return !(← digits).isEmpty

/-- Passes over an exponent. -/
def skipExponent : Reader Unit := do
  eat
  match ← peek with
  | some '+' | some '-' => eat
  | _ => pure ()
  match ← peek with
  | some c => if c.isDigit then discard digits else failAhead .invalidNumber
  | none => fail .invalidNumber

/-- Passes over a number, from its first digit on. -/
def skipNumber : Reader Unit := do
  match ← peek with
  | some '0' =>
    eat
    match ← peek with
    | some d => if d.isDigit then failAhead .invalidNumber else tail
    | none => tail
  | some c => if c.isDigit then discard digits; tail else failAhead .invalidNumber
  | none => fail .invalidNumber
where
  /-- What follows the integral digits. -/
  tail : Reader Unit := do
    match ← peek with
    | some '.' =>
      eat
      if ← skipDigits then
        match ← peek with
        | some 'e' | some 'E' => skipExponent
        | _ => pure ()
      else failAhead .invalidNumber
    | some 'e' | some 'E' => skipExponent
    | _ => pure ()

/-- Passes over the characters of a text up to its closing quote. -/
def skipTextFrom : (fuel : Nat) → Reader Unit
  | 0 => fail .eofInText
  | fuel + 1 => do
    let c ← peekInText
    if c = '"' then eat
    else if c = '\\' then
      eat
      let e ← peekInText
      if (simpleEscape e).isSome then
        eat
        skipTextFrom fuel
      else if e = 'u' then
        eat
        discard hexDigits
        skipTextFrom fuel
      else
        let cursor ← get
        throw ⟨.grammar .invalidEscape, some cursor.ahead⟩
    else if c.toNat < 0x20 then fail .controlCharacter
    else
      eat
      skipTextFrom fuel

/-- Passes over a text, from behind its opening quote on. -/
def skipText : Reader Unit := do skipTextFrom ((← get).rest.length + 1)

/-- Passes over the name of a field and its colon. -/
def skipName : Reader Unit := do
  match ← peekToken with
  | some '"' => eat
  | some _ => failAhead .keyNotText
  | none => failAhead .eofInObject
  skipText
  colon

/-- Closes as many open levels as end here; `true` in the list stands for an object. What is left is where the
next value belongs. -/
def closeLevels : (fuel : Nat) → (comma : Bool) → (levels : List Bool) → Reader (List Bool)
  | 0, _, levels => return levels
  | _, _, [] => return []
  | fuel + 1, comma, inObject :: outer => do
    match ← peekToken with
    | none => failAhead (if inObject then .eofInObject else .eofInList)
    | some c =>
      if c = ',' ∧ comma then
        eat
        return inObject :: outer
      else if c = (if inObject then '\x7d' else ']') then
        eat
        closeLevels fuel true outer
      else if comma then failAhead (if inObject then .expectedObjectEnd else .expectedListEnd)
      else return inObject :: outer

/-- Passes over values until every open level is closed. -/
def skipFrom : (fuel : Nat) → (levels : List Bool) → Reader Unit
  | 0, _ => failAhead .eofInValue
  | fuel + 1, levels => do
    let c ← peekValue
    let size := (← get).rest.length
    let levels ←
      match c with
      | 'n' => eat; ident "ull".toList; closeLevels size true levels
      | 't' => eat; ident "rue".toList; closeLevels size true levels
      | 'f' => eat; ident "alse".toList; closeLevels size true levels
      | '-' => eat; skipNumber; closeLevels size true levels
      | '"' => eat; skipText; closeLevels size true levels
      | '[' => eat; closeLevels size false (false :: levels)
      | '\x7b' => eat; closeLevels size false (true :: levels)
      | _ =>
        if c.isDigit then
          skipNumber
          closeLevels size true levels
        else failAhead .expectedValue
    match levels with
    | [] => pure ()
    | inObject :: _ =>
      if inObject then skipName
      skipFrom fuel levels

/-- Passes over one value; its numbers and escapes are not looked into. -/
def skipValue : Reader Unit := do skipFrom ((← get).rest.length + 1) []

/-! ## Documents -/

/-- Nothing but blanks may follow. -/
def finish : Reader Unit := do
  match ← peekToken with
  | some _ => failAhead .trailingCharacters
  | none => pure ()

/-- Reads a whole text. -/
def run {α : Type} (reader : Reader α) (text : String) : Except Failure α :=
  (StateT.run (ExceptT.run (do let value ← reader; finish; return value)) (Cursor.start text)).1

end Reader

/-- The value that a text denotes. -/
def parse (text : String) : Except Failure Json :=
  Reader.run Reader.value text

end ModelStore.Json
