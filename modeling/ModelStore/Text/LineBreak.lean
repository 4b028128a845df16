import ModelStore.Text.BreakClass
import ModelStore.Text.Escape

/-!
# Places to break a line

A line may be broken between two characters unless a rule forbids it. The rules look at the class of the character
ahead, at the class of the last character that was no space, and at whether spaces stand between them. Marks count as
part of the character before them, and escape sequences as part of the character behind them.

## Main definitions

* `Passed`: what has been passed over.
* `Passed.breaksBefore`: whether a line may be broken before a character.
* `Text.pieces`: the parts of a text between places to break.
-/

namespace ModelStore.Text

open BreakClass

/-- What has been passed over: the class of the last character that was no space, whether spaces follow it, whether a
joiner came last, whether an odd number of regional letters came last, and whether a hyphen came last behind a Hebrew
letter. -/
structure Passed where
  last : BreakClass
  spaces : Bool
  joiner : Bool
  oddRegional : Bool
  hebrewHyphen : Bool
  deriving DecidableEq, Repr, Inhabited

/-- Whether a line always ends behind a class. -/
def BreakClass.endsLine : BreakClass → Bool
  | mandatory | carriageReturn | lineFeed | nextLine => true
  | _ => false

/-- Whether a class is that of marks. -/
def BreakClass.isMark : BreakClass → Bool
  | combining | zeroWidthJoiner => true
  | _ => false

/-- Whether a class is that of letters. -/
def BreakClass.isLetter : BreakClass → Bool
  | alphabetic | hebrew => true
  | _ => false

/-- Whether a class is that of ideographs or pictures. -/
def BreakClass.isIdeograph : BreakClass → Bool
  | ideographic | emojiBase | emojiModifier => true
  | _ => false

/-- Whether a class is that of parts of Hangul. -/
def BreakClass.isHangul : BreakClass → Bool
  | jamoLeading | jamoVowel | jamoTrailing | hangulOpen | hangulClosed => true
  | _ => false

/-- Whether a class is that of opening punctuation. -/
def BreakClass.opens : BreakClass → Bool
  | .open | openWide => true
  | _ => false

/-- Whether a class is that of closing punctuation. -/
def BreakClass.closes : BreakClass → Bool
  | .close | closeParenthesis => true
  | _ => false

/-- Whether two classes belong together in numbers. -/
def numberPair (before after : BreakClass) : Bool :=
  match before, after with
  | .close, afterNumber | closeParenthesis, afterNumber | .close, beforeNumber | closeParenthesis, beforeNumber => true
  | numeric, afterNumber | numeric, beforeNumber => true
  | afterNumber, .open | afterNumber, openWide | beforeNumber, .open | beforeNumber, openWide => true
  | afterNumber, numeric | beforeNumber, numeric | hyphen, numeric | separator, numeric | numeric, numeric => true
  | slash, numeric => true
  | _, _ => false

/-- Whether two classes belong together in syllables of Hangul. -/
def syllablePair (before after : BreakClass) : Bool :=
  match before, after with
  | jamoLeading, jamoLeading | jamoLeading, jamoVowel | jamoLeading, hangulOpen | jamoLeading, hangulClosed => true
  | jamoVowel, jamoVowel | jamoVowel, jamoTrailing | hangulOpen, jamoVowel | hangulOpen, jamoTrailing => true
  | jamoTrailing, jamoTrailing | hangulClosed, jamoTrailing => true
  | _, _ => false

/-- Whether two classes without spaces between them belong together in words. -/
def wordPair (before after : BreakClass) : Bool :=
  (before.isLetter && (after == numeric || after == beforeNumber || after == afterNumber || after.isLetter))
    || ((before == numeric || before == separator) && after.isLetter)
    || ((before == beforeNumber || before == afterNumber) && after.isLetter)
    || (before == beforeNumber && (after.isIdeograph || after.isHangul))
    || ((before.isIdeograph || before.isHangul) && after == afterNumber)
    || ((before.isLetter || before == numeric) && after == .open)
    || (before == closeParenthesis && (after.isLetter || after == numeric))
    || (before == slash && after == hebrew)
    || (before == emojiBase && after == emojiModifier)

namespace Passed

/-- The start of a text that begins with a class. -/
def start (c : BreakClass) : Passed :=
  let last := if c.isMark then alphabetic else c
  ⟨last, c == space, c == zeroWidthJoiner, c == regional, false⟩

/-- Whether a mark would stand for itself here. -/
def isolates (passed : Passed) : Bool := passed.spaces || passed.last.endsLine || passed.last == zeroWidthSpace

/-- Whether a line may be broken before a class that is not that of a mark. -/
def breaksBefore (passed : Passed) (c : BreakClass) : Bool :=
  let last := passed.last
  let adjacent := !passed.spaces
  if adjacent && last.endsLine && !(last == carriageReturn && c == lineFeed) then true
  else if c.endsLine || c == space || c == zeroWidthSpace then false
  else if last == zeroWidthSpace then true
  else if passed.joiner then false
  else if c == wordJoiner || (adjacent && (last == wordJoiner || last == glue)) then false
  else if adjacent && c == glue && last != breakAfter && last != hyphen then false
  else if c.closes || c == exclamation || c == separator || c == slash then false
  else if last.opens || (last == quotation && c.opens) then false
  else if (last.closes && c == nonstarter) || (last == breakAround && c == breakAround) then false
  else if passed.spaces then true
  else if c == quotation || last == quotation then false
  else if c == contingent || last == contingent then true
  else if c == breakAfter || c == hyphen || c == nonstarter || last == breakBefore then false
  else if passed.hebrewHyphen || c == inseparable then false
  else if last == regional && c == regional then !passed.oddRegional
  else !(numberPair last c || syllablePair last c || wordPair last c)

/-- Passes over a class that is not that of a mark. -/
def pass (passed : Passed) (c : BreakClass) : Passed :=
  if c == space then
    { passed with
      last := if passed.last.endsLine then space else passed.last
      spaces := true
      joiner := false
      hebrewHyphen := false }
  else
    let adjacent := !passed.spaces
    { last := c
      spaces := false
      joiner := false
      oddRegional := c == regional && !(adjacent && passed.last == regional && passed.oddRegional)
      hebrewHyphen := adjacent && (c == hyphen || c == breakAfter) && passed.last == hebrew }

/-- Whether a line may be broken before a class, and what has been passed over behind it. -/
def step (passed : Passed) (c : BreakClass) : Bool × Passed :=
  if c.isMark then
    if passed.isolates then
      (passed.breaksBefore alphabetic, { passed.pass alphabetic with joiner := c == zeroWidthJoiner })
    else (false, { passed with joiner := c == zeroWidthJoiner })
  else (passed.breaksBefore c, passed.pass c)

end Passed

/-- Whether a line may be broken before a class behind what has been passed over, if anything has, and what has been
passed over behind the class. -/
def passOver : Option Passed → BreakClass → Bool × Passed
  | none, c => (false, .start c)
  | some passed, c => passed.step c

/-- The parts of a text between places to break, behind what has been passed over and an escape sequence, which comes
newest first; the first part goes on with what came before. -/
def piecesFrom (passed : Option Passed) (place : Escape) (hidden : List Char) : List Char → List (List Char)
  | [] => [hidden.reverse]
  | c :: rest =>
    if place.shows c then
      let (breaks, passed) := passOver passed (ofChar c)
      match piecesFrom (some passed) .outside [] rest with
      | piece :: others =>
        let piece := hidden.reverse ++ c :: piece
        if breaks then [] :: piece :: others else piece :: others
      | [] => [[c]]
    else piecesFrom passed (place.next c) (c :: hidden) rest

/-- The parts of a text between places to break. -/
def pieces : List Char → List (List Char)
  | [] => []
  | cs => piecesFrom none .outside [] cs

end ModelStore.Text
