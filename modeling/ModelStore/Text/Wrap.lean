import ModelStore.Text.LineBreak
import ModelStore.Text.Width

/-!
# Wrapped lines

A text is broken into lines of a width. Each line takes as many words as it holds; the spaces behind the last one are
left out. Words end where a line may be broken, and behind hyphens inside them; a word that is wider than a line is cut.

## Main definitions

* `Word`: the words of a text.
* `Text.linesOf`: the lines of a text.
* `Text.wrap`: its lines, broken into lines of a width.
-/

namespace ModelStore.Text

/-- Characters that stay on one line, and the spaces behind them. -/
structure Word where
  chars : List Char
  spaces : Nat
  deriving DecidableEq, Repr, Inhabited

namespace Word

/-- The width of a word without its spaces. -/
def width (word : Word) : Nat := widthOf word.chars

/-- The word of some characters, of which the last ones may be spaces. -/
def ofChars (cs : List Char) : Word :=
  let kept := (cs.reverse.dropWhile (· == ' ')).reverse
  ⟨kept, cs.length - kept.length⟩

/-! ## Hyphens -/

/-- Whether a character is a letter or a digit. -/
def isAlphanumeric (c : Char) : Bool :=
  c.isAlphanum ||
    (decide (0x7f < c.toNat) &&
      let k := BreakClass.ofChar c
      k.isLetter || k.isIdeograph || k.isHangul || k == .numeric || k == .nonstarter)

/-- Whether a hyphen behind the characters given, newest first, and before others ends a part of a word. -/
def isSplit (before after : List Char) : Bool := before.head?.any isAlphanumeric && after.head?.any isAlphanumeric

/-- The parts of some characters behind their hyphens; the newest come first in `taken`. -/
def hyphenParts (taken : List Char) : List Char → List (List Char)
  | [] => if taken.isEmpty then [] else [taken.reverse]
  | c :: rest =>
    if c = '-' && isSplit taken rest then (c :: taken).reverse :: hyphenParts [] rest
    else hyphenParts (c :: taken) rest

/-- The words of some parts, of which the last one has the spaces. -/
def ofParts (spaces : Nat) : List (List Char) → List Word
  | [] => [⟨[], spaces⟩]
  | [part] => [⟨part, spaces⟩]
  | part :: rest => ⟨part, 0⟩ :: ofParts spaces rest

/-- The parts of a word behind its hyphens. -/
def split (word : Word) : List Word := ofParts word.spaces (hyphenParts [] word.chars)

/-! ## Cutting -/

/-- The parts of some characters that are as wide as they may be; the newest come first in `taken`. -/
def cutParts (limit : Nat) (taken : List Char) (place : Escape) (used : Nat) : List Char → List (List Char)
  | [] => [taken.reverse]
  | c :: rest =>
    let w := shownWidth place c
    if place.shows c && decide (0 < used) && decide (limit < used + w) then
      taken.reverse :: cutParts limit [c] (place.next c) w rest
    else cutParts limit (c :: taken) (place.next c) (used + w) rest

/-- The parts of a word that is wider than a line. -/
def cut (limit : Nat) (word : Word) : List Word :=
  if limit < word.width then ofParts word.spaces (cutParts limit [] .outside 0 word.chars) else [word]

/-- The characters of some words on one line, without the spaces behind the last one. -/
def line : List Word → List Char
  | [] => []
  | [word] => word.chars
  | word :: rest => word.chars ++ List.replicate word.spaces ' ' ++ line rest

end Word

/-- Joins parts again that were only broken behind a hyphen or behind a soft one. -/
def rejoin : List (List Char) → List (List Char)
  | [] => []
  | part :: rest =>
    match rejoin rest with
    | [] => [part]
    | next :: others =>
      if part.getLast? == some '-' || part.getLast? == some '\xad' then (part ++ next) :: others
      else part :: next :: others

/-- The words of a text. -/
def words (limit : Nat) (cs : List Char) : List Word :=
  ((rejoin (pieces cs)).map Word.ofChars).flatMap fun word => word.split.flatMap (Word.cut limit)

/-- Puts words on lines, given the words on the line at hand, newest first, and the width that they take up. -/
def fill (limit : Nat) (taken : List Word) (used : Nat) : List Word → List (List Word)
  | [] => [taken.reverse]
  | word :: rest =>
    if limit < used + word.width then taken.reverse :: fill limit [word] (word.width + word.spaces) rest
    else fill limit (word :: taken) (used + word.width + word.spaces) rest

/-- The lines of a text without ends of lines. -/
def wrapLine (limit : Nat) (cs : List Char) : List (List Char) := (fill limit [] 0 (words limit cs)).map Word.line

/-- The characters of each line of a text. -/
def splitLines : List Char → List (List Char)
  | [] => [[]]
  | c :: rest =>
    if c = '\n' then [] :: splitLines rest
    else
      match splitLines rest with
      | line :: lines => (c :: line) :: lines
      | [] => [[c]]

/-- The lines of a text. -/
def linesOf (text : String) : List String := (splitLines text.toList).map String.ofList

/-- The lines of a text, each of which is broken into lines of a width. -/
def wrap (limit : Nat) (text : String) : List String :=
  ((splitLines text.toList).flatMap (wrapLine limit)).map String.ofList

end ModelStore.Text
