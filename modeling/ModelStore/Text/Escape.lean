/-!
# Escape sequences

Sequences that begin with an escape character steer a terminal and are not seen on it. One that goes on with an opening
bracket is a control sequence and ends with a character from `@` to `~`; one that goes on with a closing bracket is a
command and ends with a bell, or with an escape character and a backslash; any other one has two characters.

## Main definitions

* `Escape`: where in such a sequence a text is.
* `Escape.next`: where it is behind a character.
* `Escape.shows`: whether a character stands outside all sequences.
-/

namespace ModelStore.Text

/-- Where in an escape sequence a text is. -/
inductive Escape where
  | outside
  | begun
  | control
  | command
  | ending
  deriving DecidableEq, Repr, Inhabited

namespace Escape

/-- The character that begins a sequence. -/
def opener : Char := '\x1b'

/-- Whether a character stands outside all sequences. -/
def shows (place : Escape) (c : Char) : Bool := place == outside && c != opener

/-- Where a text is behind a character of a command. -/
def inCommand (c : Char) : Escape := if c = '\x07' then outside else if c = opener then ending else command

/-- Where a text is behind a character. -/
def next : Escape → Char → Escape
  | outside, c => if c = opener then begun else outside
  | begun, c => if c = '[' then control else if c = ']' then command else outside
  | control, c => if '@' ≤ c ∧ c ≤ '~' then outside else control
  | command, c => inCommand c
  | ending, c => if c = '\\' then outside else inCommand c

/-- A character that shows leaves a text outside all sequences. -/
theorem next_of_shows {place : Escape} {c : Char} (h : place.shows c = true) : place.next c = outside := by
  simp only [shows, Bool.and_eq_true, beq_iff_eq, bne_iff_ne, ne_eq] at h
  obtain ⟨rfl, hc⟩ := h
  exact if_neg hc

end Escape

end ModelStore.Text
