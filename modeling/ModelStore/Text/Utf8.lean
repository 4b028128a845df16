/-!
# Texts of bytes

Bytes denote a text if they are its encoding in UTF-8. Where they do not, every longest run of bytes that begins a
character and breaks off, and every byte that begins none, is shown as one replacement character.

## Main definitions

* `Text.ofBytes?`: the text that bytes denote.
* `Text.decodeLossy`: the characters of any bytes.
-/

namespace ModelStore.Text

/-- The text that bytes denote, if they denote one. -/
def ofBytes? (bytes : List UInt8) : Option String := String.fromUTF8? ⟨bytes.toArray⟩

/-- The character that stands for bytes that are no text. -/
def replacement : Char := '\ufffd'

/-- Whether a byte can continue a character. -/
def continues (b : UInt8) : Bool := decide (0x80 ≤ b ∧ b < 0xC0)

/-- The bytes that may follow the first byte of a character of more than one byte: their number, and the bounds of
the first of them. -/
def following (b : UInt8) : Option (Nat × UInt8 × UInt8) :=
  if 0xC2 ≤ b ∧ b < 0xE0 then some (1, 0x80, 0xBF)
  else if b = 0xE0 then some (2, 0xA0, 0xBF)
  else if b = 0xED then some (2, 0x80, 0x9F)
  else if 0xE1 ≤ b ∧ b < 0xF0 then some (2, 0x80, 0xBF)
  else if b = 0xF0 then some (3, 0x90, 0xBF)
  else if 0xF1 ≤ b ∧ b < 0xF4 then some (3, 0x80, 0xBF)
  else if b = 0xF4 then some (3, 0x80, 0x8F)
  else none

/-- The bytes that continue a character of which so many are to come, as far as they do, and the rest. -/
def spanContinuation (bytes : List UInt8) : (count : Nat) → List UInt8
  | 0 => []
  | n + 1 =>
    match bytes with
    | [] => []
    | b :: rest => if continues b then b :: spanContinuation rest n else []

/-- The bytes of the character that begins with a byte, behind that byte, as far as they are valid. -/
def tail (first : UInt8) (bytes : List UInt8) : Option (Nat × List UInt8) :=
  (following first).map fun (count, low, high) =>
    match bytes with
    | b :: rest => (count, if low ≤ b ∧ b ≤ high then b :: spanContinuation rest (count - 1) else [])
    | [] => (count, [])

/-- The character of a first byte and the bytes that continue it. -/
def assemble (first : UInt8) (rest : List UInt8) : Char :=
  let lead := if rest.length = 1 then first.toNat % 32 else if rest.length = 2 then first.toNat % 16
    else first.toNat % 8
  Char.ofNat (rest.foldl (fun acc b => acc * 64 + b.toNat % 64) lead)

/-- The characters of some bytes, a replacement for each longest run of bytes that begins a character and breaks
off, and for each byte that begins none. -/
def decodeLossy : List UInt8 → List Char
  | [] => []
  | b :: rest =>
    if b < 0x80 then Char.ofNat b.toNat :: decodeLossy rest
    else
      match tail b rest with
      | none => replacement :: decodeLossy rest
      | some (count, found) =>
        (if found.length = count then assemble b found else replacement)
          :: decodeLossy (rest.drop found.length)
termination_by bytes => bytes.length
decreasing_by all_goals simp only [List.length_drop, List.length_cons]; omega

end ModelStore.Text
