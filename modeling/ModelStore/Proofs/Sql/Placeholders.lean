import ModelStore.Proofs.Sql.Pieces

/-!
# Placeholders and their parameters

A text is read from its start for the question marks that stand outside of quoted names and
literals.  In a text that comes in pieces these are the placeholders among the pieces, each at the
place where its piece begins.  So it can be said which parameter answers which placeholder: the
parameters have to be the values of the placeholders, one for one and in the same order.

## Main definitions

* `Sql.placesOf`: where the placeholders of a text stand.
* `Sql.holesOf`: where the placeholders among some pieces stand, each with its value.
* `Sql.Binds`: a text and parameters that answer its placeholders as some pieces say.

## Main results

* `Sql.placesFrom_textOf`: the placeholders of a text in pieces are those among its pieces.
* `Sql.Binds.of_pieces`: a text in pieces is answered by the values of its placeholders.
-/

namespace ModelStore.Sql

/-! ## The placeholders of a text -/

/-- The quote that a reader is inside of behind a character.  A quote that is written twice closes
and opens again. -/
def quoteBehind : Option Char → Char → Option Char
  | none, c => if c = '"' ∨ c = '\'' then some c else none
  | some quote, c => if c = quote then none else some quote

/-- The places of the placeholders in a text that begins at a place, inside of a quote or outside. -/
def placesFrom : Option Char → Nat → List Char → List Nat
  | _, _, [] => []
  | within, place, c :: cs =>
    let rest := placesFrom (quoteBehind within c) (place + 1) cs
    if within = none ∧ c = '?' then place :: rest else rest

/-- The places of the placeholders in a text. -/
def placesOf (sql : String) : List Nat := placesFrom none 0 sql.toList

/-- A question mark in a name is no placeholder. -/
example : placesOf "\"a?\" = ?" = [7] := by decide

/-! ## The placeholders among pieces -/

/-- The placeholders of a piece at a place: the place itself with the value, or none. -/
def Piece.holeAt (place : Nat) (piece : Piece) : List (Nat × Cell) :=
  piece.value?.toList.map fun value => (place, value)

/-- The placeholders among some pieces that begin at a place, each with its value. -/
def holesFrom (place : Nat) : List Piece → List (Nat × Cell)
  | [] => []
  | piece :: rest => piece.holeAt place ++ holesFrom (place + piece.chars.length) rest

/-- The places of the placeholders among some pieces, each with its value. -/
def holesOf (pieces : List Piece) : List (Nat × Cell) := holesFrom 0 pieces

/-- The values of the placeholders among some pieces do not depend on where the pieces stand. -/
theorem map_snd_holesFrom (place : Nat) (pieces : List Piece) :
    (holesFrom place pieces).map Prod.snd = valuesOf pieces := by
  induction pieces generalizing place with
  | nil => rfl
  | cons piece pieces ih =>
      rw [holesFrom, List.map_append, ih]
      cases piece <;> rfl

/-! ## Reading pieces -/

/-- Words and signs are passed. -/
theorem placesFrom_plain {cs : List Char}
    (hPlain : ∀ c ∈ cs, c ≠ '"' ∧ c ≠ '\'' ∧ c ≠ '?' ∧ c ≠ '\x00') (place : Nat)
    (rest : List Char) :
    placesFrom none place (cs ++ rest) = placesFrom none (place + cs.length) rest := by
  induction cs generalizing place with
  | nil => rfl
  | cons c cs ih =>
      obtain ⟨⟨hDouble, hSingle, hMark, -⟩, hRest⟩ := List.forall_mem_cons.mp hPlain
      rw [List.cons_append, placesFrom]
      simp [hMark, quoteBehind, hDouble, hSingle, ih hRest, Nat.add_assoc, Nat.add_comm 1]

/-- Inside of a quote everything is passed up to the closing one. -/
theorem placesFrom_doubled {quote : Char} (hQuote : quote = '"' ∨ quote = '\'')
    (content : List Char) (place : Nat) (rest : List Char) :
    placesFrom (some quote) place (doubled quote content ++ quote :: rest) =
      placesFrom none (place + (doubled quote content).length + 1) rest := by
  induction content generalizing place with
  | nil => simp [doubled, placesFrom, quoteBehind]
  | cons c content ih =>
      by_cases hc : c = quote
      · -- The quote that is written twice is passed at once: it closes and opens.
        have hPass : placesFrom (some quote) place
            (quote :: quote :: (doubled quote content ++ quote :: rest)) =
              placesFrom (some quote) (place + 1 + 1)
                (doubled quote content ++ quote :: rest) := by
          rcases hQuote with rfl | rfl <;> simp [placesFrom, quoteBehind]
        rw [doubled, if_pos hc, List.cons_append, List.cons_append, hPass, ih]
        congr 1
        simp only [List.length_cons]
        omega
      · rw [doubled, if_neg hc, List.cons_append, placesFrom]
        simp only [quoteBehind, if_neg hc, reduceCtorEq, false_and, if_false, ih]
        congr 1
        simp only [List.length_cons]
        omega

/-- Reading one piece finds its placeholder, if it is one. -/
theorem placesFrom_chars {piece : Piece} (hForm : piece.WellFormed) (place : Nat)
    (rest : List Char) :
    placesFrom none place (piece.chars ++ rest) =
      (piece.holeAt place).map Prod.fst ++ placesFrom none (place + piece.chars.length) rest := by
  cases piece with
  | plain text => exact placesFrom_plain hForm.2 place rest
  | quoted quote content =>
      have hOpen : placesFrom none place
          (quote :: (doubled quote content.toList ++ quote :: rest)) =
            placesFrom (some quote) (place + 1)
              (doubled quote content.toList ++ quote :: rest) := by
        rcases hForm with rfl | rfl <;> simp [placesFrom, quoteBehind]
      have hChars : (Piece.quoted quote content).chars =
          quote :: (doubled quote content.toList ++ [quote]) := by
        simp [Piece.chars, Sql.quoted]
      have hNone : (Piece.quoted quote content).holeAt place = [] := rfl
      rw [hNone, hChars, List.cons_append, List.append_assoc, List.singleton_append, hOpen,
        placesFrom_doubled hForm, List.map_nil, List.nil_append]
      congr 1
      simp only [List.length_cons, List.length_append, List.length_nil]
      omega
  | hole value => rfl

/-- **Placeholders of a text in pieces**: they are those among the pieces. -/
theorem placesFrom_textOf {pieces : List Piece} (hForm : ∀ piece ∈ pieces, piece.WellFormed)
    (place : Nat) :
    placesFrom none place (textOf pieces) = (holesFrom place pieces).map Prod.fst := by
  induction pieces generalizing place with
  | nil => rfl
  | cons piece pieces ih =>
      obtain ⟨hPiece, hPieces⟩ := List.forall_mem_cons.mp hForm
      rw [textOf_cons, placesFrom_chars hPiece, ih hPieces, holesFrom, List.map_append]

/-! ## Answering placeholders -/

/-- A text and parameters that answer its placeholders as some pieces say: the text is that of the
pieces, there is one parameter for each placeholder outside of quotes, and the placeholder at a
place is answered by the value that the piece at that place stands for. -/
structure Binds (sql : String) (params : List Cell) (pieces : List Piece) : Prop where
  text_eq : sql.toList = textOf pieces
  length_eq : (placesOf sql).length = params.length
  zip_eq : (placesOf sql).zip params = holesOf pieces

/-- A text in pieces is answered by the values of its placeholders. -/
theorem Binds.of_pieces {sql : String} {params : List Cell} {pieces : List Piece}
    (hForm : ∀ piece ∈ pieces, piece.WellFormed) (hText : sql.toList = textOf pieces)
    (hValues : valuesOf pieces = params) : Binds sql params pieces := by
  have hPlaces : placesOf sql = (holesOf pieces).map Prod.fst := by
    rw [placesOf, hText, placesFrom_textOf hForm, holesOf]
  have hParams : params = (holesOf pieces).map Prod.snd := by
    rw [holesOf, map_snd_holesFrom, hValues]
  refine ⟨hText, ?_, ?_⟩
  · rw [hPlaces, hParams, List.length_map, List.length_map]
  · rw [hPlaces, hParams, ← List.unzip_fst, ← List.unzip_snd, List.zip_unzip]

end ModelStore.Sql
