import Mathlib
import ModelStore.Sql.Expr
import ModelStore.Sql.Reading

/-!
# Texts in pieces

The text of a statement is a sequence of pieces: words and signs, quoted names and literals, and
placeholders, each for one value.  The pieces of a statement say what its text does not show: for
which value a placeholder stands.

Reading a text from its start passes over its pieces one after another.  A quote that is written
twice inside a quoted piece closes and opens it again, so a reader that knows only whether it is
inside of quotes comes out where the piece ends, provided that no two quoted pieces touch.

## Main definitions

* `Sql.Piece`, `Sql.textOf`, `Sql.valuesOf`: pieces, their text and the values of placeholders.
* `Sql.WellSpaced`: pieces of which no two quoted ones touch.

## Main results

* `Sql.readingFault_eq_none_iff`: a text in pieces is read without a fault just if no quoted piece
  breaks it off and it has no more placeholders than there may be.
* `Sql.isReadingFault_of_readingFault`: a text can have no other fault.
-/

namespace ModelStore.Sql

/-! ## Pieces -/

/-- A piece of a text. -/
inductive Piece where
  /-- Words and signs. -/
  | plain (text : String)
  /-- A name or a literal between its quotes. -/
  | quoted (quote : Char) (content : String)
  /-- A placeholder, and the value that it stands for. -/
  | hole (value : Cell)
  deriving DecidableEq, Repr, Inhabited

namespace Piece

/-- The characters of a piece. -/
def chars : Piece → List Char
  | plain text => text.toList
  | quoted quote content => (Sql.quoted quote content).toList
  | hole _ => ['?']

/-- The value of a placeholder. -/
def value? : Piece → Option Cell
  | hole value => some value
  | _ => none

/-- Whether a piece stands between quotes. -/
def isQuoted : Piece → Bool
  | quoted .. => true
  | _ => false

/-- Whether a reader passes a piece: a null character breaks off a quoted one. -/
def isReadable : Piece → Bool
  | quoted _ content => !content.toList.contains '\x00'
  | _ => true

/-- Texts that hold neither quotes nor placeholders nor null characters. -/
def IsPlain (text : String) : Prop :=
  ∀ c ∈ text.toList, c ≠ '"' ∧ c ≠ '\'' ∧ c ≠ '?' ∧ c ≠ '\x00'

instance (text : String) : Decidable (IsPlain text) :=
  inferInstanceAs (Decidable (∀ c ∈ text.toList, c ≠ '"' ∧ c ≠ '\'' ∧ c ≠ '?' ∧ c ≠ '\x00'))

/-- What makes a piece what it is called. -/
def WellFormed : Piece → Prop
  | plain text => text.toList ≠ [] ∧ IsPlain text
  | quoted quote _ => quote = '"' ∨ quote = '\''
  | hole _ => True

instance : (piece : Piece) → Decidable piece.WellFormed
  | plain text => inferInstanceAs (Decidable (text.toList ≠ [] ∧ IsPlain text))
  | quoted quote _ => inferInstanceAs (Decidable (quote = '"' ∨ quote = '\''))
  | hole _ => inferInstanceAs (Decidable True)

/-- The quoted piece of a name. -/
def name (content : String) : Piece := quoted '"' content

theorem IsPlain.append {a b : String} (ha : IsPlain a) (hb : IsPlain b) : IsPlain (a ++ b) := by
  intro c hc
  rcases List.mem_append.mp (String.toList_append ▸ hc) with h | h
  · exact ha c h
  · exact hb c h

/-- A number is written without quotes and placeholders. -/
theorem isPlain_repr (n : Nat) : IsPlain n.repr := by
  intro c hc
  have hDigit : c.isDigit = true :=
    Nat.isDigit_of_mem_toDigits (b := 10) (by decide) (by decide) (Nat.toList_repr ▸ hc)
  refine ⟨?_, ?_, ?_, ?_⟩ <;> rintro rfl <;> revert hDigit <;> decide

theorem isPlain_ofInt (i : Int) : IsPlain (toString i) := by
  rw [Int.toString_eq_repr, Int.repr_eq_if]
  split
  · exact isPlain_repr _
  · have hSign : IsPlain "-" := by simp [IsPlain]
    exact hSign.append (isPlain_repr _)

end Piece

/-- The text of some pieces. -/
def textOf (pieces : List Piece) : List Char := pieces.flatMap Piece.chars

/-- The values of the placeholders among some pieces, in order. -/
def valuesOf (pieces : List Piece) : List Cell := pieces.filterMap Piece.value?

@[simp] theorem textOf_nil : textOf [] = [] := rfl

@[simp] theorem textOf_cons (piece : Piece) (rest : List Piece) :
    textOf (piece :: rest) = piece.chars ++ textOf rest := rfl

@[simp] theorem textOf_append (pieces others : List Piece) :
    textOf (pieces ++ others) = textOf pieces ++ textOf others :=
  List.flatMap_append

@[simp] theorem valuesOf_nil : valuesOf [] = [] := rfl

@[simp] theorem valuesOf_append (pieces others : List Piece) :
    valuesOf (pieces ++ others) = valuesOf pieces ++ valuesOf others :=
  List.filterMap_append

@[simp] theorem valuesOf_plain (text : String) (rest : List Piece) :
    valuesOf (.plain text :: rest) = valuesOf rest := rfl

@[simp] theorem valuesOf_quoted (quote : Char) (content : String) (rest : List Piece) :
    valuesOf (.quoted quote content :: rest) = valuesOf rest := rfl

@[simp] theorem valuesOf_name (content : String) (rest : List Piece) :
    valuesOf (.name content :: rest) = valuesOf rest := rfl

@[simp] theorem valuesOf_hole (value : Cell) (rest : List Piece) :
    valuesOf (.hole value :: rest) = value :: valuesOf rest := rfl

@[simp] theorem chars_plain (text : String) : (Piece.plain text).chars = text.toList := rfl

@[simp] theorem chars_name (content : String) :
    (Piece.name content).chars = (quoteName content).toList := rfl

@[simp] theorem chars_hole (value : Cell) : (Piece.hole value).chars = ['?'] := rfl

@[simp] theorem isReadable_plain (text : String) : (Piece.plain text).isReadable = true := rfl

@[simp] theorem isReadable_hole (value : Cell) : (Piece.hole value).isReadable = true := rfl

/-! ## Spacing -/

/-- Pieces that are what they are called, and of which no two quoted ones touch. -/
def WellSpaced (pieces : List Piece) : Prop :=
  (∀ piece ∈ pieces, piece.WellFormed) ∧
    pieces.IsChain fun a b => ¬(a.isQuoted = true ∧ b.isQuoted = true)

theorem WellSpaced.nil : WellSpaced [] := ⟨by simp, List.isChain_nil⟩

/-- A piece that is not quoted can stand before any others. -/
theorem WellSpaced.cons {piece : Piece} {rest : List Piece} (hRest : WellSpaced rest)
    (hForm : piece.WellFormed) (hQuoted : piece.isQuoted = false) :
    WellSpaced (piece :: rest) := by
  refine ⟨by simpa [hForm] using hRest.1, ?_⟩
  cases rest with
  | nil => exact List.isChain_singleton _
  | cons b rest => exact List.isChain_cons_cons.mpr ⟨by simp [hQuoted], hRest.2⟩

/-- A piece of any kind can stand before one that is not quoted. -/
theorem WellSpaced.cons_cons {piece next : Piece} {rest : List Piece}
    (hRest : WellSpaced (next :: rest)) (hForm : piece.WellFormed)
    (hQuoted : next.isQuoted = false) : WellSpaced (piece :: next :: rest) := by
  refine ⟨by simpa [hForm] using hRest.1, ?_⟩
  exact List.isChain_cons_cons.mpr ⟨by simp [hQuoted], hRest.2⟩

/-- Pieces can be put together where one that is not quoted begins the second part. -/
theorem WellSpaced.append {pieces others : List Piece} (hPieces : WellSpaced pieces)
    (hOthers : WellSpaced others) (hHead : ∀ piece ∈ others.head?, piece.isQuoted = false) :
    WellSpaced (pieces ++ others) := by
  constructor
  · intro piece hMem
    rcases List.mem_append.mp hMem with h | h
    · exact hPieces.1 piece h
    · exact hOthers.1 piece h
  · refine List.isChain_append.mpr ⟨hPieces.2, hOthers.2, fun a _ b hb => ?_⟩
    simp [hHead b hb]

/-- What begins with no quoted piece, or is empty, can stand before what does not either. -/
theorem head?_append_isQuoted {pieces others : List Piece}
    (hPieces : ∀ piece ∈ pieces.head?, piece.isQuoted = false)
    (hOthers : ∀ piece ∈ others.head?, piece.isQuoted = false) :
    ∀ piece ∈ (pieces ++ others).head?, piece.isQuoted = false := by
  cases pieces with
  | nil => exact hOthers
  | cons first pieces => exact hPieces

theorem WellSpaced.singleton {piece : Piece} (hForm : piece.WellFormed) : WellSpaced [piece] :=
  ⟨by simpa using hForm, List.isChain_singleton _⟩

/-- Parts that are well spaced stay so between separators that are not quoted. -/
theorem WellSpaced.intercalate {text : String} (hText : (Piece.plain text).WellFormed)
    {parts : List (List Piece)} (hParts : ∀ part ∈ parts, WellSpaced part) :
    WellSpaced ([Piece.plain text].intercalate parts) := by
  induction parts with
  | nil => exact WellSpaced.nil
  | cons part parts ih =>
      have hPart : WellSpaced part := hParts part (by simp)
      have hRest := ih fun p hp => hParts p (by simp [hp])
      cases parts with
      | nil => simpa using hPart
      | cons other parts =>
          rw [List.intercalate_cons_cons]
          rw [List.append_assoc]
          refine hPart.append (hRest.cons hText rfl) ?_
          intro piece hPiece
          simp only [List.cons_append, List.nil_append, List.head?_cons,
            Option.mem_some_iff] at hPiece
          subst hPiece
          rfl

/-- The text of parts between separators. -/
theorem textOf_intercalate (text : String) (parts : List (List Piece)) :
    textOf ([Piece.plain text].intercalate parts) =
      text.toList.intercalate (parts.map textOf) := by
  induction parts with
  | nil => rfl
  | cons part parts ih =>
      cases parts with
      | nil => simp
      | cons other parts =>
          simp only [List.intercalate_cons_cons, List.map_cons, textOf_append, textOf_cons,
            textOf_nil, chars_plain, List.append_nil] at ih ⊢
          rw [ih]

/-- The values of parts between separators. -/
theorem valuesOf_intercalate (text : String) (parts : List (List Piece)) :
    valuesOf ([Piece.plain text].intercalate parts) = parts.flatMap valuesOf := by
  induction parts with
  | nil => rfl
  | cons part parts ih =>
      cases parts with
      | nil => simp
      | cons other parts =>
          rw [List.intercalate_cons_cons, valuesOf_append, valuesOf_append, ih]
          simp

/-- What holds of the separator holds of parts between separators just if it holds of all parts. -/
theorem forall_mem_intercalate {motive : Piece → Prop} {text : String}
    (hText : motive (.plain text)) (parts : List (List Piece)) :
    (∀ piece ∈ [Piece.plain text].intercalate parts, motive piece) ↔
      ∀ part ∈ parts, ∀ piece ∈ part, motive piece := by
  induction parts with
  | nil => simp [List.intercalate]
  | cons part parts ih =>
      cases parts with
      | nil => simp
      | cons other parts =>
          rw [List.intercalate_cons_cons, List.forall_mem_append, List.forall_mem_append, ih]
          simp [hText]

/-! ## Null characters -/

/-- Doubling quotes adds no other characters. -/
theorem mem_doubled {quote c : Char} {content : List Char} :
    c ∈ doubled quote content ↔ c ∈ content := by
  induction content with
  | nil => simp [doubled]
  | cons d content ih =>
      by_cases hd : d = quote
      · simp [doubled, hd, ih]
      · simp [doubled, hd, ih]

/-- A piece can be read just if no null character stands in it. -/
theorem Piece.isReadable_iff {piece : Piece} (hForm : piece.WellFormed) :
    piece.isReadable = true ↔ '\x00' ∉ piece.chars := by
  cases piece with
  | plain text =>
      refine ⟨fun _ hNul => ?_, fun _ => rfl⟩
      exact (hForm.2 _ hNul).2.2.2 rfl
  | quoted quote content =>
      have hQuote : quote ≠ '\x00' := by rcases hForm with rfl | rfl <;> decide
      simp [Piece.isReadable, Piece.chars, Sql.quoted, mem_doubled, hQuote.symm]
  | hole value => simp [Piece.isReadable]

/-- Pieces can be read just if no null character stands in their text. -/
theorem readable_iff {pieces : List Piece} (hForm : ∀ piece ∈ pieces, piece.WellFormed) :
    (∀ piece ∈ pieces, piece.isReadable = true) ↔ '\x00' ∉ textOf pieces := by
  have hEach : (∀ piece ∈ pieces, piece.isReadable = true) ↔
      ∀ piece ∈ pieces, '\x00' ∉ piece.chars :=
    forall₂_congr fun piece hMem => Piece.isReadable_iff (hForm piece hMem)
  rw [hEach]
  simp [textOf]

/-! ## Reading -/

/-- A reader outside of quotes. -/
def Progress.AtRest (progress : Progress) : Prop :=
  ∀ token ∈ progress.token, token.isOpen = false ∧ (token.quote = '"' ∨ token.quote = '\'')

theorem Progress.AtRest.of_none {progress : Progress} (hToken : progress.token = none) :
    progress.AtRest := by
  simp [Progress.AtRest, hToken]

/-- The fold of a reader goes on behind a character that is read. -/
theorem foldlM_read_cons {sql : String} {progress next : Progress} {c : Char} {cs : List Char}
    (hStep : progress.read sql c = .ok next) :
    (c :: cs).foldlM (Progress.read sql) progress = cs.foldlM (Progress.read sql) next := by
  rw [List.foldlM_cons, hStep]
  rfl

/-- The fold of a reader ends with a character that is not read. -/
theorem foldlM_read_cons_error {sql : String} {progress : Progress} {c : Char} {cs : List Char}
    {e : StoreError} (hStep : progress.read sql c = .error e) :
    (c :: cs).foldlM (Progress.read sql) progress = .error e := by
  rw [List.foldlM_cons, hStep]
  rfl

/-- Outside of quotes a reader takes a character other than a quote for what it is. -/
theorem read_of_atRest (sql : String) {progress : Progress} (hRest : progress.AtRest) {c : Char}
    (hDouble : c ≠ '"') (hSingle : c ≠ '\'') :
    progress.read sql c = progress.readPlain sql c := by
  unfold Progress.read
  cases hToken : progress.token with
  | none => rfl
  | some token =>
      obtain ⟨hClosed, hQuote⟩ := hRest token hToken
      have hc : c ≠ token.quote := by
        rcases hQuote with hQuote | hQuote <;> rw [hQuote] <;> assumption
      simp [hClosed, hc]

/-- Inside of quotes a reader keeps every character but a null one, and a quote closes. -/
theorem read_of_open (sql : String) {progress : Progress} {token : QuotedToken}
    (hToken : progress.token = some token) (hOpen : token.isOpen = true) {c : Char}
    (hNull : c ≠ '\x00') :
    progress.read sql c =
      .ok
        { progress with
          offset := progress.offset + c.utf8Size
          token :=
            some { token with chars := c :: token.chars, isOpen := !(c == token.quote) } } := by
  simp [Progress.read, hToken, hOpen, hNull]

/-- Behind a closing quote the same quote opens the token again. -/
theorem read_of_closed (sql : String) {progress : Progress} {token : QuotedToken}
    (hToken : progress.token = some token) (hClosed : token.isOpen = false) :
    progress.read sql token.quote =
      .ok
        { progress with
          offset := progress.offset + token.quote.utf8Size
          token := some { token with chars := token.quote :: token.chars, isOpen := true } } := by
  simp [Progress.read, hToken, hClosed]

/-- Words and signs leave a reader outside of quotes. -/
theorem read_plain (sql : String) {cs : List Char}
    (hPlain : ∀ c ∈ cs, c ≠ '"' ∧ c ≠ '\'' ∧ c ≠ '?' ∧ c ≠ '\x00') :
    ∀ {progress : Progress}, progress.AtRest → cs ≠ [] →
      ∃ next, cs.foldlM (Progress.read sql) progress = .ok next ∧
        next.token = none ∧ next.placeholders = progress.placeholders := by
  induction cs with
  | nil => intro progress _ hNil; exact absurd rfl hNil
  | cons c cs ih =>
      intro progress hRest _
      obtain ⟨hDouble, hSingle, hMark, -⟩ := hPlain c (by simp)
      have hStep : progress.read sql c =
          .ok ⟨progress.offset + c.utf8Size, progress.placeholders, none⟩ := by
        rw [read_of_atRest sql hRest hDouble hSingle]
        simp [Progress.readPlain, hDouble, hSingle, hMark]
      rw [foldlM_read_cons hStep]
      by_cases hcs : cs = []
      · subst hcs
        exact ⟨_, rfl, rfl, rfl⟩
      · exact ih (fun d hd => hPlain d (by simp [hd])) (.of_none rfl) hcs

/-- A placeholder counts, as long as there are not too many of them. -/
theorem read_hole (sql : String) {progress : Progress} (hRest : progress.AtRest) :
    ((∃ next, ['?'].foldlM (Progress.read sql) progress = .ok next ∧ next.token = none ∧
        next.placeholders = progress.placeholders + 1) ∧
      progress.placeholders < placeholderLimit) ∨
    (∃ e, ['?'].foldlM (Progress.read sql) progress = .error e) ∧
      placeholderLimit ≤ progress.placeholders := by
  have hRead := read_of_atRest sql hRest (c := '?') (by decide) (by decide)
  by_cases hLimit : progress.placeholders < placeholderLimit
  · have hStep : progress.read sql '?' =
        .ok ⟨progress.offset + '?'.utf8Size, progress.placeholders + 1, none⟩ := by
      rw [hRead]
      simp [Progress.readPlain, hLimit]
    exact .inl ⟨⟨_, foldlM_read_cons hStep, rfl, rfl⟩, hLimit⟩
  · have hStep : progress.read sql '?' =
        .error (.tooManyVariables ⟨sql, progress.offset⟩) := by
      rw [hRead]
      simp [Progress.readPlain, hLimit]
    exact .inr ⟨⟨_, foldlM_read_cons_error hStep⟩, by omega⟩

/-- Inside of quotes a reader comes to the closing quote, unless a null character stands before
it. -/
theorem read_quoted_rest (sql : String) {quote : Char} (hNull : quote ≠ '\x00')
    (content : List Char) :
    ∀ {progress : Progress} {token : QuotedToken}, progress.token = some token →
      token.isOpen = true → token.quote = quote →
      ((∃ next closed,
        (doubled quote content ++ [quote]).foldlM (Progress.read sql) progress = .ok next ∧
          next.token = some closed ∧ closed.isOpen = false ∧ closed.quote = quote ∧
          next.placeholders = progress.placeholders) ∧ '\x00' ∉ content) ∨
      (∃ e, (doubled quote content ++ [quote]).foldlM (Progress.read sql) progress = .error e) ∧
        '\x00' ∈ content := by
  induction content with
  | nil =>
      intro progress token hToken hOpen hQuote
      subst hQuote
      left
      refine ⟨⟨_, _, foldlM_read_cons (read_of_open sql hToken hOpen hNull), rfl, ?_, rfl, rfl⟩, ?_⟩
      · simp
      · simp
  | cons c content ih =>
      intro progress token hToken hOpen hQuote
      subst hQuote
      by_cases hc : c = token.quote
      · -- A quote that is written twice closes the token and opens it again.
        subst hc
        have hFirst := read_of_open sql hToken hOpen hNull
        rw [beq_self_eq_true, Bool.not_true] at hFirst
        have hSecond := read_of_closed sql
          (show ({ progress with
              offset := progress.offset + token.quote.utf8Size
              token := some { token with chars := token.quote :: token.chars, isOpen := false } } :
            Progress).token = some _ from rfl) rfl
        rw [show doubled token.quote (token.quote :: content) ++ [token.quote] =
          token.quote :: token.quote :: (doubled token.quote content ++ [token.quote]) by
            simp [doubled]]
        rw [foldlM_read_cons hFirst, foldlM_read_cons hSecond]
        have hMem : '\x00' ∈ token.quote :: content ↔ '\x00' ∈ content := by
          simp [Ne.symm hNull]
        rw [hMem]
        exact ih rfl rfl rfl
      · rw [show doubled token.quote (c :: content) ++ [token.quote] =
          c :: (doubled token.quote content ++ [token.quote]) by simp [doubled, hc]]
        by_cases hNul : c = '\x00'
        · right
          have hStep : progress.read sql c = .error
              (.unrecognizedToken (String.ofList token.chars.reverse) ⟨sql, token.start⟩) := by
            simp [Progress.read, hToken, hOpen, hNul]
          exact ⟨⟨_, foldlM_read_cons_error hStep⟩, by simp [hNul]⟩
        · rw [foldlM_read_cons (read_of_open sql hToken hOpen hNul)]
          have hMem : '\x00' ∈ c :: content ↔ '\x00' ∈ content := by
            simp [Ne.symm hNul]
          rw [hMem]
          exact ih rfl (by simp [hc]) rfl

/-- Where no quote stands before it, a quoted piece is read up to its closing quote, unless it is
broken off. -/
theorem read_quoted (sql : String) {quote : Char} (hQuote : quote = '"' ∨ quote = '\'')
    (content : String) {progress : Progress} (hToken : progress.token = none) :
    ((∃ next, (Sql.quoted quote content).toList.foldlM (Progress.read sql) progress = .ok next ∧
        next.AtRest ∧ next.placeholders = progress.placeholders) ∧
      '\x00' ∉ content.toList) ∨
    (∃ e, (Sql.quoted quote content).toList.foldlM (Progress.read sql) progress = .error e) ∧
      '\x00' ∈ content.toList := by
  have hNull : quote ≠ '\x00' := by rcases hQuote with rfl | rfl <;> decide
  have hStart : progress.read sql quote =
      .ok
        ⟨progress.offset + quote.utf8Size, progress.placeholders,
          some ⟨quote, progress.offset, [quote], true⟩⟩ := by
    simp [Progress.read, hToken, Progress.readPlain, hQuote]
  rw [show (Sql.quoted quote content).toList =
    quote :: (doubled quote content.toList ++ [quote]) by simp [Sql.quoted]]
  rw [foldlM_read_cons hStart]
  have hInside := read_quoted_rest sql hNull content.toList
    (show (⟨progress.offset + quote.utf8Size, progress.placeholders,
      some ⟨quote, progress.offset, [quote], true⟩⟩ : Progress).token = some _ from rfl) rfl rfl
  rcases hInside with ⟨⟨next, closed, hNext, hClosed, hIs, hq, hCount⟩, hFree⟩ | hError
  · refine .inl ⟨⟨next, hNext, ?_, hCount⟩, hFree⟩
    intro token hMem
    rw [hClosed] at hMem
    obtain rfl := Option.mem_some_iff.mp hMem
    exact ⟨hIs, hq ▸ hQuote⟩
  · exact .inr hError

/-- Reading one piece. -/
theorem read_piece (sql : String) {piece : Piece} (hForm : piece.WellFormed)
    {progress : Progress} (hRest : progress.AtRest)
    (hToken : piece.isQuoted = true → progress.token = none) :
    ((∃ next, piece.chars.foldlM (Progress.read sql) progress = .ok next ∧ next.AtRest ∧
        (piece.isQuoted = false → next.token = none) ∧
        next.placeholders = progress.placeholders + (valuesOf [piece]).length) ∧
      piece.isReadable = true ∧
      (progress.placeholders ≤ placeholderLimit →
        progress.placeholders + (valuesOf [piece]).length ≤ placeholderLimit)) ∨
    (∃ e, piece.chars.foldlM (Progress.read sql) progress = .error e) ∧
      (piece.isReadable = false ∨
        placeholderLimit < progress.placeholders + (valuesOf [piece]).length) := by
  cases piece with
  | plain text =>
      obtain ⟨next, hNext, hNone, hCount⟩ := read_plain sql hForm.2 hRest hForm.1
      exact .inl ⟨⟨next, hNext, .of_none hNone, fun _ => hNone, hCount⟩, rfl, fun h => h⟩
  | quoted quote content =>
      rcases read_quoted sql hForm content (hToken rfl) with
        ⟨⟨next, hNext, hAtRest, hCount⟩, hFree⟩ | ⟨hError, hMem⟩
      · refine .inl ⟨⟨next, hNext, hAtRest, by simp [Piece.isQuoted], hCount⟩, ?_, fun h => h⟩
        simpa [Piece.isReadable] using hFree
      · exact .inr ⟨hError, .inl (by simpa [Piece.isReadable] using hMem)⟩
  | hole value =>
      rcases read_hole sql hRest with ⟨⟨next, hNext, hNone, hCount⟩, hLimit⟩ | ⟨hError, hLimit⟩
      · exact .inl ⟨⟨next, hNext, .of_none hNone, fun _ => hNone, hCount⟩, rfl, fun _ => hLimit⟩
      · exact .inr ⟨hError, .inr (Nat.lt_succ_of_le hLimit)⟩

/-- Reading some pieces: they are passed, and their placeholders counted, just if all of them can
be read and there are not too many placeholders. -/
theorem read_pieces (sql : String) {pieces : List Piece} :
    ∀ {progress : Progress}, WellSpaced pieces → progress.AtRest →
      progress.placeholders ≤ placeholderLimit →
      (∀ piece ∈ pieces.head?, piece.isQuoted = true → progress.token = none) →
      ((∃ next, (textOf pieces).foldlM (Progress.read sql) progress = .ok next) ↔
        (∀ piece ∈ pieces, piece.isReadable = true) ∧
          progress.placeholders + (valuesOf pieces).length ≤ placeholderLimit) := by
  induction pieces with
  | nil =>
      intro progress _ _ hLimit _
      exact ⟨fun _ => ⟨by simp, hLimit⟩, fun _ => ⟨progress, rfl⟩⟩
  | cons piece pieces ih =>
      intro progress hSpaced hRest hLimit hHead
      have hValues : (valuesOf (piece :: pieces)).length =
          (valuesOf [piece]).length + (valuesOf pieces).length := by
        rw [← List.length_append, ← valuesOf_append]
        rfl
      rw [textOf_cons, List.foldlM_append, hValues]
      rcases read_piece sql (hSpaced.1 piece (by simp)) hRest (hHead piece (by simp)) with
        ⟨⟨next, hNext, hAtRest, hNone, hCount⟩, hReadable, hStill⟩ | ⟨⟨e, hError⟩, hBad⟩
      · have hTail : WellSpaced pieces :=
          ⟨fun p hp => hSpaced.1 p (by simp [hp]), hSpaced.2.tail⟩
        have hNextHead : ∀ p ∈ pieces.head?, p.isQuoted = true → next.token = none := by
          intro p hp hQuoted
          refine hNone ?_
          cases pieces with
          | nil => simp at hp
          | cons other rest =>
              obtain rfl := Option.mem_some_iff.mp hp
              have hChain := (List.isChain_cons_cons.mp hSpaced.2).1
              simpa [hQuoted] using hChain
        have hRestRead := ih hTail hAtRest (hCount ▸ hStill hLimit) hNextHead
        rw [hNext]
        rw [hCount, Nat.add_assoc] at hRestRead
        rw [List.forall_mem_cons, and_iff_right hReadable]
        exact hRestRead
      · rw [hError]
        constructor
        · rintro ⟨next, hNext⟩
          cases hNext
        · rintro ⟨hReadable, hCount⟩
          rcases hBad with hBad | hBad
          · rw [hReadable piece (by simp)] at hBad
            cases hBad
          · omega

/-- **Reading a text in pieces**: it has no fault just if no null character breaks off a quoted
piece and there are not too many placeholders. -/
theorem readingFault_eq_none_iff {sql : String} {pieces : List Piece} (hSpaced : WellSpaced pieces)
    (hText : sql.toList = textOf pieces) :
    readingFault sql = none ↔
      (∀ piece ∈ pieces, piece.isReadable = true) ∧
        (valuesOf pieces).length ≤ placeholderLimit := by
  have hStart : Progress.start.AtRest := .of_none rfl
  have hRead := read_pieces sql hSpaced hStart (Nat.zero_le _) fun _ _ _ => rfl
  rw [show Progress.start.placeholders = 0 from rfl, Nat.zero_add] at hRead
  rw [← hRead, ← hText]
  unfold readingFault
  cases sql.toList.foldlM (Progress.read sql) Progress.start with
  | ok next => simp
  | error e => simp

/-! ## Faults -/

/-- The faults that reading a text can show: a quoted token that is broken off, and a placeholder
too many. -/
inductive IsReadingFault : StoreError → Prop where
  | unrecognizedToken (token : String) (site : Site) : IsReadingFault (.unrecognizedToken token site)
  | tooManyVariables (site : Site) : IsReadingFault (.tooManyVariables site)

theorem isReadingFault_of_readPlain {sql : String} {progress : Progress} {c : Char}
    {e : StoreError} (hRead : progress.readPlain sql c = .error e) : IsReadingFault e := by
  unfold Progress.readPlain at hRead
  dsimp only at hRead
  split at hRead
  · cases hRead
  · split at hRead
    · cases hRead
    · split at hRead
      · cases hRead
      · cases hRead
        exact .tooManyVariables _

theorem isReadingFault_of_read {sql : String} {progress : Progress} {c : Char} {e : StoreError}
    (hRead : progress.read sql c = .error e) : IsReadingFault e := by
  unfold Progress.read at hRead
  split at hRead
  · exact isReadingFault_of_readPlain hRead
  · dsimp only at hRead
    split at hRead
    · split at hRead
      · cases hRead
        exact .unrecognizedToken _ _
      · cases hRead
    · split at hRead
      · cases hRead
      · exact isReadingFault_of_readPlain hRead

theorem isReadingFault_of_foldlM {sql : String} {cs : List Char} {e : StoreError} :
    ∀ {progress : Progress}, cs.foldlM (Progress.read sql) progress = .error e →
      IsReadingFault e := by
  induction cs with
  | nil => intro progress hSteps; cases hSteps
  | cons c cs ih =>
      intro progress hSteps
      cases hFirst : progress.read sql c with
      | error other =>
          rw [foldlM_read_cons_error hFirst] at hSteps
          rw [← Except.error.inj hSteps]
          exact isReadingFault_of_read hFirst
      | ok next =>
          rw [foldlM_read_cons hFirst] at hSteps
          exact ih hSteps

/-- **Faults**: a text has no other faults than these. -/
theorem isReadingFault_of_readingFault {sql : String} {e : StoreError}
    (hFault : readingFault sql = some e) : IsReadingFault e := by
  unfold readingFault at hFault
  split at hFault
  · cases hFault
  · rename_i hRead
    cases hFault
    exact isReadingFault_of_foldlM hRead

end ModelStore.Sql
