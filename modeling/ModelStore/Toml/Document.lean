import ModelStore.Toml.Basic
import ModelStore.Toml.Reader

/-!
# What documents say

The lines of a document are taken one by one. The pairs below a header make a table of their own, which gets its place
when the next header comes or the document ends. A failure is the offset at which the document stops making sense; one
of form counts before all others.

## Main definitions

* `Item.ofForm`: what a value says.
* `Toml.parse`: what a document says.
-/

namespace ModelStore.Toml

/-! ## Keys -/

/-- The greatest number of parts of a key. -/
def partLimit : Nat := 80

/-- The name that a piece stands for. A name has one line, and without quotes only letters, digits, `_` and `-`. -/
def KeyPart.ofPiece (piece : Piece) : Except Nat KeyPart := do
  match piece.quotes with
  | some quotes =>
    if quotes.lines then throw piece.start else return (← quotes.text piece.start piece.chars, piece.start)
  | none =>
    let good := piece.chars.takeWhile fun c => c.isAlphanum || c == '_' || c == '-'
    if piece.chars.isEmpty || good.length < piece.chars.length then throw (piece.start + good.length)
    else return (String.ofList piece.chars, piece.start)

/-- The parts of a key before the last one, and the last one. -/
def keyOf (pieces : List Piece) : Except Nat (List KeyPart × KeyPart) := do
  let parts ← pieces.mapM KeyPart.ofPiece
  if partLimit < parts.length then throw ((parts.headD default).2)
  else return (parts.dropLast, parts.getLastD default)

/-! ## Values -/

mutual

/-- What a value says. -/
def Item.ofForm : Form → Except Nat Item
  | .scalar piece => do return .scalar (← Scalar.ofPiece piece)
  | .list _ items => do return .list (← itemsOf items)
  | .inlined _ pairs => do return .inlined (← entriesOf [] pairs)

/-- What the items of a list say. -/
def itemsOf : List Form → Except Nat (List (Nat × Item))
  | [] => return []
  | form :: rest => do
    let item ← Item.ofForm form
    return (form.start, item) :: (← itemsOf rest)

/-- What the pairs of an inline table say, behind earlier ones. -/
def entriesOf (entries : Entries) : List (List Piece × Form) → Except Nat Entries
  | [] => return entries
  | (pieces, form) :: rest => do
    let (init, last) ← keyOf pieces
    let item ← Item.ofForm form
    entriesOf (← entries.addPair init last form.start item) rest

end

/-! ## Lines -/

/-- A header with its key and its offset. -/
structure Header where
  element : Bool
  start : Nat
  init : List KeyPart
  last : KeyPart
  deriving Repr, Inhabited

/-- What some lines have made: the document, the header they stand under, and the table below it. Without a header that
table is the document itself. -/
structure Draft where
  root : Entries
  header : Option Header
  current : Entries
  deriving Inhabited

namespace Draft

/-- The document, with the latest table in its place. -/
def close (draft : Draft) : Except Nat Entries :=
  match draft.header with
  | none => .ok draft.current
  | some header =>
    if header.element then draft.root.putElement header.init header.last header.start draft.current
    else draft.root.putTable header.init header.last header.start draft.current

/-- Takes one more line. -/
def add (draft : Draft) : Line → Except Nat Draft
  | .header element start pieces => do
    let root ← draft.close
    let (init, last) ← keyOf pieces
    let current ← if element then pure [] else root.underHeader init last
    return ⟨root, some ⟨element, start, init, last⟩, current⟩
  | .pair pieces form => do
    let (init, last) ← keyOf pieces
    let item ← Item.ofForm form
    return { draft with current := ← draft.current.addPair init last form.start item }

end Draft

/-- What a document says, or the offset at which it stops making sense. -/
def parse (text : String) : Except Nat Entries := do
  let lines ← Line.ofText text
  (← lines.foldlM Draft.add ⟨[], none, []⟩).close

end ModelStore.Toml
