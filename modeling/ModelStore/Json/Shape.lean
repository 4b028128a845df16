import ModelStore.Json.Reader

/-!
# Shapes of JSON inputs

What a call expects is described once, as a shape, and read from two sources: from a value that is already
at hand, or from text, where the failures carry places. A shape is a program over the operations of `Source`.

A record is read field by field into a draft, in the order of the input, so the first fault of the input is the
one that is reported; what is missing is found out at the end. A list may stand for a record: its items are
then the fields in the order of the shape.

## Main definitions

* `Source`: the operations of a source; `FromValue` and `Reader` are its two instances.
* `RecordShape`: the fields of a record.
-/

namespace ModelStore.Json

/-! ## Records -/

/-- One field of a record with drafts `δ`, in a source `m`. A list that stands for the record has to hold what is
required. -/
structure FieldShape (m : Type → Type) (δ : Type) where
  name : String
  required : Bool
  filled : δ → Bool
  read : m (δ → δ)

/-- A record that is read into drafts `δ` and ends as an `α`. A closed record refuses other fields than its own. -/
structure RecordShape (m : Type → Type) (δ α : Type) where
  name : String
  closed : Bool
  fields : List (FieldShape m δ)
  start : δ
  finish : δ → Except Cause α

/-- How messages name a record. -/
def RecordShape.expected {m : Type → Type} {δ α : Type} (shape : RecordShape m δ α) : String :=
  "struct " ++ shape.name

/-- How messages name a record of which a list has too few items. -/
def RecordShape.expectedItems {m : Type → Type} {δ α : Type} (shape : RecordShape m δ α) : String :=
  shape.expected ++ " with " ++ toString shape.fields.length ++
    (if shape.fields.length = 1 then " element" else " elements")

/-- The names of the fields. -/
def RecordShape.names {m : Type → Type} {δ α : Type} (shape : RecordShape m δ α) : List String :=
  shape.fields.map (·.name)

/-- The field of the name given. -/
def RecordShape.field? {m : Type → Type} {δ α : Type} (shape : RecordShape m δ α) (name : String) :
    Option (FieldShape m δ) :=
  shape.fields.find? (·.name == name)

/-- A part of a draft that has to be there. -/
def require {α : Type} (name : String) : Option α → Except Cause α
  | some value => .ok value
  | none => .error (.missingField name)

/-! ## Sources -/

/-- The ways in which a source of JSON can be read. -/
class Source (m : Type → Type) where
  /-- Any value. -/
  value : m Json
  /-- A text. -/
  text : m String
  /-- An object, as it is. -/
  object : m (Fields Json)
  /-- An object of booleans. -/
  flags : m (Fields Bool)
  /-- A natural number below `2 ^ 32`. -/
  count : m Nat
  /-- One of some names, alone or as the key of a null. -/
  choice : List String → m String
  /-- Null, or what another shape reads. -/
  optional : {α : Type} → m α → m (Option α)
  /-- What a shape reads, changed. -/
  convert : {α β : Type} → m α → (α → β) → m β
  /-- What a shape reads, unless a conversion gives a reason against it. -/
  refine : {α β : Type} → m α → (α → Except String β) → m β
  /-- A record. -/
  record : {δ α : Type} → RecordShape m δ α → m α

/-- One past the greatest count. -/
def countLimit : Int := 4294967296

/-- A count, of an integer. -/
def countOf (i : Int) : Except Cause Nat :=
  if 0 ≤ i ∧ i < countLimit then .ok i.toNat else .error (.unexpectedValue (.integer i) "u32")

/-- A name among the variants. -/
def variantOf (variants : List String) (name : String) : Except Cause String :=
  if variants.contains name then .ok name else .error (.unknownVariant name variants)

/-! ## Reading from a value -/

/-- Reading from a value that is at hand. -/
abbrev FromValue (α : Type) := Json → Except Cause α

namespace FromValue

/-- The type found is not the expected one. -/
def mismatch {α : Type} (value : Json) (expected : String) : Except Cause α :=
  .error (.unexpectedType (found value) expected)

/-- A text. -/
def text : FromValue String
  | .text s => .ok s
  | value => mismatch value "a string"

/-- An object, as it is. -/
def object : FromValue (Fields Json)
  | .object fields => .ok fields
  | value => mismatch value "a map"

/-- A boolean. -/
def flag : FromValue Bool
  | .bool b => .ok b
  | value => mismatch value "a boolean"

/-- The booleans of some fields. -/
def flagFields : Fields Json → Except Cause (Fields Bool)
  | [] => .ok []
  | (name, value) :: rest => do
    let b ← flag value
    return (name, b) :: (← flagFields rest)

/-- An object of booleans. -/
def flags : FromValue (Fields Bool)
  | .object fields => flagFields fields
  | value => mismatch value "a map"

/-- A natural number below `2 ^ 32`. -/
def count : FromValue Nat
  | .int i => countOf i
  | value => mismatch value "u32"

/-- One of some names, alone or as the key of a null. -/
def choice (variants : List String) : FromValue String
  | .text name => variantOf variants name
  | .object [(name, value)] => do
    let variant ← variantOf variants name
    match value with
    | .null => return variant
    | other => mismatch other "unit"
  | .object _ => .error (.unexpectedValue .object "map with a single key")
  | value => mismatch value "string or map"

/-- Null, or what another shape reads. -/
def optional {α : Type} (inner : FromValue α) : FromValue (Option α)
  | .null => .ok none
  | value => some <$> inner value

/-- What a shape reads, changed. -/
def convert {α β : Type} (inner : FromValue α) (f : α → β) : FromValue β := fun value => f <$> inner value

/-- What a shape reads, unless a conversion gives a reason against it. -/
def refine {α β : Type} (inner : FromValue α) (f : α → Except String β) : FromValue β := fun value => do
  match f (← inner value) with
  | .ok result => .ok result
  | .error reason => .error (.refused reason)

/-- Fills a draft from the fields of an object, in their order. -/
def fill {δ α : Type} (shape : RecordShape FromValue δ α) : Fields Json → δ → Except Cause δ
  | [], draft => .ok draft
  | (name, value) :: rest, draft =>
    match shape.field? name with
    | none => if shape.closed then .error (.unknownField name shape.names) else fill shape rest draft
    | some field =>
      if field.filled draft then .error (.repeatedField name)
      else do
        let write ← field.read value
        fill shape rest (write draft)

/-- Fills a draft from the items of a list, in the order of the shape. -/
def fillItems {δ α : Type} (shape : RecordShape FromValue δ α) (length : Nat) :
    List (FieldShape FromValue δ) → List Json → (index : Nat) → δ → Except Cause δ
  | [], [], _, draft => .ok draft
  | [], _ :: _, _, _ => .error (.wrongLength length "fewer elements in array")
  | field :: fields, [], index, draft =>
    if field.required then .error (.wrongLength index shape.expectedItems)
    else fillItems shape length fields [] (index + 1) draft
  | field :: fields, value :: values, index, draft => do
    let write ← field.read value
    fillItems shape length fields values (index + 1) (write draft)

/-- A record. -/
def record {δ α : Type} (shape : RecordShape FromValue δ α) : FromValue α
  | .object fields => do shape.finish (← fill shape fields shape.start)
  | .list items => do shape.finish (← fillItems shape items.length shape.fields items 0 shape.start)
  | value => mismatch value shape.expected

instance : Source FromValue where
  value := .ok
  text := text
  object := object
  flags := flags
  count := count
  choice := choice
  optional := optional
  convert := convert
  refine := refine
  record := record

end FromValue

/-! ## Reading from text -/

namespace Reader

/-- A result, or a cause whose place is found later. -/
def liftCause {α : Type} : Except Cause α → Reader α
  | .ok value => return value
  | .error cause => refuse cause

/-- Consumes what stands ahead and fails, for its type is not the expected one. -/
def mismatch {α : Type} (expected : String) : Reader α := located do
  match ← peek with
  | some 'n' => eat; ident "ull".toList; refuse (.unexpectedType .null expected)
  | some 't' => eat; ident "rue".toList; refuse (.unexpectedType (.bool true) expected)
  | some 'f' => eat; ident "alse".toList; refuse (.unexpectedType (.bool false) expected)
  | some '-' =>
    eat
    let n ← number true
    refuse (.unexpectedType (found n) expected)
  | some '"' =>
    eat
    let s ← Reader.text
    refuse (.unexpectedType (.text s) expected)
  | some '[' => refuse (.unexpectedType .list expected)
  | some '\x7b' => refuse (.unexpectedType .object expected)
  | some c =>
    if c.isDigit then
      let n ← number false
      refuse (.unexpectedType (found n) expected)
    else failAhead .expectedValue
  | none => failAhead .expectedValue

/-- A text value that a conversion accepts. -/
def textValue {α : Type} (expected : String) (accept : String → Except Cause α) : Reader α := do
  match ← peekValue with
  | '"' => located do
    eat
    let s ← Reader.text
    liftCause (accept s)
  | _ => mismatch expected

/-- A boolean. -/
def flag : Reader Bool := do
  match ← peekValue with
  | 't' => eat; ident "rue".toList; return true
  | 'f' => eat; ident "alse".toList; return false
  | _ => mismatch "a boolean"

/-- A null where no value is of use. -/
def unit : Reader Unit := do
  match ← peekValue with
  | 'n' => eat; ident "ull".toList
  | _ => mismatch "unit"

/-- Opens a level around a reader: consumes the bracket ahead, and leaves one level less inside. -/
def nested {α : Type} (body : Reader α) (close : Reader Unit) : Reader α := do
  let levels := (← get).levels
  if levels = 0 then failAhead .tooDeep
  else located do
    eat
    modify fun cursor => { cursor with levels := levels - 1 }
    let result ← closedBy body close
    modify fun cursor => { cursor with levels := levels }
    return result

/-- An object whose values are read with `inner`. -/
def objectOf {α : Type} (inner : Reader α) : Reader (Fields α) := do
  match ← peekValue with
  | '\x7b' =>
    nested
      (fields [] fun acc => do
        let name ← fieldName
        colon
        return Fields.set acc name (← inner))
      endObject
  | _ => mismatch "a map"

/-- A natural number below `2 ^ 32`. -/
def count : Reader Nat := do
  let c ← peekValue
  let accept (n : Json) : Reader Nat :=
    match n with
    | .int i => liftCause (countOf i)
    | other => refuse (.unexpectedType (found other) "u32")
  if c = '-' then located do
    eat
    accept (← number true)
  else if c.isDigit then located do accept (← number false)
  else mismatch "u32"

/-- One of some names, alone or as the key of a null. -/
def choice (variants : List String) : Reader String := do
  match ← peekToken with
  | some '\x7b' =>
    eat
    match ← peekToken with
    | some '"' => pure ()
    | some '\x7d' => failAhead .expectedValue
    | some _ => failAhead .keyNotText
    | none => failAhead .eofInObject
    let variant ← textValue "variant identifier" (variantOf variants)
    colon
    unit
    match ← peekToken with
    | some '\x7d' => eat; return variant
    | some _ => fail .expectedValue
    | none => fail .eofInObject
  | some '"' => textValue "variant identifier" (variantOf variants)
  | some _ => failAhead .expectedValue
  | none => failAhead .eofInValue

/-- Null, or what another shape reads. -/
def optional {α : Type} (inner : Reader α) : Reader (Option α) := do
  match ← peekToken with
  | some 'n' => eat; ident "ull".toList; return none
  | _ => some <$> inner

/-- What a shape reads, unless a conversion gives a reason against it. -/
def refine {α β : Type} (inner : Reader α) (f : α → Except String β) : Reader β := do
  match f (← inner) with
  | .ok result => return result
  | .error reason => refuse (.refused reason)

/-- Reads one field of an object into a draft. -/
def fillField {δ α : Type} (shape : RecordShape Reader δ α) (draft : δ) : Reader δ := do
  let name ← fieldName
  match shape.field? name with
  | none =>
    if shape.closed then refuse (.unknownField name shape.names)
    else
      colon
      skipValue
      return draft
  | some field =>
    if field.filled draft then refuse (.repeatedField name)
    else
      colon
      let write ← field.read
      return write draft

/-- Fills a draft from the items of a list, in the order of the shape. -/
def fillItems {δ α : Type} (shape : RecordShape Reader δ α) :
    List (FieldShape Reader δ) → (index : Nat) → (ended : Bool) → δ → Reader δ
  | [], _, _, draft => return draft
  | field :: fields, index, ended, draft => do
    let more ← if ended then pure false else nextItem (index == 0)
    if more then
      let write ← field.read
      fillItems shape fields (index + 1) false (write draft)
    else if field.required then refuse (.wrongLength index shape.expectedItems)
    else fillItems shape fields (index + 1) true draft

/-- A record. -/
def record {δ α : Type} (shape : RecordShape Reader δ α) : Reader α := do
  match ← peekValue with
  | '[' =>
    nested
      (do
        let draft ← fillItems shape shape.fields 0 false shape.start
        liftCause (shape.finish draft))
      endList
  | '\x7b' =>
    nested
      (do
        let draft ← fields shape.start (fillField shape)
        liftCause (shape.finish draft))
      endObject
  | _ => mismatch shape.expected

instance : Source Reader where
  value := value
  text := textValue "a string" .ok
  object := objectOf value
  flags := objectOf flag
  count := count
  choice := choice
  optional := optional
  convert := fun inner f => f <$> inner
  refine := refine
  record := record

end Reader

end ModelStore.Json
