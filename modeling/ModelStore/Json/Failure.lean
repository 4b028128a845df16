import ModelStore.Json.Printer
import ModelStore.Text.Debug

/-!
# Why a JSON input is refused

The causes for which a text is no JSON document, or a value has not the shape that is asked for, and their
wording. A cause met in a text carries the place where it was met.

## Main definitions

* `Json.Cause`: the causes.
* `Json.Failure`: a cause with its place.
-/

namespace ModelStore.Json

/-! ## Grammar -/

/-- Where a text stops being a JSON document. -/
inductive GrammarError where
  | eofInList
  | eofInObject
  | eofInText
  | eofInValue
  | expectedColon
  | expectedListEnd
  | expectedObjectEnd
  | expectedIdent
  | expectedValue
  | invalidEscape
  | invalidNumber
  | numberOutOfRange
  | controlCharacter
  | keyNotText
  | loneSurrogate
  | trailingComma
  | trailingCharacters
  | unfinishedSurrogate
  | tooDeep
  deriving DecidableEq, Repr

/-- The wording of a grammar error. -/
def GrammarError.message : GrammarError → String
  | .eofInList => "EOF while parsing a list"
  | .eofInObject => "EOF while parsing an object"
  | .eofInText => "EOF while parsing a string"
  | .eofInValue => "EOF while parsing a value"
  | .expectedColon => "expected `:`"
  | .expectedListEnd => "expected `,` or `]`"
  | .expectedObjectEnd => "expected `,` or `\x7d`"
  | .expectedIdent => "expected ident"
  | .expectedValue => "expected value"
  | .invalidEscape => "invalid escape"
  | .invalidNumber => "invalid number"
  | .numberOutOfRange => "number out of range"
  | .controlCharacter => "control character (\\u0000-\\u001F) found while parsing a string"
  | .keyNotText => "key must be a string"
  | .loneSurrogate => "lone leading surrogate in hex escape"
  | .trailingComma => "trailing comma"
  | .trailingCharacters => "trailing characters"
  | .unfinishedSurrogate => "unexpected end of hex escape"
  | .tooDeep => "recursion limit exceeded"

/-! ## Shapes -/

/-- What was found where something else was expected. -/
inductive Found where
  | null
  | bool (value : Bool)
  | integer (value : Int)
  | real (value : Binary64)
  | text (value : String)
  | list
  | object
  deriving Repr

/-- What a value is found to be. -/
def found : Json → Found
  | .null => .null
  | .bool b => .bool b
  | .int i => .integer i
  | .real x => .real x
  | .text s => .text s
  | .list _ => .list
  | .object _ => .object

/-- How messages name what was found. -/
def Found.describe : Found → String
  | .null => "null"
  | .bool b => "boolean `" ++ (if b then "true" else "false") ++ "`"
  | .integer i => "integer `" ++ toString i ++ "`"
  | .real x => "floating point `" ++ realText x ++ "`"
  | .text s => "string " ++ Text.debugQuote s
  | .list => "sequence"
  | .object => "map"

/-- Why an input is refused. -/
inductive Cause where
  | grammar (error : GrammarError)
  | unexpectedType (found : Found) (expected : String)
  | unexpectedValue (found : Found) (expected : String)
  | wrongLength (length : Nat) (expected : String)
  | unknownVariant (name : String) (variants : List String)
  | unknownField (name : String) (fields : List String)
  | missingField (name : String)
  | repeatedField (name : String)
  | refused (reason : String)
  deriving Repr

/-- The alternatives of a message: one, two, or a longer list. -/
def alternatives (names : List String) : String :=
  let quoted := names.map fun name => "`" ++ name ++ "`"
  match quoted with
  | [a] => a
  | [a, b] => a ++ " or " ++ b
  | _ => "one of " ++ String.intercalate ", " quoted

/-- The wording of a cause. -/
def Cause.message : Cause → String
  | .grammar e => e.message
  | .unexpectedType f expected => "invalid type: " ++ f.describe ++ ", expected " ++ expected
  | .unexpectedValue f expected => "invalid value: " ++ f.describe ++ ", expected " ++ expected
  | .wrongLength n expected => "invalid length " ++ toString n ++ ", expected " ++ expected
  | .unknownVariant name variants => "unknown variant `" ++ name ++ "`, expected " ++ alternatives variants
  | .unknownField name fields => "unknown field `" ++ name ++ "`, expected " ++ alternatives fields
  | .missingField name => "missing field `" ++ name ++ "`"
  | .repeatedField name => "duplicate field `" ++ name ++ "`"
  | .refused reason => reason

/-! ## Places -/

/-- A place in a text: the line, from one, and the number of bytes of that line that stand before it. -/
structure Position where
  line : Nat
  column : Nat
  deriving DecidableEq, Repr

/-- A cause and, if it was met in a text, its place. -/
structure Failure where
  cause : Cause
  position : Option Position
  deriving Repr

/-- The wording of a failure. -/
def Failure.message (failure : Failure) : String :=
  match failure.position with
  | none => failure.cause.message
  | some p => failure.cause.message ++ " at line " ++ toString p.line ++ " column " ++ toString p.column

end ModelStore.Json
