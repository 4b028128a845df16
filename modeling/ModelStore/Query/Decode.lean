import ModelStore.Json.Shape
import ModelStore.Query.Options

/-!
# Reading options

The options of each operation as JSON. The shapes below are read from a value or from text; what is inside a
condition, an order or an include is looked at only after all of it has been read.

## Main definitions

* `Conditions.ofFields`, `orderOfFields`, `includesOfFields`: the parts that are converted.
* `findShape`, `createShape` and so on: the shapes.
* `FindOptions.ofJson` and so on: reading from a value.
-/

namespace ModelStore

open Json (FieldShape RecordShape Source FromValue Cause require)

/-! ## Conditions -/

/-- Why a condition is refused. -/
inductive ConditionError where
  | listOutsideIn
  | notAList
  | compoundMember
  | unknownOperator (name : String)
  | compoundOperand (operator : String)
  deriving DecidableEq, Repr

/-- The wording of a refused condition. -/
def ConditionError.message : ConditionError → String
  | .listOutsideIn => "lists are only accepted by the `in` operator"
  | .notAList => "`in` expects a list"
  | .compoundMember => "`in` expects a list of scalars"
  | .unknownOperator name => "unknown operator `" ++ name ++ "`"
  | .compoundOperand operator => "`" ++ operator ++ "` expects a scalar operand"

/-- Adds an operator with a scalar operand. -/
def Operators.write (ops : Operators) (name : String) (operand : Json) : Option Operators :=
  match name with
  | "eq" => some { ops with eq := some operand }
  | "ne" => some { ops with ne := some operand }
  | "gt" => some { ops with gt := some operand }
  | "gte" => some { ops with gte := some operand }
  | "lt" => some { ops with lt := some operand }
  | "lte" => some { ops with lte := some operand }
  | _ => none

/-- Adds one operator. -/
def Operators.add (ops : Operators) (name : String) (operand : Json) : Except ConditionError Operators :=
  if name = "in" then
    match operand with
    | .list values =>
      if values.any Json.isCompound then .error .compoundMember else .ok { ops with among := some values }
    | _ => .error .notAList
  else
    match ops.write name operand with
    | none => .error (.unknownOperator name)
    | some result => if operand.isCompound then .error (.compoundOperand name) else .ok result

/-- The operators of an object, in its order. -/
def Operators.ofFields : Fields Json → Operators → Except ConditionError Operators
  | [], ops => .ok ops
  | (name, operand) :: rest, ops => do Operators.ofFields rest (← ops.add name operand)

/-- The condition that a value stands for. -/
def Condition.ofJson : Json → Except ConditionError Condition
  | .object fields => .operators <$> Operators.ofFields fields .empty
  | .list _ => .error .listOutsideIn
  | value => .ok (.equals value)

/-- The conditions of an object, or the first column whose condition is refused. -/
def Conditions.ofFields : Fields Json → Except (String × ConditionError) Conditions
  | [] => .ok []
  | (column, value) :: rest =>
    match Condition.ofJson value with
    | .error e => .error (column, e)
    | .ok condition => do return (column, condition) :: (← Conditions.ofFields rest)

/-- The conditions of an object, or the reason against them. -/
def Conditions.read (fields : Fields Json) : Except String Conditions :=
  (Conditions.ofFields fields).mapError fun (column, e) =>
    "invalid condition on `" ++ column ++ "`: " ++ e.message

/-! ## Orders -/

/-- The names of the directions. -/
def directionNames : List String := ["asc", "desc"]

/-- The direction of a name. -/
def Direction.ofName (name : String) : Direction := if name = "desc" then .descending else .ascending

/-- A direction. -/
def directionShape (m : Type → Type) [Source m] : m Direction :=
  Source.convert (Source.choice directionNames) Direction.ofName

/-- The direction that a value stands for; null is ascending. -/
def Direction.ofJson : Json → Except Cause Direction
  | .null => .ok .ascending
  | value => directionShape FromValue value

/-- The sort keys of an object, or the first column whose direction is refused. -/
def orderOfFields : Fields Json → Except String (List (String × Direction))
  | [] => .ok []
  | (column, value) :: rest =>
    match Direction.ofJson value with
    | .error _ => .error column
    | .ok direction => do return (column, direction) :: (← orderOfFields rest)

/-- The sort keys of an object, or the reason against them. -/
def readOrder (fields : Fields Json) : Except String (List (String × Direction)) :=
  (orderOfFields fields).mapError fun column =>
    "order direction for `" ++ column ++ "` must be \"asc\" or \"desc\""

/-! ## Searches -/

/-- A search, as far as it has been read. -/
structure FindDraft where
  filter : Option (Option Conditions)
  select : Option (Option (Fields Bool))
  orderBy : Option (Option (List (String × Direction)))
  take : Option (Option Nat)
  skip : Option (Option Nat)
  includes : Option (Option Includes)
  deriving Inhabited

/-- The search that a draft has become. -/
def FindDraft.finish (draft : FindDraft) : FindOptions :=
  ⟨⟨draft.filter.join, draft.select.join, draft.orderBy.join, draft.take.join, draft.skip.join⟩,
    draft.includes.join⟩

/-- A field that is read with `read` and kept by `write`. -/
def fieldOf {m : Type → Type} [Source m] {δ β : Type} (name : String) (required : Bool)
    (filled : δ → Bool) (read : m β) (write : β → δ → δ) : FieldShape m δ :=
  ⟨name, required, filled, Source.convert read write⟩

/-- The conditions of a field. -/
def conditionsShape (m : Type → Type) [Source m] : m Conditions := Source.refine Source.object Conditions.read

/-- The sort keys of a field. -/
def orderShape (m : Type → Type) [Source m] : m (List (String × Direction)) :=
  Source.refine Source.object readOrder

/-- A search, given how its includes are converted. -/
def findShapeWith (m : Type → Type) [Source m] (includes : Fields Json → Except String Includes) :
    RecordShape m FindDraft FindOptions :=
  { name := "FindArgs"
    closed := true
    fields :=
      [ fieldOf "where" false (·.filter.isSome) (Source.optional (conditionsShape m))
          fun value draft => { draft with filter := some value }
      , fieldOf "select" false (·.select.isSome) (Source.optional Source.flags)
          fun value draft => { draft with select := some value }
      , fieldOf "orderBy" false (·.orderBy.isSome) (Source.optional (orderShape m))
          fun value draft => { draft with orderBy := some value }
      , fieldOf "take" false (·.take.isSome) (Source.optional Source.count)
          fun value draft => { draft with take := some value }
      , fieldOf "skip" false (·.skip.isSome) (Source.optional Source.count)
          fun value draft => { draft with skip := some value }
      , fieldOf "include" false (·.includes.isSome) (Source.optional (Source.refine Source.object includes))
          fun value draft => { draft with includes := some value } ]
    start := default
    finish := fun draft => .ok draft.finish }

/-- The include that a value stands for, given how nested includes are converted. -/
def includeOfJson (includes : Fields Json → Except String Includes) (relation : String) :
    Json → Except String Include
  | .null => .ok (.flag false)
  | .bool b => .ok (.flag b)
  | .object fields =>
    match (Source.record (findShapeWith FromValue includes) : FromValue FindOptions) (.object fields) with
    | .ok options => .ok (.nested options.own options.includes)
    | .error cause => .error ("include `" ++ relation ++ "`: " ++ cause.message)
  | _ => .error ("include `" ++ relation ++ "` must be a flag or options")

/-- The includes of an object, which may be nested so many levels deep. -/
def includesAt : (levels : Nat) → Fields Json → Except String Includes
  | _, [] => .ok []
  | 0, (relation, _) :: _ => .error ("include `" ++ relation ++ "` is nested too deep")
  | levels + 1, fields =>
    fields.mapM fun (relation, value) => do
      return (relation, ← includeOfJson (includesAt levels) relation value)

mutual

/-- The number of levels of lists and objects in a value. -/
def Json.depth : Json → Nat
  | .list items => Json.depthOfItems items + 1
  | .object fields => Json.depthOfFields fields + 1
  | _ => 0

/-- The greatest number of levels of some items. -/
def Json.depthOfItems : List Json → Nat
  | [] => 0
  | x :: xs => max (Json.depth x) (Json.depthOfItems xs)

/-- The greatest number of levels of some fields. -/
def Json.depthOfFields : List (String × Json) → Nat
  | [] => 0
  | (_, x) :: rest => max (Json.depth x) (Json.depthOfFields rest)

end

/-- The includes of an object, or the reason against them. -/
def includesOfFields (fields : Fields Json) : Except String Includes :=
  includesAt (Json.depthOfFields fields + 1) fields

/-- The includes of a field. -/
def includesShape (m : Type → Type) [Source m] : m Includes := Source.refine Source.object includesOfFields

/-- A search. -/
def findShape (m : Type → Type) [Source m] : RecordShape m FindDraft FindOptions :=
  findShapeWith m includesOfFields

/-! ## Mutations -/

/-- The options of a mutation, as far as they have been read. -/
structure MutationDraft where
  filter : Option (Option Conditions)
  data : Option Payload
  update : Option Payload
  create : Option Payload
  deriving Inhabited

/-- The field of the conditions, which may be left out. -/
def filterField (m : Type → Type) [Source m] : FieldShape m MutationDraft :=
  fieldOf "where" false (·.filter.isSome) (Source.optional (conditionsShape m))
    fun value draft => { draft with filter := some value }

/-- The field of the conditions, which has to be there. -/
def requiredFilterField (m : Type → Type) [Source m] : FieldShape m MutationDraft :=
  fieldOf "where" true (·.filter.isSome) (conditionsShape m)
    fun value draft => { draft with filter := some (some value) }

/-- The field of the values. -/
def dataField (m : Type → Type) [Source m] : FieldShape m MutationDraft :=
  fieldOf "data" true (·.data.isSome) Source.object
    fun value draft => { draft with data := some value }

/-- A row to create. -/
def createShape (m : Type → Type) [Source m] : RecordShape m MutationDraft CreateOptions :=
  { name := "CreateArgs", closed := true, start := default
    fields := [dataField m]
    finish := fun draft => do return ⟨← require "data" draft.data⟩ }

/-- Rows to change, one of which is returned. -/
def updateShape (m : Type → Type) [Source m] : RecordShape m MutationDraft UpdateOptions :=
  { name := "UpdateArgs", closed := true, start := default
    fields := [requiredFilterField m, dataField m]
    finish := fun draft => do
      return ⟨← require "where" draft.filter.join, ← require "data" draft.data⟩ }

/-- Rows to change. -/
def updateManyShape (m : Type → Type) [Source m] : RecordShape m MutationDraft UpdateManyOptions :=
  { name := "UpdateManyArgs", closed := true, start := default
    fields := [filterField m, dataField m]
    finish := fun draft => do return ⟨draft.filter.join, ← require "data" draft.data⟩ }

/-- What to change in every row. -/
def updateAllShape (m : Type → Type) [Source m] : RecordShape m MutationDraft UpdateAllOptions :=
  { name := "UpdateAllArgs", closed := true, start := default
    fields := [dataField m]
    finish := fun draft => do return ⟨← require "data" draft.data⟩ }

/-- Rows to change, or a row to create if there are none. -/
def upsertShape (m : Type → Type) [Source m] : RecordShape m MutationDraft UpsertOptions :=
  { name := "UpsertArgs", closed := true, start := default
    fields :=
      [ filterField m
      , fieldOf "update" false (·.update.isSome) Source.object
          fun value draft => { draft with update := some value }
      , fieldOf "create" true (·.create.isSome) Source.object
          fun value draft => { draft with create := some value } ]
    finish := fun draft => do
      return ⟨draft.filter.join, draft.update.getD [], ← require "create" draft.create⟩ }

/-- Rows to delete, one of which is returned. -/
def deleteShape (m : Type → Type) [Source m] : RecordShape m MutationDraft DeleteOptions :=
  { name := "DeleteArgs", closed := true, start := default
    fields := [requiredFilterField m]
    finish := fun draft => do return ⟨← require "where" draft.filter.join⟩ }

/-- Rows to delete or to count. -/
def filterShape (m : Type → Type) [Source m] : RecordShape m MutationDraft FilterOptions :=
  { name := "FilterArgs", closed := true, start := default
    fields := [filterField m]
    finish := fun draft => .ok ⟨draft.filter.join⟩ }

/-! ## Calls -/

/-- A call: an operation on a model, and its options. -/
structure Call where
  model : String
  method : String
  args : Json
  deriving Repr, Inhabited

/-- A call, as far as it has been read. -/
structure CallDraft where
  model : Option String
  method : Option String
  args : Option Json
  deriving Inhabited

/-- A call. Other fields are passed over. -/
def callShape (m : Type → Type) [Source m] : RecordShape m CallDraft Call :=
  { name := "DbCall", closed := false, start := default
    fields :=
      [ fieldOf "model" true (·.model.isSome) Source.text
          fun value draft => { draft with model := some value }
      , fieldOf "method" true (·.method.isSome) Source.text
          fun value draft => { draft with method := some value }
      , fieldOf "args" false (·.args.isSome) Source.value
          fun value draft => { draft with args := some value } ]
    finish := fun draft => do
      return ⟨← require "model" draft.model, ← require "method" draft.method, draft.args.getD .null⟩ }

/-! ## Reading -/

/-- What a shape reads from a value. -/
def decode {δ α : Type} (shape : (m : Type → Type) → [Source m] → RecordShape m δ α) (value : Json) :
    Except Json.Failure α :=
  ((Source.record (shape FromValue) : FromValue α) value).mapError fun cause => ⟨cause, none⟩

/-- What a shape reads from a text. -/
def decodeText {δ α : Type} (shape : (m : Type → Type) → [Source m] → RecordShape m δ α) (text : String) :
    Except Json.Failure α :=
  Json.Reader.run (Source.record (shape Json.Reader)) text

end ModelStore
