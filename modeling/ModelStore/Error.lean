import ModelStore.Config.Error
import ModelStore.Event
import ModelStore.Json.Failure
import ModelStore.Store.Error

/-!
# Failures of calls

A call fails for one of the causes below. Each belongs to a kind, has a code and may come with advice.

## Main definitions

* `ErrorKind`, `Error`: kinds and causes.
* `Error.envelope`: the JSON answer of a call that failed.
-/

namespace ModelStore

/-- The kinds of failures. -/
inductive ErrorKind where
  | schema
  | validation
  | storage
  | dispatch
  deriving DecidableEq, Repr, Inhabited

/-- The name of a kind. -/
def ErrorKind.name : ErrorKind → String
  | .schema => "SchemaError"
  | .validation => "ValidationError"
  | .storage => "StorageError"
  | .dispatch => "DispatchError"

/-- Why options that are well formed are refused. -/
inductive Refusal where
  /-- A list or an object was given for a column. -/
  | compoundValue (column : String)
  /-- An update names no column. -/
  | emptyUpdate (table : String)
  /-- An upsert has no condition, or one that constrains nothing. -/
  | unconditionalUpsert
  /-- The policy forbids a bulk mutation without a condition. -/
  | unboundedMutation (table : String) (operation : BulkOperation)
  /-- A user of the sample data came back without an identifier. -/
  | unidentifiedUser
  deriving DecidableEq, Repr

/-- The operation that touches every row on purpose. -/
def BulkOperation.explicit : BulkOperation → String
  | .updateMany => "updateAll"
  | .deleteMany => "deleteAll"

/-- The wording of a refusal. -/
def Refusal.message : Refusal → String
  | .compoundValue column => "Column `" ++ column ++ "` cannot hold a list or an object"
  | .emptyUpdate table => "Update on `" ++ table ++ "` requires at least one field in `data`"
  | .unconditionalUpsert => "Upsert requires a valid 'where' condition"
  | .unboundedMutation table operation =>
    operation.name ++ " called without where on table " ++ table ++ "; use " ++ operation.explicit
      ++ " to touch every row"
  | .unidentifiedUser => "created user has no id"

/-- Why a call fails. -/
inductive Error where
  | unknownColumn (table column : String)
  | includeCycle (chain : List String)
  | refused (refusal : Refusal)
  | invalidArguments (failure : Json.Failure)
  | unknownModel (model : String)
  | unknownMethod (model method : String)
  | storage (error : StoreError)
  | config (error : ConfigError)
  | io (error : IoError)
  deriving Repr

namespace Error

/-- The kind of a failure. -/
def kind : Error → ErrorKind
  | unknownColumn .. | includeCycle _ => .schema
  | refused _ | invalidArguments _ => .validation
  | unknownModel _ | unknownMethod .. => .dispatch
  | storage _ | config _ | io _ => .storage

/-- The wording of a failure. -/
def message : Error → String
  | unknownColumn table column => "Unknown column `" ++ column ++ "` on table `" ++ table ++ "`"
  | includeCycle chain => "Include cycle detected: " ++ String.intercalate " -> " chain
  | refused refusal => refusal.message
  | invalidArguments failure => "Invalid arguments: " ++ failure.message
  | unknownModel model => "dbClient model not found: " ++ model
  | unknownMethod model method => "dbClient model or method not found: " ++ model ++ "." ++ method
  | storage error => "Database query failed: " ++ error.message
  | config error => error.message
  | io error => "IO error: " ++ error.message

/-- The code of a failure. -/
def code : Error → String
  | unknownColumn .. => "tally_db::schema::unknown_column"
  | includeCycle _ => "tally_db::schema::include_cycle"
  | refused _ => "tally_db::validation"
  | invalidArguments _ => "tally_db::invalid_arguments"
  | unknownModel _ => "tally_db::dispatch::model"
  | unknownMethod .. => "tally_db::dispatch::method"
  | storage _ => "tally_db::query"
  | config error => error.code
  | io _ => "tally_db::io"

/-- The advice that goes with a failure. -/
def help : Error → Option String
  | unknownColumn .. => some "Check the column name against the table descriptor"
  | includeCycle _ => some "A table cannot be included again inside its own include chain"
  | invalidArguments _ => some "Arguments must be a JSON object matching the operation's options"
  | storage _ => some "The store rejected the statement; the mutation may have been partially applied"
  | config error => error.help
  | io _ => some "Check file permissions and disk space"
  | refused _ | unknownModel _ | unknownMethod .. => none

/-- What a call that failed answers. -/
def envelope (error : Error) : Json :=
  .object
    [ ("isError", .bool true)
    , ("kind", .text error.kind.name)
    , ("message", .text error.message) ]

end Error

end ModelStore
