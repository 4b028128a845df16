/-!
# Failures of files and of the configuration

## Main definitions

* `IoError`: why a file cannot be read or written.
* `ConfigError`: why there is no configuration.
-/

namespace ModelStore

/-- Why a file cannot be read or written. -/
inductive IoError where
  | notFound
  | fileExists
  | notADirectory
  | isADirectory
  | nameTooLong
  | nulInName
  | notText
  deriving DecidableEq, Repr, Inhabited

/-- The wording of a file failure. -/
def IoError.message : IoError → String
  | .notFound => "No such file or directory (os error 2)"
  | .fileExists => "File exists (os error 17)"
  | .notADirectory => "Not a directory (os error 20)"
  | .isADirectory => "Is a directory (os error 21)"
  | .nameTooLong => "File name too long (os error 36)"
  | .nulInName => "file name contained an unexpected NUL byte"
  | .notText => "stream did not contain valid UTF-8"

/-- Why there is no configuration. -/
inductive ConfigError where
  /-- The document makes no sense from a line and a column on. -/
  | unreadable (line column : Nat)
  | alreadyExists
  | invalidDbPath (path : String)
  | io (error : IoError)
  deriving DecidableEq, Repr, Inhabited

namespace ConfigError

/-- The wording of a configuration failure. -/
def message : ConfigError → String
  | unreadable line column =>
    "TOML deserialization error: TOML parse error at line " ++ toString line ++ ", column " ++ toString column
  | alreadyExists => "Configuration file already exists"
  | invalidDbPath path => "Invalid database path: " ++ path
  | io error => "IO error: " ++ error.message

/-- The code of a configuration failure. -/
def code : ConfigError → String
  | unreadable .. => "tally_config::toml_deserialize"
  | alreadyExists => "tally_config::already_exists"
  | invalidDbPath _ => "tally_config::invalid_db_path"
  | io _ => "tally_config::io"

/-- The advice that goes with a configuration failure. -/
def help : ConfigError → Option String
  | unreadable .. => some "Check your config.toml syntax and structure"
  | alreadyExists => some "Remove the existing config file or use a different location"
  | invalidDbPath _ => some "Use an absolute path, a path starting with `~`, or `:memory:`"
  | io _ => none

end ConfigError

end ModelStore
