/-!
# Arguments of the command line

A command line is a command with settings, which may stand before or after its name; what is said after it counts
more. A setting is said once at most on each side, except that verbosity adds up. What comes first on the line
decides first: help is given even if nonsense follows.

## Main definitions

* `Settings`, `Command`, `Topic`, `Request`: what a command line asks for.
* `Request.ofArguments`: the request of a command line.
-/

namespace ModelStore.Cli

/-! ## Requests -/

/-- What is said besides the command. -/
structure Settings where
  verbosity : Nat
  quiet : Bool
  json : Bool
  plain : Bool
  config : Option String
  deriving DecidableEq, Repr, Inhabited

/-- The name of a command. -/
inductive CommandName where
  | init
  | config
  | env
  | seed
  | call
  | stdio
  deriving DecidableEq, Repr, Inhabited

/-- The names of the commands, in the order in which they are shown. -/
def CommandName.all : List CommandName := [.init, .config, .env, .seed, .call, .stdio]

/-- The word for a command. -/
def CommandName.text : CommandName → String
  | .init => "init"
  | .config => "config"
  | .env => "env"
  | .seed => "seed"
  | .call => "call"
  | .stdio => "stdio"

/-- The command of a word. -/
def CommandName.ofText? (text : String) : Option CommandName := CommandName.all.find? (·.text == text)

/-- A command. -/
inductive Command where
  /-- Creates the configuration and the store. -/
  | init
  /-- Shows the configuration. -/
  | config
  /-- Shows where things lie. -/
  | env
  /-- Creates the sample data. -/
  | seed
  /-- Makes one call. -/
  | call (model method : String) (args : Option String)
  /-- Makes a call for every line of the input. -/
  | stdio
  deriving DecidableEq, Repr, Inhabited

/-- What help is about. -/
inductive Topic where
  | program
  | command (name : CommandName)
  | help
  deriving DecidableEq, Repr, Inhabited

/-- What a command line asks for. Help is given in full or in short. -/
inductive Request where
  | run (settings : Settings) (command : Command)
  | version
  | help (topic : Topic) (full : Bool)
  | misuse
  deriving DecidableEq, Repr, Inhabited

/-! ## Tokens -/

/-- A part of a command line. A word behind the mark that ends the flags is never a command. A word that may be one
comes with the arguments behind it. -/
inductive Token where
  | word (text : String) (behind : List String)
  | escaped (text : String)
  | verbose
  | quiet
  | json
  | plain
  | config (value : String)
  | help (full : Bool)
  | version
  | unknown
  deriving DecidableEq, Repr, Inhabited

namespace Token

/-- The token of a long flag, and whether its value is the next argument. -/
def ofLong (name : List Char) : Token × Bool :=
  let label := String.ofList (name.takeWhile (· != '='))
  let value := name.dropWhile (· != '=')
  if label = "config" then
    match value with
    | _ :: rest => (config (String.ofList rest), false)
    | [] => (config "", true)
  else if !value.isEmpty then (unknown, false)
  else
    match label with
    | "verbose" => (verbose, false)
    | "quiet" => (quiet, false)
    | "json" => (json, false)
    | "no-color" => (plain, false)
    | "help" => (help true, false)
    | "version" => (version, false)
    | _ => (unknown, false)

/-- The tokens of short flags that stand together, and whether the value of the last one is the next argument. -/
def ofShort : List Char → List Token × Bool
  | [] => ([], false)
  | 'c' :: [] => ([config ""], true)
  | 'c' :: '=' :: rest => ([config (String.ofList rest)], false)
  | 'c' :: rest => ([config (String.ofList rest)], false)
  | c :: rest =>
    let token := match c with
      | 'v' => verbose
      | 'q' => quiet
      | 'j' => json
      | 'h' => help false
      | 'V' => version
      | _ => unknown
    let (tokens, waiting) := ofShort rest
    (token :: tokens, waiting)

/-- Whether an argument is a flag. -/
def isFlag (argument : String) : Bool :=
  match argument.toList with
  | '-' :: _ :: _ => true
  | _ => false

/-- The tokens of a flag, and whether the value of the last one is the next argument. -/
def ofFlag (argument : String) : List Token × Bool :=
  match argument.toList with
  | '-' :: '-' :: name => let (token, waiting) := ofLong name; ([token], waiting)
  | cs => ofShort (cs.drop 1)

/-- The tokens of some arguments. -/
def ofArguments : List String → List Token
  | [] => []
  | argument :: rest =>
    if argument = "--" then rest.map escaped
    else if !isFlag argument then word argument rest :: ofArguments rest
    else
      let (tokens, waiting) := ofFlag argument
      if waiting then
        match rest with
        | [] => tokens.dropLast ++ [unknown]
        | value :: others =>
          if isFlag value then tokens.dropLast ++ [unknown]
          else tokens.dropLast ++ config value :: ofArguments others
      else tokens ++ ofArguments rest

end Token

/-! ## Settings -/

namespace Settings

/-- Nothing said. -/
def silent : Settings := ⟨0, false, false, false, none⟩

/-- The settings with what one more token says, unless it was said before. -/
def add (settings : Settings) : Token → Option Settings
  | .verbose => some { settings with verbosity := settings.verbosity + 1 }
  | .quiet => if settings.quiet then none else some { settings with quiet := true }
  | .json => if settings.json then none else some { settings with json := true }
  | .plain => if settings.plain then none else some { settings with plain := true }
  | .config value => if settings.config.isSome then none else some { settings with config := some value }
  | _ => none

/-- What is said on both sides of a command; the second side counts more. -/
def merge (before after : Settings) : Settings :=
  { verbosity := if after.verbosity = 0 then before.verbosity else after.verbosity
    quiet := before.quiet || after.quiet
    json := before.json || after.json
    plain := before.plain || after.plain
    config := after.config.or before.config }

end Settings

/-! ## Commands -/

/-- The command of a name with some words. -/
def Command.ofWords? (name : CommandName) (words : List String) : Option Command :=
  match name, words with
  | .init, [] => some .init
  | .config, [] => some .config
  | .env, [] => some .env
  | .seed, [] => some .seed
  | .stdio, [] => some .stdio
  | .call, [model, method] => some (.call model method none)
  | .call, [model, method, args] => some (.call model method (some args))
  | _, _ => none

/-- How many words may follow the name of a command. -/
def CommandName.wordLimit (name : CommandName) : Nat := if name = .call then 3 else 0

/-- The request of the tokens behind the name of a command. -/
def afterName (name : CommandName) (before : Settings) :
    List Token → (words : List String) → (after : Settings) → Request
  | [], words, after =>
    match Command.ofWords? name words with
    | some command => .run (before.merge after) command
    | none => .misuse
  | .word text _ :: rest, words, after | .escaped text :: rest, words, after =>
    if words.length < name.wordLimit then afterName name before rest (words ++ [text]) after else .misuse
  | .help full :: _, _, _ => .help (.command name) full
  | token :: rest, words, after =>
    match after.add token with
    | some after => afterName name before rest words after
    | none => .misuse

/-- The word that asks for help. -/
def helpWord : String := "help"

/-- The request for help on some arguments, each of which has to be a word for a command. -/
def helpOn : List String → Request
  | [] => .help .program true
  | [text] =>
    if text = helpWord then .help .help true
    else
      match CommandName.ofText? text with
      | some name => .help (.command name) true
      | none => .misuse
  | _ => .misuse

/-- The request of the tokens of a command line. -/
def Request.ofTokens (before : Settings) : List Token → Request
  | [] => .misuse
  | .word text behind :: rest =>
    if text = helpWord then helpOn behind
    else
      match CommandName.ofText? text with
      | some name => afterName name before rest [] .silent
      | none => .misuse
  | .help full :: _ => .help .program full
  | .version :: _ => .version
  | token :: rest =>
    match before.add token with
    | some before => Request.ofTokens before rest
    | none => .misuse

/-- The request of a command line. -/
def Request.ofArguments (arguments : List String) : Request :=
  Request.ofTokens .silent (Token.ofArguments arguments)

end ModelStore.Cli
