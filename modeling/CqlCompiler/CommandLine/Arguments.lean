import CqlCompiler.Settings

/-!
# Command line arguments

Arguments are read from left to right.  Options may stand before and after the
SQL text but not after the name of a subcommand; `--` ends the options.  An
option is given at most once.  The value of an option follows it as the next
argument, after an equals sign, or, for a short option, directly; short options
without a value may be written together.  A request for the version or for help
is answered as soon as it is read.
-/

namespace CqlCompiler.CommandLine

/-- What the program is asked to do instead of compiling a text. -/
inductive Subcommand where
  | tokens (sql : String)
  | explain (sql : String)
  | repl
  | types
  deriving DecidableEq, Repr

/-- What the arguments say. -/
structure Arguments where
  sql : Option String := none
  format : Option OutputFormat := none
  config : Option String := none
  verbose : Bool := false
  noColor : Bool := false
  subcommand : Option Subcommand := none
  deriving DecidableEq, Repr

/-- Why no command is run. -/
inductive Stop where
  /-- The version is asked for. -/
  | version
  /-- Help is asked for. -/
  | help
  /-- The arguments do not make sense. -/
  | usage
  deriving DecidableEq, Repr

/-- The options that have a value. -/
inductive ValueOption where
  | format
  | config
  deriving DecidableEq, Repr

/-- The options that have no value. -/
inductive Flag where
  | verbose
  | noColor
  | version
  | help
  deriving DecidableEq, Repr

/-- An option. -/
inductive Switch where
  | valued (option : ValueOption)
  | flag (flag : Flag)
  deriving DecidableEq, Repr

/-- The option with a long name. -/
def Switch.long? : String → Option Switch
  | "format" => some (.valued .format)
  | "config" => some (.valued .config)
  | "verbose" => some (.flag .verbose)
  | "no-color" => some (.flag .noColor)
  | "version" => some (.flag .version)
  | "help" => some (.flag .help)
  | _ => none

/-- The option with a short name. -/
def Switch.short? : Char → Option Switch
  | 'f' => some (.valued .format)
  | 'c' => some (.valued .config)
  | 'v' => some (.flag .verbose)
  | 'V' => some (.flag .version)
  | 'h' => some (.flag .help)
  | _ => none

/-- Whether an argument before `--` can only be an option.  A dash alone is an
ordinary text. -/
def looksLikeOption (argument : String) : Bool :=
  argument.startsWith "-" && argument != "-"

namespace Arguments

/-! ## Single options -/

/-- Gives an option its value. -/
def setValue (arguments : Arguments) (option : ValueOption) (value : String) :
    Except Stop Arguments :=
  match option with
  | .format =>
    match arguments.format, OutputFormat.named? value with
    | none, some format => .ok { arguments with format := some format }
    | _, _ => .error .usage
  | .config =>
    if arguments.config.isNone ∧ value ≠ "" then
      .ok { arguments with config := some value }
    else
      .error .usage

/-- Sets an option without a value. -/
def setFlag (arguments : Arguments) : Flag → Except Stop Arguments
  | .verbose =>
    if arguments.verbose then .error .usage else .ok { arguments with verbose := true }
  | .noColor =>
    if arguments.noColor then .error .usage else .ok { arguments with noColor := true }
  | .version => .error .version
  | .help => .error .help

/-- Sets short options that are written together.  The last of them may wait
for its value. -/
def setShort (arguments : Arguments) : List Char → Except Stop (Arguments × Option ValueOption)
  | [] => .ok (arguments, none)
  | c :: rest =>
    match Switch.short? c with
    | none => .error .usage
    | some (.flag flag) =>
      match arguments.setFlag flag with
      | .error stop => .error stop
      | .ok arguments' => setShort arguments' rest
    | some (.valued option) =>
      match rest with
      | [] => .ok (arguments, some option)
      | '=' :: value => (arguments.setValue option (String.ofList value)).map (·, none)
      | value => (arguments.setValue option (String.ofList value)).map (·, none)

/-- Sets a long option from its text after the dashes. -/
def setLong (arguments : Arguments) (text : List Char) :
    Except Stop (Arguments × Option ValueOption) :=
  let name := String.ofList (text.takeWhile (· ≠ '='))
  match Switch.long? name, text.dropWhile (· ≠ '=') with
  | some (.flag flag), [] => (arguments.setFlag flag).map (·, none)
  | some (.valued option), [] => .ok (arguments, some option)
  | some (.valued option), _ :: value =>
    (arguments.setValue option (String.ofList value)).map (·, none)
  | _, _ => .error .usage

/-- Sets the options in an argument that begins with a dash. -/
def setOptions (arguments : Arguments) (argument : String) :
    Except Stop (Arguments × Option ValueOption) :=
  match argument.toList with
  | '-' :: '-' :: text => arguments.setLong text
  | '-' :: text => arguments.setShort text
  | _ => .error .usage

/-- Sets the SQL text. -/
def setSql (arguments : Arguments) (sql : String) : Except Stop Arguments :=
  if arguments.sql.isNone then .ok { arguments with sql := some sql } else .error .usage

/-! ## Subcommands -/

/-- The texts after the name of a subcommand, which has no options but help. -/
def operands : List String → Except Stop (List String)
  | [] => .ok []
  | argument :: rest =>
    if argument = "--" then .ok rest
    else if argument = "--help" ∨ argument = "-h" then .error .help
    else if looksLikeOption argument then .error .usage
    else (operands rest).map (argument :: ·)

/-- The names of the subcommands. -/
def subcommandNames : List String :=
  ["tokens", "explain", "repl", "types", "help"]

/-- Whether help is there for what is named after `help`: the program, or one
subcommand. -/
def hasHelp : List String → Bool
  | [] => true
  | [name] => name ∈ subcommandNames
  | _ => false

/-- The subcommand with a name and the arguments after it. -/
def subcommandOf (name : String) (rest : List String) : Except Stop Subcommand := do
  if name = "help" then throw (if hasHelp rest then .help else .usage)
  match name, ← operands rest with
  | "tokens", [sql] => return .tokens sql
  | "explain", [sql] => return .explain sql
  | "repl", [] => return .repl
  | "types", [] => return .types
  | _, _ => throw .usage

/-! ## All arguments -/

/-- What is said by the arguments so far and those that follow. -/
def readFrom (arguments : Arguments) : List String → Except Stop Arguments
  | [] => .ok arguments
  | argument :: rest =>
    if argument ∈ subcommandNames then
      (subcommandOf argument rest).map fun subcommand =>
        { arguments with subcommand := some subcommand }
    else if argument = "--" then
      rest.foldlM setSql arguments
    else if looksLikeOption argument then
      match arguments.setOptions argument with
      | .error stop => .error stop
      | .ok (arguments', none) => readFrom arguments' rest
      | .ok (arguments', some option) =>
        match rest with
        | [] => .error .usage
        | value :: rest' =>
          if looksLikeOption value then .error .usage
          else
            match arguments'.setValue option value with
            | .error stop => .error stop
            | .ok arguments'' => readFrom arguments'' rest'
    else
      match arguments.setSql argument with
      | .error stop => .error stop
      | .ok arguments' => readFrom arguments' rest

/-- What the arguments say. -/
def read (arguments : List String) : Except Stop Arguments :=
  readFrom {} arguments

end Arguments

end CqlCompiler.CommandLine
