import CqlCompiler.CommandLine.Arguments
import CqlCompiler.CommandLine.Explanation
import CqlCompiler.CommandLine.Session
import CqlCompiler.CommandLine.TokenListing
import CqlCompiler.Settings.Discovery
import CqlCompiler.Statement.Json

/-!
# A run of the program

From the arguments, the surroundings and the standard input to what is shown and
the exit code.  `plan` settles what is to be done before any input is read, and
`Plan.run` does it.  The exit code tells a run that is done from one that failed
and from arguments that made no sense.
-/

namespace CqlCompiler.CommandLine

open Terminal

/-- What a run comes to. -/
structure Outcome where
  transcript : Transcript
  /-- Which events of the transcript are logged. -/
  logLevel : LogLevel
  exitCode : UInt8

/-- What a run shows, and the message of the error that ended it. -/
structure Attempt where
  transcript : Transcript
  failure : Option String := none

/-! ## Commands -/

/-- The message of a compile error, in which a lexical error is given twice:
as the error and as its cause. -/
def failureMessage : CompileError → String
  | .lexical error => CompileError.message (.lexical error) ++ ": " ++ error.message
  | error => error.message

/-- A compiled statement in a format. -/
def compiledText (format : OutputFormat) (statement : Statement) : String :=
  match format with
  | .cql => statement.toCql
  | .json =>
    Json.render (.obj [("statement", statement.toJson), ("cql", .str statement.toCql)])

/-- Compiles a text. -/
def compileText (format : OutputFormat) (sql : String) : Attempt :=
  match Statement.ofSql sql with
  | .error error =>
    { transcript := Transcript.events (parseEvents sql), failure := failureMessage error }
  | .ok statement =>
    { transcript := Transcript.events (parseEvents sql ++ statement.events)
        ++ Transcript.line (compiledText format statement) }

/-- Lists the tokens of a text. -/
def showTokens (colors : Bool) (format : OutputFormat) (sql : String) : Attempt :=
  match Token.tokenize sql with
  | .error error => { transcript := [], failure := error.message }
  | .ok tokens =>
    { transcript := Transcript.events (tokenizeEvents sql) ++ tokenListing colors format tokens }

/-- Explains a text. -/
def explainText (colors : Bool) (sql : String) : Attempt :=
  let opening := explanationHeading colors sql ++ Transcript.events (parseEvents sql)
  match Statement.ofSql sql with
  | .error error => { transcript := opening, failure := failureMessage error }
  | .ok statement => { transcript := opening ++ explanationBody colors statement }

/-! ## Runs -/

/-- Whether the surroundings ask for colours. -/
def wantsColors (surroundings : Surroundings) : Bool :=
  (surroundings.environment "CLICOLOR_FORCE").any (· != "0")

/-- The outcome of an attempt.  An error is the last thing shown. -/
def Attempt.outcome (attempt : Attempt) (colors : Bool) (logLevel : LogLevel) : Outcome :=
  match attempt.failure with
  | none => ⟨attempt.transcript, logLevel, 0⟩
  | some message =>
    ⟨attempt.transcript ++ [.err (paint colors [.bold, .red] "Error:" ++ " " ++ message ++ "\n")],
      logLevel, 1⟩

/-- The file for settings that the user names, as an argument or else in the
environment.  An empty name makes no sense. -/
def namedSettings (surroundings : Surroundings) (arguments : Arguments) :
    Except Stop (Option String) :=
  match arguments.config with
  | some path => .ok (some path)
  | none =>
    match surroundings.environment "SQL2CQL_CONFIG" with
    | some "" => .error .usage
    | named => .ok named

/-- Which events are logged. -/
def logLevelOf (surroundings : Surroundings) (arguments : Arguments) (settings : Settings) :
    LogLevel :=
  match surroundings.environment "RUST_LOG" with
  | some text => .ofText text
  | none => if arguments.verbose then .debug else .ofText settings.logLevel

/-- The version of the program. -/
def versionText : String :=
  "sql2cql 0.3.0"

/-- How the program is used. -/
def usageText : String :=
  "\n".intercalate
    ["Usage: sql2cql [OPTIONS] [SQL] [COMMAND]",
     "",
     "Commands:",
     "  tokens <SQL>   Show the tokens of a SQL statement",
     "  explain <SQL>  Parse and explain a SQL statement",
     "  repl           Interactive REPL mode",
     "  types          Show the SQL to CQL type mapping",
     "",
     "Options:",
     "  -f, --format <FORMAT>  Output format: cql or json",
     "  -c, --config <CONFIG>  Configuration file",
     "  -v, --verbose          Verbose output (debug logging)",
     "      --no-color         Disable colored output",
     "  -h, --help             Print help",
     "  -V, --version          Print version"]

/-- What is shown instead of a run. -/
def Stop.outcome : Stop → Outcome
  | .version => ⟨Transcript.line versionText, .off, 0⟩
  | .help => ⟨Transcript.line usageText, .off, 0⟩
  | .usage => ⟨[.err (usageText ++ "\n")], .off, 2⟩

/-- What a run is going to do. -/
structure Plan where
  arguments : Arguments
  colors : Bool
  format : OutputFormat
  logLevel : LogLevel
  /-- What the lines of a session are read from. -/
  source : LineSource
  /-- Why the lines of a session cannot be remembered, if that is so. -/
  historyRefusal : Option String

/-- The outcome if there are no settings.  Colours depend on the surroundings
alone then. -/
def SettingsError.outcome (surroundings : Surroundings) (error : SettingsError) : Outcome :=
  Attempt.outcome
    { transcript := [], failure := some ("failed to load configuration: " ++ error.message) }
    (wantsColors surroundings) .off

/-- What is going to be done, or the outcome if that is settled already. -/
def plan (surroundings : Surroundings) (args : List String) : Except Outcome Plan := do
  let arguments ← (Arguments.read args).mapError Stop.outcome
  let named ← (namedSettings surroundings arguments).mapError Stop.outcome
  let settings ← (Settings.discover surroundings named).mapError
    (SettingsError.outcome surroundings)
  return {
    arguments
    colors := wantsColors surroundings && !arguments.noColor && settings.output.color
    format := arguments.format.getD settings.output.format
    logLevel := logLevelOf surroundings arguments settings
    source := LineSource.ofTerminalName ((surroundings.environment "TERM").getD "")
    historyRefusal := surroundings.historyRefusal? }

/-- Does what is planned. -/
def Plan.attempt (plan : Plan) (input : String) : Attempt :=
  match plan.arguments.subcommand with
  | some (.tokens sql) => showTokens plan.colors plan.format sql
  | some (.explain sql) => explainText plan.colors sql
  | some .repl => { transcript := session plan.colors plan.source plan.historyRefusal input }
  | some .types => { transcript := typeTable plan.colors }
  | none => compileText plan.format (plan.arguments.sql.getD input)

/-- The outcome of what is planned. -/
def Plan.run (plan : Plan) (input : String) : Outcome :=
  (plan.attempt input).outcome plan.colors plan.logLevel

/-- A run of the program. -/
def run (surroundings : Surroundings) (args : List String) (input : String) : Outcome :=
  match plan surroundings args with
  | .error outcome => outcome
  | .ok planned => planned.run input

end CqlCompiler.CommandLine
