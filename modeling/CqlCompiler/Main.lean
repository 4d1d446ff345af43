import CqlCompiler.CommandLine.Run

/-!
# The command line program

Reads what a run needs, runs it, and writes its transcript.  Nothing is decided
here but when to read and where to write.
-/

namespace CqlCompiler.CommandLine

/-- The variables of the environment that a run may look at. -/
def variableNames : List String :=
  ["HOME", "XDG_CONFIG_HOME", "SQL2CQL_CONFIG", "RUST_LOG", "CLICOLOR_FORCE", "TERM"]

/-- Why a file cannot be used. -/
def fileFailure : IO.Error → String
  | .noFileOrDirectory .. => "No such file or directory (os error 2)"
  | .permissionDenied .. => "Permission denied (os error 13)"
  | .inappropriateType .. => "Is a directory (os error 21)"
  | error => error.toString

/-- What is known about a path. -/
def fileState (path : String) : IO FileState := do
  try
    return { isFile := true, content := .ok (← IO.FS.readFile path) }
  catch error =>
    return { isFile := false, content := .error (fileFailure error) }

/-- The surroundings of a run with these arguments. -/
def surroundings (args : List String) : IO Surroundings := do
  let values ← variableNames.mapM fun name => return (name, ← IO.getEnv name)
  let environment (name : String) : Option String := (values.lookup name).join
  let blank : Surroundings :=
    { environment, file := fun _ => { isFile := false, content := .error "" } }
  let named := match Arguments.read args with
    | .ok arguments => ((namedSettings blank arguments).toOption.join).toList
    | .error _ => []
  let files ← (named ++ Settings.candidates blank).mapM fun path =>
    return (path, ← fileState path)
  return { environment, file := fun path => (files.lookup path).getD (blank.file path) }

/-- Writes a transcript. -/
def write (logLevel : LogLevel) (transcript : Transcript) : IO Unit := do
  let out ← IO.getStdout
  let err ← IO.getStderr
  for output in transcript do
    match output with
    | .out text => out.putStr text; out.flush
    | .err text => err.putStr text
    | .event event =>
      for shown in Event.shown logLevel [event] do
        err.putStrLn shown.line

/-- What precedes the reading of a line.  A terminal is asked for it even if it
can move its cursor. -/
def opening (plan : Plan) : IO Transcript := do
  if plan.source = .stream ∧ (← (← IO.getStdin).isTty) then
    return [.out (prompt plan.colors)]
  else
    return plan.source.opening plan.colors

/-- Writes what a session has shown since the last time. -/
def flush (plan : Plan) (state : SessionState) : IO SessionState := do
  write plan.logLevel state.shown
  return { state with shown := [] }

/-- Goes on with a session whose lines are read as they are typed. -/
partial def converseWithUser (plan : Plan) (state : SessionState) : IO SessionState := do
  let asked ← flush plan (state.say (← opening plan))
  match lineTexts (← (← IO.getStdin).getLine) with
  | [] => return asked
  | line :: _ =>
    let (answered, goesOn) := asked.step plan.colors line
    let next ← flush plan answered
    if goesOn then converseWithUser plan next else return next

/-- Remembers lines, or says why that is refused. -/
def remember (path : String) (lines : List String) : IO (Option String) := do
  try
    unless lines.isEmpty do
      let file ← IO.FS.Handle.mk path .append
      for line in lines do
        file.putStrLn line
    return none
  catch error =>
    return some (fileFailure error)

/-- The text that a run compiles if no argument gives it. -/
def inputFor (arguments : Arguments) : IO String := do
  if arguments.subcommand.isNone ∧ arguments.sql.isNone then
    (← IO.getStdin).readToEnd
  else
    return ""

end CqlCompiler.CommandLine

open CqlCompiler.CommandLine in
/-- The program. -/
def main (args : List String) : IO UInt32 := do
  let surroundings ← surroundings args
  match plan surroundings args with
  | .error outcome =>
    write outcome.logLevel outcome.transcript
    return outcome.exitCode.toUInt32
  | .ok planned =>
    if planned.arguments.subcommand = some .repl then
      let final ← converseWithUser planned { shown := banner planned.colors }
      let refusal ← remember surroundings.historyFile final.remembered
      write planned.logLevel (Transcript.events (historyEvents refusal final.remembered))
      return 0
    else
      let outcome := planned.run (← inputFor planned.arguments)
      write outcome.logLevel outcome.transcript
      return outcome.exitCode.toUInt32
