import CqlCompiler.Logging

/-!
# What a run shows

A transcript is what a run writes, in order: texts on the standard output,
texts on the standard error output, and events for the log.
-/

namespace CqlCompiler.CommandLine

/-- Something that a run writes. -/
inductive Output where
  | out (text : String)
  | err (text : String)
  | event (event : Event)
  deriving DecidableEq, Repr

/-- What a run writes, in order. -/
abbrev Transcript := List Output

namespace Transcript

/-- A line on the standard output. -/
def line (text : String) : Transcript :=
  [.out (text ++ "\n")]

/-- Events for the log. -/
def events (events : List Event) : Transcript :=
  events.map .event

/-- All that is written on the standard output. -/
def standardOutput (transcript : Transcript) : String :=
  String.join (transcript.filterMap fun
    | .out text => some text
    | _ => none)

/-- All that is written on the standard error output, the log apart. -/
def standardError (transcript : Transcript) : String :=
  String.join (transcript.filterMap fun
    | .err text => some text
    | _ => none)

/-- The events for the log. -/
def logged (transcript : Transcript) : List Event :=
  transcript.filterMap fun
    | .event event => some event
    | _ => none

end Transcript

end CqlCompiler.CommandLine
