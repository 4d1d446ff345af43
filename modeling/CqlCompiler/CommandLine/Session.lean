import CqlCompiler.CommandLine.TypeTable
import CqlCompiler.Compile
import CqlCompiler.Text.Bytes
import CqlCompiler.Text.Grapheme
import CqlCompiler.Text.WhiteSpace

/-!
# Interactive sessions

A session reads lines and answers them one after the other, until a line asks
to end it.  From line to line it carries what it has shown and which lines it
remembers.
-/

namespace CqlCompiler.CommandLine

open Terminal

/-! ## Lines -/

/-- The lines of a text, each without its newline.  What follows the last
newline is a line if it is not empty. -/
def textLines : List Char → List (List Char)
  | [] => []
  | c :: rest =>
    if c = '\n' then [] :: textLines rest
    else match textLines rest with
      | [] => [[c]]
      | line :: lines => (c :: line) :: lines

/-- What is left of a line while it is typed. -/
structure Typed where
  /-- The text so far, from its last character to its first. -/
  text : List Char := []
  /-- How many bytes each backspace is going to take away, the next one first.
  A number is kept in one byte, so that of a longer character only the end is
  taken away. -/
  sizes : List UInt8 := []

/-- Types one more user-perceived character.  A backspace takes away the latest
one that is left. -/
def Typed.type (typed : Typed) (grapheme : List Char) : Typed :=
  if grapheme = ['\x08'] then
    match typed.sizes with
    | [] => typed
    | size :: sizes => { text := Text.dropBytes size.toNat typed.text, sizes }
  else
    { text := grapheme.reverse ++ typed.text
      sizes := (Text.byteLength grapheme).toUInt8 :: typed.sizes }

/-- The text of a typed line, without the white space at its ends. -/
def lineText (cs : List Char) : String :=
  Text.trim (String.ofList ((Text.graphemes cs).foldl Typed.type {}).text.reverse)

/-- The texts of the lines that a session reads. -/
def lineTexts (input : String) : List String :=
  (textLines input.toList).map lineText

/-- What lines are read from. -/
inductive LineSource where
  /-- A terminal that cannot move its cursor. -/
  | plainTerminal
  /-- Something that is no terminal. -/
  | stream
  deriving DecidableEq, Repr

/-- What lines are read from if the terminal has this name. -/
def LineSource.ofTerminalName (name : String) : LineSource :=
  if ["dumb", "cons25", "emacs"].any (Text.equalIgnoringCase · name) then .plainTerminal
  else .stream

/-- What asks for a line. -/
def prompt (colors : Bool) : String :=
  paint colors [.bold, .cyan] "sql> "

/-- What precedes the reading of a line.  Only a terminal is asked for it. -/
def LineSource.opening (colors : Bool) : LineSource → Transcript
  | .plainTerminal => [.event .plainTerminal, .out (prompt colors)]
  | .stream => [.event .noTerminal]

/-! ## Answers -/

/-- Whether a line ends the session. -/
def endsSession (line : String) : Bool :=
  line ∈ [".exit", ".quit", "exit", "quit"]

/-- The answer to a line that is compiled. -/
def compiledAnswer (colors : Bool) (line : String) : Transcript :=
  Transcript.events (parseEvents line) ++
    match Statement.ofSql line with
    | .ok statement =>
      Transcript.events statement.events
        ++ Transcript.line
          (paint colors [.green] "→" ++ " " ++ paint colors [.bold, .white] statement.toCql)
        ++ Transcript.line ""
    | .error error =>
      [.err (paint colors [.red] "✗" ++ " " ++ paint colors [.red] error.message ++ "\n")]

/-- The answer to a line that does not end the session. -/
def lineAnswer (colors : Bool) (line : String) : Transcript :=
  if line = "" then []
  else if line = ".types" then typeTable colors
  else compiledAnswer colors line

/-- What a session shows before its first line. -/
def banner (colors : Bool) : Transcript :=
  Transcript.line (paint colors [.bold, .cyan] "sql2cql REPL — Interactive Mode")
    ++ Transcript.line
      (paint colors [.dimmed] "Type SQL to see the generated CQL. '.exit' to quit.")
    ++ Transcript.line ""

/-! ## Sessions -/

/-- A session between two of its lines. -/
structure SessionState where
  /-- What has been shown. -/
  shown : Transcript
  /-- The lines that are remembered. -/
  remembered : List String := []

/-- The session after it has shown more. -/
def SessionState.say (state : SessionState) (more : Transcript) : SessionState :=
  { state with shown := state.shown ++ more }

/-- The session after it has read a line.  A blank line is not remembered. -/
def SessionState.hear (state : SessionState) (line : String) : SessionState :=
  if line = "" then state else { state with remembered := state.remembered ++ [line] }

/-- The session after it has read and answered a line, and whether it goes on.  A
line that ends it has no answer. -/
def SessionState.step (colors : Bool) (state : SessionState) (line : String) :
    SessionState × Bool :=
  let heard := state.hear line
  if endsSession line then (heard, false) else (heard.say (lineAnswer colors line), true)

/-- A session that goes on with these lines.  Each line is asked for and answered
before the next one, up to a line that ends the session.  After the last line
one more is asked for and found missing. -/
def converse (colors : Bool) (source : LineSource) (state : SessionState) :
    List String → SessionState
  | [] => state.say (source.opening colors)
  | line :: lines =>
    match (state.say (source.opening colors)).step colors line with
    | (next, true) => converse colors source next lines
    | (next, false) => next

/-- What is reported about keeping the remembered lines if that is refused for a
reason.  Without lines nothing is tried. -/
def historyEvents (refusal : Option String) (lines : List String) : List Event :=
  if lines.isEmpty then [] else refusal.toList.map .historyNotSaved

/-- A session that reads the lines of an input. -/
def session (colors : Bool) (source : LineSource) (refusal : Option String) (input : String) :
    Transcript :=
  let final := converse colors source { shown := banner colors } (lineTexts input)
  final.shown ++ Transcript.events (historyEvents refusal final.remembered)

end CqlCompiler.CommandLine
