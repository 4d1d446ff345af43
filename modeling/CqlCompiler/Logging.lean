import CqlCompiler.Statement.Parser
import CqlCompiler.Text.DefaultIgnorable
import CqlCompiler.Text.GraphemeExtend

/-!
# Log events

What the stages of a compilation and a session report about themselves.  Which
events a compilation has depends on the text and on the statement alone; how
many of them are shown depends on a level.
-/

namespace CqlCompiler

/-- How much detail an event is, from little to much. -/
inductive LogLevel where
  | off
  | error
  | warn
  | info
  | debug
  | trace
  deriving DecidableEq, Repr

namespace LogLevel

/-- The levels, each at the place of its rank. -/
def all : List LogLevel :=
  [.off, .error, .warn, .info, .debug, .trace]

/-- The name of the level. -/
def name : LogLevel → String
  | .off => "OFF"
  | .error => "ERROR"
  | .warn => "WARN"
  | .info => "INFO"
  | .debug => "DEBUG"
  | .trace => "TRACE"

/-- The place of the level in the order of detail. -/
def rank : LogLevel → Nat
  | .off => 0
  | .error => 1
  | .warn => 2
  | .info => 3
  | .debug => 4
  | .trace => 5

/-- The level that a text asks for: its name in any case or its rank.  Every
other text asks for errors only. -/
def ofText (text : String) : LogLevel :=
  (all.find? fun level =>
    Text.equalIgnoringCase level.name text || Text.Numeral.ofNat level.rank == text).getD .error

end LogLevel

/-- Something that happened during a run. -/
inductive Event where
  /-- A text was cut into so many tokens. -/
  | tokenized (count : Nat)
  /-- A statement was read. -/
  | parsed (kind table : String)
  /-- A column of an unrecognised type becomes a text column. -/
  | columnTypeAsText (name : String)
  /-- The default of a column of an unrecognised type is quoted. -/
  | defaultAsText (name : String)
  /-- A line of a session is about to be read from something that is no
  terminal. -/
  | noTerminal
  /-- A line of a session is about to be read from a terminal without a
  cursor. -/
  | plainTerminal
  /-- The lines of a session are not remembered, for the reason given. -/
  | historyNotSaved (reason : String)
  deriving DecidableEq, Repr

/-- Whether `c` cannot be seen as it stands: a control character, one without a
shape of its own, or a mark on the character before it.  The two sound marks of
halfwidth Katakana take up space and can be seen. -/
def isHiddenInField (c : Char) : Bool :=
  c.toNat < 0x20 || (0x7F ≤ c.toNat && c.toNat < 0xA0) || Text.isDefaultIgnorable c
    || (Text.isGraphemeExtend c && c != '\uff9e' && c != '\uff9f')

/-- A character of a quoted field: quotes, backslashes and characters that cannot
be seen are escaped. -/
def escapedInField (c : Char) : List Char :=
  if c = '"' ∨ c = '\\' then ['\\', c]
  else if c = '\n' then ['\\', 'n']
  else if c = '\r' then ['\\', 'r']
  else if c = '\t' then ['\\', 't']
  else if c = '\x00' then ['\\', '0']
  else if isHiddenInField c then
    ['\\', 'u', '\x7b'] ++ Nat.toDigits 16 c.toNat ++ ['\x7d']
  else [c]

/-- A text as a quoted field of an event. -/
def quotedField (text : String) : String :=
  String.ofList ('"' :: (text.toList.flatMap escapedInField ++ ['"']))

namespace Event

/-- How much detail the event is. -/
def level : Event → LogLevel
  | .tokenized _ => .trace
  | _ => .debug

/-- The wording of the event with its fields. -/
def message : Event → String
  | .tokenized count => "tokenized input count=" ++ Text.Numeral.ofNat count
  | .parsed kind table =>
    "parsed statement kind=" ++ quotedField kind ++ " table=" ++ quotedField table
  | .columnTypeAsText name => "unrecognised column type, mapping to text sql_type=" ++ name
  | .defaultAsText name => "unrecognised default type, quoting as text sql_type=" ++ name
  | .noTerminal => "stdin is not a tty"
  | .plainTerminal => "unsupported terminal"
  | .historyNotSaved reason => "could not save REPL history: " ++ reason

/-- The event on a line of the log. -/
def line (event : Event) : String :=
  event.level.name ++ " " ++ event.message

/-- The events that have at most as much detail as the level allows. -/
def shown (allowed : LogLevel) (events : List Event) : List Event :=
  events.filter fun event => event.level.rank ≤ allowed.rank

end Event

/-! ## The events of each stage -/

/-- The events when a text is cut into tokens. -/
def tokenizeEvents (sql : String) : List Event :=
  match Token.tokenize sql with
  | .ok tokens => [.tokenized tokens.length]
  | .error _ => []

/-- The events when a statement is read off a text. -/
def parseEvents (sql : String) : List Event :=
  tokenizeEvents sql ++
    match Statement.ofSql sql with
    | .ok statement => [.parsed statement.kind statement.table]
    | .error _ => []

/-- The events when the CQL name of a type is looked up. -/
def ColumnType.events : ColumnType → List Event
  | .other name => [.columnTypeAsText name]
  | _ => []

/-- The events when a default is written for a column of a type. -/
def Value.defaultEvents (value : Value) : ColumnType → List Event
  | .other name => if value.isVerbatim then [] else [.defaultAsText name]
  | _ => []

/-- The events when the definition of a column is written. -/
def Column.events (column : Column) : List Event :=
  column.type.events ++
    match column.constraints.default with
    | some value => value.defaultEvents column.type
    | none => []

/-- The events when the CQL text of a statement is written. -/
def Statement.events : Statement → List Event
  | .createTable create => create.columns.flatMap Column.events
  | _ => []

end CqlCompiler
