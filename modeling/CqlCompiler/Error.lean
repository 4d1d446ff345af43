import CqlCompiler.Token
import CqlCompiler.Text.Numeral

/-!
# Why a text is not compiled

Each error is a cause: what was wanted, what stood there, or which construct
was left open.  The wording is made from the cause in one function per type.
-/

namespace CqlCompiler

/-- A construct that the text ends within.  The position is the number of
bytes before its opening mark in the UTF-8 form of the text. -/
inductive LexError where
  /-- A literal without its closing quote. -/
  | unterminatedString (quote : Char) (position : Nat)
  /-- A block comment without its closing mark. -/
  | unterminatedComment (position : Nat)
  deriving DecidableEq, Repr

/-- The wording of a lexical error. -/
def LexError.message : LexError → String
  | .unterminatedString quote position =>
    "Unterminated string literal starting at position " ++ Text.Numeral.ofNat position
      ++ " (quote " ++ quote.toString ++ ")"
  | .unterminatedComment position =>
    "Unterminated block comment starting at position " ++ Text.Numeral.ofNat position

/-- What the grammar wants at some place. -/
inductive Expectation where
  /-- A token of a class, or exactly one value of that class. -/
  | token (kind : TokenKind) (text : Option String)
  /-- A word in any case. -/
  | word (spelling : String)
  | columnDefinition
  | defaultValue
  | value
  /-- A number that is a 64-bit integer. -/
  | integer
  /-- A number that is a 64-bit count. -/
  | rowCount
  /-- As many values as there are columns. -/
  | valueCount (count : Nat)
  | endOfInput
  deriving DecidableEq, Repr

/-- The wording of what was wanted. -/
def Expectation.description : Expectation → String
  | .token kind none => kind.name
  | .token kind (some text) => kind.name ++ " '" ++ text ++ "'"
  | .word spelling => "'" ++ spelling ++ "'"
  | .columnDefinition => "column definition"
  | .defaultValue => "default value"
  | .value => "value"
  | .integer => "integer"
  | .rowCount => "row count"
  | .valueCount count => Text.Numeral.ofNat count ++ " values"
  | .endOfInput => "end of input"

/-- What stands at the place instead. -/
inductive Finding where
  | endOfInput
  | token (found : Token)
  /-- A number token that is out of range or no number at all. -/
  | number (text : String)
  | valueCount (count : Nat)
  deriving DecidableEq, Repr

/-- The wording of what was found. -/
def Finding.description : Finding → String
  | .endOfInput => "end of input"
  | .token found => found.kind.name ++ " '" ++ found.value ++ "'"
  | .number text => "number " ++ text
  | .valueCount count => Text.Numeral.ofNat count ++ " values"

/-- What stands at the head of a token list. -/
def Finding.ofHead : List Token → Finding
  | [] => .endOfInput
  | first :: _ => .token first

/-- Why a text or a token list is not a statement. -/
inductive CompileError where
  /-- The text cannot be cut into tokens. -/
  | lexical (error : LexError)
  /-- The tokens do not follow the grammar. -/
  | unexpected (expected : Expectation) (found : Finding)
  /-- The tokens begin with no statement that can be compiled. -/
  | unsupported (beginning : String)
  deriving DecidableEq, Repr

/-- The wording of a compile error. -/
def CompileError.message : CompileError → String
  | .lexical error => "Lex error: " ++ error.message
  | .unexpected expected found =>
    "Parse error: expected " ++ expected.description ++ ", found " ++ found.description
  | .unsupported beginning => "Unsupported SQL statement: " ++ beginning

end CqlCompiler
