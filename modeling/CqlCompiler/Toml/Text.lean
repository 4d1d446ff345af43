import CqlCompiler.Toml.Lexical
import CqlCompiler.Text.Hex

/-!
# Strings of TOML

There are four kinds: between double quotes, with escapes, or between single
quotes, without; and each of these on one line between single marks or on
several lines between triple marks.  On several lines up to two quotes in a row
belong to the text, also right before the closing mark.
-/

namespace CqlCompiler.Toml

namespace TextParser

open CqlCompiler.Parser

/-- Takes the code point of a character, written with a number of digits. -/
def codePoint (width : Nat) : TextParser Char := do
  let input ← get
  let digits := input.take width
  if digits.length = width ∧ digits.all Text.isHexDigit then
    let number := Text.ofHexDigits digits
    if number.isValidChar then
      set (input.drop width)
      return Char.ofNat number
  fail

/-- Takes what follows the backslash of an escape. -/
def escape : TextParser Char := do
  match ← satisfy fun _ => true with
  | 'b' => return '\x08'
  | 'f' => return '\x0c'
  | 'n' => return '\n'
  | 'r' => return '\r'
  | 't' => return '\t'
  | '"' => return '"'
  | '\\' => return '\\'
  | 'u' => codePoint 4
  | 'U' => codePoint 8
  | _ => fail

/-- Whether `c` stands for itself in a string with these quotes.  Only double
quotes give the backslash a meaning. -/
def isStringChar (quote c : Char) : Bool :=
  isPlain c && c != quote && !(c == '\\' && quote == '"')

/-- Takes a backslash if one is at the front and has a meaning between these
quotes, and says whether. -/
def skipEscapeMark (quote : Char) : TextParser Bool :=
  if quote == '"' then skipChar '\\' else return false

/-- Takes a piece of a string on one line, unless its closing quote is next. -/
def linePiece? (quote : Char) : TextParser (Option (List Char)) := do
  if ← atChar quote then
    return none
  else if ← skipEscapeMark quote then
    return some [← escape]
  else
    return some [← satisfy (isStringChar quote)]

/-- Takes a string on one line. -/
def lineString (quote : Char) : TextParser String := do
  char quote
  let pieces ← many (linePiece? quote)
  char quote
  return String.ofList pieces.flatten

/-- Takes the rest of a line after a backslash at its end, and all blanks and
newlines after it. -/
def lineContinuation? : TextParser (Option Unit) :=
  optional? do
    blanks
    unless ← skipNewline do fail
    spaces

/-- Takes a piece of a string on several lines, unless its closing mark is
next. -/
def blockPiece? (quote : Char) : TextParser (Option (List Char)) := do
  if [quote, quote, quote].isPrefixOf (← get) then
    return none
  else if ← skipChar quote then
    return some [quote]
  else if ← skipNewline then
    return some ['\n']
  else if ← skipEscapeMark quote then
    match ← lineContinuation? with
    | some () => return some []
    | none => return some [← escape]
  else
    return some [← satisfy (isStringChar quote)]

/-- Takes a string on several lines.  A newline right after the opening mark is
not part of the text. -/
def blockString (quote : Char) : TextParser String := do
  unless ← skipText [quote, quote, quote] do fail
  let _ ← skipNewline
  let pieces ← many (blockPiece? quote)
  let closing ← takeWhile (· == quote)
  if 3 ≤ closing.length ∧ closing.length ≤ 5 then
    return String.ofList (pieces.flatten ++ closing.drop 3)
  else
    fail

/-- Takes a string of any kind. -/
def string (quote : Char) : TextParser String := do
  if [quote, quote, quote].isPrefixOf (← get) then blockString quote else lineString quote

end TextParser

end CqlCompiler.Toml
