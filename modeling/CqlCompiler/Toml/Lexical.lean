import CqlCompiler.Parsing

/-!
# Characters, blanks and comments of TOML

Blanks are spaces and tabs; a newline is a line feed, or a carriage return and
a line feed.  Control characters other than the tab stand nowhere.
-/

namespace CqlCompiler.Toml

/-- Why a text is not a TOML document. -/
inductive Malformed where
  | malformed
  deriving DecidableEq, Repr

/-- A parser of characters. -/
abbrev TextParser := Parser Char Malformed

/-- Whether `c` is a space or a tab. -/
def isBlank (c : Char) : Bool :=
  c == ' ' || c == '\t'

/-- Whether `c` may stand in a comment and, unless it has a meaning there, in a
string: everything but control characters, of which only the tab may. -/
def isPlain (c : Char) : Bool :=
  c == '\t' || (0x20 ≤ c.toNat && c.toNat ≠ 0x7F)

/-- Whether `c` may stand in a key without quotes. -/
def isBareKeyChar (c : Char) : Bool :=
  c.isAlphanum || c == '_' || c == '-'

namespace TextParser

open CqlCompiler.Parser

variable {α : Type}

/-- Fails. -/
def fail : TextParser α :=
  throw .malformed

/-- Takes a character with the property. -/
def satisfy (p : Char → Bool) : TextParser Char := do
  match ← takeIf? p with
  | some c => return c
  | none => fail

/-- Takes exactly this character. -/
def char (c : Char) : TextParser Unit := do
  let _ ← satisfy (· == c)

/-- Takes this character if it is at the front, and says whether it was. -/
def skipChar (c : Char) : TextParser Bool :=
  skipIf (· == c)

/-- Whether this character is at the front. -/
def atChar (c : Char) : TextParser Bool := do
  return (← peek?) == some c

/-- Takes these characters if they are at the front, and says whether they
were. -/
def skipText (text : List Char) : TextParser Bool := do
  let input ← get
  if text.isPrefixOf input then
    set (input.drop text.length)
    return true
  else
    return false

/-- Takes spaces and tabs. -/
def blanks : TextParser Unit := do
  let _ ← takeWhile isBlank

/-- Takes a newline if one is at the front, and says whether it was. -/
def skipNewline : TextParser Bool := do
  if ← skipChar '\n' then return true else skipText ['\r', '\n']

/-- Takes a comment if one is at the front, and says whether it was. -/
def skipComment : TextParser Bool := do
  if ← skipChar '#' then
    let _ ← takeWhile isPlain
    return true
  else
    return false

/-- Takes what may follow an expression on its line, and the end of the line. -/
def lineEnd : TextParser Unit := do
  blanks
  let _ ← skipComment
  unless ← skipNewline do
    unless (← get).isEmpty do fail

/-- Takes one blank or newline if it is at the front, and says whether it was. -/
def skipSpace : TextParser Bool := do
  if ← skipIf isBlank then return true else skipNewline

/-- Takes blanks and newlines. -/
def spaces : TextParser Unit := do
  let _ ← many do
    return if ← skipSpace then some () else none

/-- Takes blanks, newlines and comments. -/
def gaps : TextParser Unit := do
  let _ ← many do
    if ← skipSpace then return some ()
    return if ← skipComment then some () else none

end TextParser

end CqlCompiler.Toml
