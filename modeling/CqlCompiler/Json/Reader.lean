import CqlCompiler.Json
import CqlCompiler.Parsing
import CqlCompiler.Text.DoublePrecision
import CqlCompiler.Text.Hex

/-!
# Reading JSON text

The grammar of JSON, with at most `nestingLimit` arrays and objects in one
another.  Of two members of an object with the same key the later one counts.
-/

namespace CqlCompiler.Json

/-- Why a text is not JSON. -/
inductive Malformed where
  | malformed
  deriving DecidableEq, Repr

/-- A parser of JSON text. -/
abbrev Reader := Parser Char Malformed

/-- The greatest number of arrays and objects around a value. -/
def nestingLimit : Nat :=
  127

/-- Whether `c` may stand between the parts of a value. -/
def isBlank (c : Char) : Bool :=
  c == ' ' || c == '\t' || c == '\n' || c == '\r'

/-- The members with one more, which replaces an earlier one with its key. -/
def putMember (members : List (String × Json)) (key : String) (json : Json) :
    List (String × Json) :=
  members.filter (fun member => member.1 != key) ++ [(key, json)]

namespace Reader

open CqlCompiler.Parser

variable {α : Type}

/-- Fails. -/
def fail : Reader α :=
  throw .malformed

/-- Takes a character with the property. -/
def satisfy (p : Char → Bool) : Reader Char := do
  match ← takeIf? p with
  | some c => return c
  | none => fail

/-- Takes blanks. -/
def blanks : Reader Unit := do
  let _ ← takeWhile isBlank

/-- Takes a mark and the blanks after it. -/
def mark (c : Char) : Reader Unit := do
  let _ ← satisfy (· == c)
  blanks

/-- Takes a mark and the blanks after it if the mark is at the front, and says
whether it was. -/
def skipMark (c : Char) : Reader Bool := do
  if ← skipIf (· == c) then
    blanks
    return true
  else
    return false

/-- Takes exactly these characters. -/
def word (text : List Char) (json : Json) : Reader Json := do
  let input ← get
  if text.isPrefixOf input then
    set (input.drop text.length)
    return json
  else
    fail

/-! ## Numbers -/

/-- Takes digits, at least one. -/
def digits : Reader (List Char) := do
  return (← satisfy Char.isDigit) :: (← takeWhile Char.isDigit)

/-- Takes digits without superfluous zeros. -/
def wholeDigits : Reader (List Char) := do
  if ← skipIf (· == '0') then return ['0'] else digits

/-- Takes the digits of a fraction, if there is one. -/
def fraction? : Reader (Option (List Char)) := do
  if ← skipIf (· == '.') then some <$> digits else return none

/-- Takes the sign and the digits of an exponent, if there is one. -/
def exponent? : Reader (Option (Option Char × List Char)) := do
  if ← skipIf fun c => c == 'e' || c == 'E' then
    return some (← takeIf? fun c => c == '+' || c == '-', ← digits)
  else
    return none

/-- The number that an exponent denotes. -/
def exponentValue : Option Char × List Char → Int
  | (some '-', digits) => -(Nat.ofDigitChars 10 digits 0 : Int)
  | (_, digits) => Nat.ofDigitChars 10 digits 0

/-- Takes a number.  One that is too large for double precision is refused. -/
def number : Reader Json := do
  let negative ← skipIf (· == '-')
  let whole ← wholeDigits
  let fraction? ← fraction?
  let exponent? ← exponent?
  let fraction := fraction?.getD []
  let scale := (exponent?.map exponentValue).getD 0 - fraction.length
  let magnitude := Nat.ofDigitChars 10 whole 0
  if Text.overflowsDouble (Nat.ofDigitChars 10 (whole ++ fraction) 0) scale then
    fail
  else if fraction?.isNone ∧ exponent?.isNone ∧ ¬(negative ∧ magnitude = 0) then
    return .int (if negative then -(magnitude : Int) else magnitude)
  else
    return .real (String.ofList ((if negative then ['-'] else []) ++ whole
      ++ (fraction?.map ('.' :: ·)).getD []
      ++ (exponent?.map fun (sign, digits) => 'e' :: sign.toList ++ digits).getD []))

/-! ## Strings -/

/-- Takes four hexadecimal digits. -/
def codeUnit : Reader Nat := do
  let input ← get
  let four := input.take 4
  if four.length = 4 ∧ four.all Text.isHexDigit then
    set (input.drop 4)
    return Text.ofHexDigits four
  else
    fail

/-- The character with a code point; code points of surrogates have none. -/
def character (codePoint : Nat) : Reader Char :=
  if codePoint.isValidChar then return Char.ofNat codePoint else fail

/-- Takes the code units of a character after its first `\u`. -/
def escapedCodePoint : Reader Char := do
  let unit ← codeUnit
  if 0xD800 ≤ unit ∧ unit < 0xDC00 then
    let _ ← satisfy (· == '\\')
    let _ ← satisfy (· == 'u')
    let low ← codeUnit
    if 0xDC00 ≤ low ∧ low < 0xE000 then
      character (0x10000 + (unit - 0xD800) * 0x400 + (low - 0xDC00))
    else
      fail
  else
    character unit

/-- Takes what follows the backslash of an escape. -/
def escape : Reader Char := do
  match ← satisfy fun _ => true with
  | '"' => return '"'
  | '\\' => return '\\'
  | '/' => return '/'
  | 'b' => return '\x08'
  | 'f' => return '\x0c'
  | 'n' => return '\n'
  | 'r' => return '\r'
  | 't' => return '\t'
  | 'u' => escapedCodePoint
  | _ => fail

/-- Takes a character of a string, unless its closing quote is next. -/
def stringChar? : Reader (Option Char) := do
  if (← peek?) == some '"' then
    return none
  else if ← skipIf (· == '\\') then
    return some (← escape)
  else
    return some (← satisfy fun c => 0x20 ≤ c.toNat)

/-- Takes a string. -/
def string : Reader String := do
  let _ ← satisfy (· == '"')
  let text ← many stringChar?
  let _ ← satisfy (· == '"')
  return String.ofList text

/-! ## Values -/

/-- Takes a value that holds no others. -/
def scalar : Reader Json := do
  match ← peek? with
  | some '"' => .str <$> string
  | some 'n' => word ['n', 'u', 'l', 'l'] .null
  | some 't' => word ['t', 'r', 'u', 'e'] (.bool true)
  | some 'f' => word ['f', 'a', 'l', 's', 'e'] (.bool false)
  | _ => number

/-- Takes an array, given how to take an item and the blanks after it. -/
def array (item : Reader Json) : Reader Json := do
  mark '['
  if ← skipMark ']' then
    return .arr []
  let items ← sepBy1 item (skipMark ',')
  mark ']'
  return .arr items

/-- Takes an object, given how to take a value and the blanks after it. -/
def object (item : Reader Json) : Reader Json := do
  mark '\x7b'
  if ← skipMark '\x7d' then
    return .obj []
  let members ← sepBy1 (do
    let key ← string
    blanks
    mark ':'
    return (key, ← item)) (skipMark ',')
  mark '\x7d'
  return .obj (members.foldl (fun earlier member => putMember earlier member.1 member.2) [])

/-- Takes a value with so many arrays and objects in one another, and the blanks
after it. -/
def value : Nat → Reader Json
  | 0 => do
    let json ← scalar
    blanks
    return json
  | depth + 1 => do
    match ← peek? with
    | some '[' => array (value depth)
    | some '\x7b' => object (value depth)
    | _ => do
      let json ← scalar
      blanks
      return json

/-- Takes a value with blanks around it. -/
def document : Reader Json := do
  blanks
  value nestingLimit

end Reader

/-- The value that a text spells. -/
def parse? (text : String) : Option Json :=
  match Reader.document text.toList with
  | .ok (json, []) => some json
  | _ => none

end CqlCompiler.Json
