import CqlCompiler.Toml.Datetime
import CqlCompiler.Toml.Number
import CqlCompiler.Toml.Text
import CqlCompiler.Toml.Tree

/-!
# TOML documents

A document is a sequence of lines: blank ones, pairs of a key and a value, and
headers of tables.  The pairs before the first header are those of the document
itself, the others belong to the header before them.
-/

namespace CqlCompiler.Toml

/-- The greatest number of arrays and inline tables around a value, and of
names in a key. -/
def nestingLimit : Nat :=
  79

/-- A line of a document. -/
inductive Line where
  | blank
  | pair (key : KeyPath) (value : Value)
  | table (key : KeyPath)
  | tableOfMany (key : KeyPath)

namespace TextParser

open CqlCompiler.Parser

/-! ## Keys -/

/-- Takes one name of a key. -/
def simpleKey : TextParser String := do
  if ← atChar '"' then
    lineString '"'
  else if ← atChar '\'' then
    lineString '\''
  else
    return String.ofList ((← satisfy isBareKeyChar) :: (← takeWhile isBareKeyChar))

/-- Takes a key with the blanks around its names. -/
def key : TextParser KeyPath := do
  let names ← sepBy1 (do blanks; let name ← simpleKey; blanks; return name) (skipChar '.')
  match names.getLast? with
  | some last => if names.length ≤ nestingLimit then return ⟨names.dropLast, last⟩ else fail
  | none => fail

/-! ## Values -/

/-- Takes a value that holds no others. -/
def scalar : TextParser Value := do
  match ← peek? with
  | some '"' => .string <$> string '"'
  | some '\'' => .string <$> string '\''
  | some 't' => if ← skipText ['t', 'r', 'u', 'e'] then return .boolean true else fail
  | some 'f' =>
    if ← skipText ['f', 'a', 'l', 's', 'e'] then return .boolean false else fail
  | _ =>
    match ← optional? datetime with
    | some () => return .datetime
    | none => number

/-- Takes an array, given how to take an item.  A comma may follow the last
item, and there may be newlines and comments between the items. -/
def array (item : TextParser Value) : TextParser Value := do
  char '['
  gaps
  if ← skipChar ']' then
    return .array []
  let first ← item
  gaps
  let others ← many do
    if ← skipChar ',' then
      gaps
      if ← atChar ']' then
        return none
      let next ← item
      gaps
      return some next
    else
      return none
  char ']'
  return .array (first :: others)

/-- Takes a key, an equals sign and a value. -/
def pair (item : TextParser Value) : TextParser (KeyPath × Value) := do
  let path ← key
  char '='
  blanks
  return (path, ← item)

/-- Takes a table on one line, given how to take a value. -/
def inlineTable (item : TextParser Value) : TextParser Value := do
  char '\x7b'
  blanks
  if ← skipChar '\x7d' then
    return .table []
  let pairs ← sepBy1 (do let entry ← pair item; blanks; return entry) (skipChar ',')
  char '\x7d'
  match Entries.insertAll [] pairs with
  | some entries => return .table (entriesToValues entries)
  | none => fail

/-- Takes a value with so many arrays and inline tables in one another. -/
def value : Nat → TextParser Value
  | 0 => scalar
  | depth + 1 => do
    match ← peek? with
    | some '[' => array (value depth)
    | some '\x7b' => inlineTable (value depth)
    | _ => scalar

/-! ## Lines -/

/-- Takes the header of a table. -/
def header : TextParser Line := do
  if ← skipText ['[', '['] then
    let path ← key
    unless ← skipText [']', ']'] do fail
    return .tableOfMany path
  else
    char '['
    let path ← key
    char ']'
    return .table path

/-- Takes the next line, unless the text has ended. -/
def line? : TextParser (Option Line) := do
  blanks
  match ← peek? with
  | none => return none
  | some '#' => lineEnd; return some .blank
  | some '\n' => lineEnd; return some .blank
  | some '\r' => lineEnd; return some .blank
  | some '[' => do
    let line ← header
    lineEnd
    return some line
  | some _ => do
    let (path, item) ← pair (value nestingLimit)
    lineEnd
    return some (.pair path item)

end TextParser

/-! ## Documents -/

/-- A header with the pairs that follow it. -/
structure Block where
  many : Bool
  key : KeyPath
  pairs : List (KeyPath × Value)

/-- The pairs before the first header, and each header with its pairs. -/
def blocks (lines : List Line) : List (KeyPath × Value) × List Block :=
  lines.foldr (fun line (pairs, later) =>
    match line with
    | .blank => (pairs, later)
    | .pair key value => ((key, value) :: pairs, later)
    | .table key => ([], ⟨false, key, pairs⟩ :: later)
    | .tableOfMany key => ([], ⟨true, key, pairs⟩ :: later)) ([], [])

/-- The entries of a document with these lines. -/
def entriesOf? (lines : List Line) : Option Entries := do
  let (pairs, later) := blocks lines
  let top ← Entries.insertAll [] pairs
  later.foldlM (fun entries block =>
    if block.many then entries.appendTable block.key block.pairs
    else entries.insertTable block.key block.pairs) top

/-- Reads a document.  A byte order mark may stand before it. -/
def document? (text : String) : Option (List (String × Value)) := do
  let cs := match text.toList with
    | '\ufeff' :: cs => cs
    | cs => cs
  match Parser.many TextParser.line? cs with
  | .ok (lines, []) => (entriesOf? lines).map entriesToValues
  | _ => none

end CqlCompiler.Toml
