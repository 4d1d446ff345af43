import CqlCompiler.Json
import CqlCompiler.Text.Numeral

/-!
# JSON text

JSON values on several lines, two blanks deeper in each array and object.  An
empty array or object stays on its line.  Only quotes, backslashes and control
characters are escaped.
-/

namespace CqlCompiler.Json

/-- A character inside a JSON string. -/
def escaped (c : Char) : List Char :=
  if c = '"' then ['\\', '"']
  else if c = '\\' then ['\\', '\\']
  else if c = '\x08' then ['\\', 'b']
  else if c = '\x0c' then ['\\', 'f']
  else if c = '\n' then ['\\', 'n']
  else if c = '\r' then ['\\', 'r']
  else if c = '\t' then ['\\', 't']
  else if c.toNat < 0x20 then
    ['\\', 'u', '0', '0', Nat.digitChar (c.toNat / 16), Nat.digitChar (c.toNat % 16)]
  else [c]

/-- A JSON string. -/
def quotedText (text : String) : String :=
  String.ofList ('"' :: (text.toList.flatMap escaped ++ ['"']))

/-- A whole number. -/
def numeral (number : Int) : String :=
  if number < 0 then "-" ++ Text.Numeral.ofNat number.natAbs
  else Text.Numeral.ofNat number.natAbs

/-- The parts of an array or object, each on a line of its own. -/
def block (opening closing : String) (indent : Nat) (parts : List String) : String :=
  let newline (depth : Nat) : String := "\n" ++ String.ofList (List.replicate depth ' ')
  if parts.isEmpty then opening ++ closing
  else
    opening ++ newline (indent + 2) ++ ("," ++ newline (indent + 2)).intercalate parts
      ++ newline indent ++ closing

mutual

/-- The text of a value whose lines after the first begin with `indent` blanks. -/
def renderAt (indent : Nat) : Json → String
  | .null => "null"
  | .bool truth => if truth then "true" else "false"
  | .int number => numeral number
  | .real text => text
  | .str text => quotedText text
  | .arr items => block "[" "]" indent (renderItems (indent + 2) items)
  | .obj members => block "\x7b" "\x7d" indent (renderMembers (indent + 2) members)

/-- The texts of the items of an array. -/
def renderItems (indent : Nat) : List Json → List String
  | [] => []
  | item :: items => renderAt indent item :: renderItems indent items

/-- The texts of the members of an object. -/
def renderMembers (indent : Nat) : List (String × Json) → List String
  | [] => []
  | (key, json) :: members =>
    (quotedText key ++ ": " ++ renderAt indent json) :: renderMembers indent members

end

/-- The text of a value. -/
def render (json : Json) : String :=
  renderAt 0 json

end CqlCompiler.Json
