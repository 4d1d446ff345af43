import CqlCompiler.Text.Numeral

/-!
# Coloured text for terminals

A text in a style stands between an escape sequence that turns the style on and
one that turns every style off.  Where the text itself turns styles off, the
style is turned on again.  Without colours a text is only itself.
-/

namespace CqlCompiler.Terminal

/-- A colour or weight of text, by its code. -/
inductive Style where
  | bold
  | dimmed
  | red
  | green
  | yellow
  | magenta
  | cyan
  | white
  deriving DecidableEq, Repr

/-- The number for the style in an escape sequence. -/
def Style.code : Style → Nat
  | .bold => 1
  | .dimmed => 2
  | .red => 31
  | .green => 32
  | .yellow => 33
  | .magenta => 35
  | .cyan => 36
  | .white => 37

/-- The sequence that turns every style off. -/
def reset : List Char :=
  ['\x1b', '[', '0', 'm']

/-- The sequence that turns the styles on. -/
def switchOn (styles : List Style) : List Char :=
  ['\x1b', '['] ++ (";".intercalate (styles.map fun style => Text.Numeral.ofNat style.code)).toList
    ++ ['m']

/-- The text with the styles turned on again wherever it turns them off. -/
def restyled (on : List Char) : List Char → List Char
  | '\x1b' :: '[' :: '0' :: 'm' :: rest => reset ++ on ++ restyled on rest
  | c :: rest => c :: restyled on rest
  | [] => []

/-- The text in the styles, if there are colours. -/
def paint (colors : Bool) (styles : List Style) (text : String) : String :=
  if colors then
    String.ofList (switchOn styles ++ restyled (switchOn styles) text.toList ++ reset)
  else
    text

/-- The text with blanks after it, up to a width. -/
def padEnd (width : Nat) (text : String) : String :=
  text ++ String.ofList (List.replicate (width - text.length) ' ')

/-- The text with blanks before it, up to a width. -/
def padStart (width : Nat) (text : String) : String :=
  String.ofList (List.replicate (width - text.length) ' ') ++ text

end CqlCompiler.Terminal
