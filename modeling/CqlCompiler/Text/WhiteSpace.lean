import CqlCompiler.Text.CodeRanges

/-!
# White space

The Unicode property `White_Space` and the removal of white space at the ends
of a text.  White space separates tokens and nothing else does so silently.
-/

namespace CqlCompiler.Text

/-- The code points with the Unicode property `White_Space`. -/
def whiteSpace : CodeRanges :=
  [(0x0009, 0x000D), (0x0020, 0x0020), (0x0085, 0x0085), (0x00A0, 0x00A0), (0x1680, 0x1680),
   (0x2000, 0x200A), (0x2028, 0x2029), (0x202F, 0x202F), (0x205F, 0x205F), (0x3000, 0x3000)]

/-- Whether `c` is white space. -/
def isWhiteSpace (c : Char) : Bool :=
  whiteSpace.contains c

/-- The text without the white space at its two ends. -/
def trim (text : String) : String :=
  let front := text.toList.dropWhile isWhiteSpace
  String.ofList (front.reverse.dropWhile isWhiteSpace).reverse

end CqlCompiler.Text
