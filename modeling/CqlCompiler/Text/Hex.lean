/-!
# Hexadecimal digits and blob literals

A blob literal is `0x` and hexadecimal digits.  A text that already is a run of
hexadecimal digits, with or without the mark, is taken for the digits
themselves; any other text is written byte by byte in its UTF-8 form.
-/

namespace CqlCompiler.Text

/-- Whether `c` is a hexadecimal digit of either case. -/
def isHexDigit (c : Char) : Bool :=
  c.isDigit || ('a' ≤ c && c ≤ 'f') || ('A' ≤ c && c ≤ 'F')

/-- The number that hexadecimal digits denote. -/
def ofHexDigits (digits : List Char) : Nat :=
  digits.foldl (fun number c =>
    16 * number +
      (if c.isDigit then c.toNat - '0'.toNat
        else if 'a' ≤ c then c.toNat - 'a'.toNat + 10
        else c.toNat - 'A'.toNat + 10)) 0

/-- The two digits of a byte, the high half first. -/
def byteDigits (byte : UInt8) : List Char :=
  [Nat.digitChar (byte.toNat / 16), Nat.digitChar (byte.toNat % 16)]

/-- The digits of the UTF-8 bytes of a text. -/
def utf8Digits (cs : List Char) : List Char :=
  (cs.flatMap String.utf8EncodeChar).flatMap byteDigits

/-- The text without one leading `0x` or `0X`. -/
def withoutHexMark : List Char → List Char
  | '0' :: 'x' :: cs => cs
  | '0' :: 'X' :: cs => cs
  | cs => cs

/-- The digits of the blob literal for a text. -/
def blobDigits (cs : List Char) : List Char :=
  let digits := withoutHexMark cs
  if digits ≠ [] ∧ digits.all isHexDigit then digits else utf8Digits cs

/-- The blob literal for a text. -/
def blobLiteral (text : String) : String :=
  String.ofList ('0' :: 'x' :: blobDigits text.toList)

end CqlCompiler.Text
