import CqlCompiler.ColumnType
import CqlCompiler.Text.Hex
import CqlCompiler.Text.Numeral
import CqlCompiler.Text.Quoted

/-!
# Values

The constants and placeholders of conditions, rows and column defaults, and
their CQL text.  In a condition or a row the text depends on the value alone;
as the default of a column it depends on the type of the column too.
-/

namespace CqlCompiler

/-- A value in a condition, a row or a column default. -/
inductive Value where
  /-- A string, without quotes. -/
  | string (text : String)
  | int (number : Int64)
  /-- A number with a fraction, as written. -/
  | decimal (numeral : String)
  | bool (truth : Bool)
  /-- A value that is bound when the statement is run. -/
  | placeholder
  /-- A bare word, as written: `NULL` or the name of a column. -/
  | identifier (word : String)
  deriving DecidableEq, Repr

namespace Value

/-- The word for a truth value. -/
def boolWord (truth : Bool) : String :=
  if truth then "true" else "false"

/-- The text of the value without quotes. -/
def bareText : Value → String
  | .string text => text
  | .int number => Text.Numeral.ofSigned number
  | .decimal numeral => numeral
  | .bool truth => boolWord truth
  | .placeholder => "?"
  | .identifier word => word

/-- The value in a condition or a row: a string is quoted, all else is bare. -/
def toCql : Value → String
  | .string text => Text.quoteLiteral text
  | value => value.bareText

/-- The truth value that stands for a constant in a boolean column. -/
def isTrue : Value → Bool
  | .string text =>
    Text.equalIgnoringCase text "true" || Text.equalIgnoringCase text "t" || text == "1"
  | .int number => number != 0
  | .decimal numeral => numeral.toList.any fun c => c.isDigit && c != '0'
  | .bool truth => truth
  | .placeholder => false
  | .identifier _ => false

/-- Whether the value is written the same for every type of column. -/
def isVerbatim : Value → Bool
  | .placeholder => true
  | .identifier _ => true
  | _ => false

/-- The constant as the default of a column of the given type. -/
def constantFor (value : Value) : ColumnType → String
  | .integer | .int | .bigint | .float | .decimal => value.bareText
  | .boolean => boolWord value.isTrue
  | .binary | .blob => Text.blobLiteral value.bareText
  | _ => Text.quoteLiteral value.bareText

/-- The value as the default of a column of the given type. -/
def defaultFor (value : Value) (type : ColumnType) : String :=
  if value.isVerbatim then value.bareText else value.constantFor type

end Value

end CqlCompiler
