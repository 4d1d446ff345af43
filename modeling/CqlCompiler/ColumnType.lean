import CqlCompiler.Text.Case

/-!
# Column types

The column types of SQL that have a counterpart in CQL, and all others by name.
-/

namespace CqlCompiler

/-- The type of a column. -/
inductive ColumnType where
  | string
  | varchar
  | text
  | integer
  | int
  | bigint
  | float
  | decimal
  | boolean
  | datetime
  | timestamp
  | date
  | time
  | uuid
  | binary
  | blob
  /-- A type without a counterpart, by its name. -/
  | other (name : String)
  deriving DecidableEq, Repr

namespace ColumnType

/-- The types with a counterpart, in the order in which they are listed. -/
def recognised : List ColumnType :=
  [.string, .varchar, .text, .integer, .int, .bigint, .float, .decimal, .boolean, .datetime,
   .timestamp, .date, .time, .uuid, .binary, .blob]

/-- The name of the type in SQL. -/
def name : ColumnType → String
  | .string => "string"
  | .varchar => "varchar"
  | .text => "text"
  | .integer => "integer"
  | .int => "int"
  | .bigint => "bigint"
  | .float => "float"
  | .decimal => "decimal"
  | .boolean => "boolean"
  | .datetime => "datetime"
  | .timestamp => "timestamp"
  | .date => "date"
  | .time => "time"
  | .uuid => "uuid"
  | .binary => "binary"
  | .blob => "blob"
  | .other word => word

/-- The recognised type with exactly this name. -/
def recognised? (name : String) : Option ColumnType :=
  recognised.find? fun type => type.name == name

/-- The type that a word of any case names.  The name of an unrecognised type
is kept in lower case. -/
def ofName (word : String) : ColumnType :=
  (recognised? (Text.lower word)).getD (.other (Text.lower word))

/-- The name of the type in CQL.  Every unrecognised type is stored as text. -/
def cqlName : ColumnType → String
  | .string | .varchar | .text => "text"
  | .integer | .int => "int"
  | .bigint => "bigint"
  | .float => "float"
  | .decimal => "decimal"
  | .boolean => "boolean"
  | .datetime | .timestamp => "timestamp"
  | .date => "date"
  | .time => "time"
  | .uuid => "uuid"
  | .binary | .blob => "blob"
  | .other _ => "text"

end ColumnType

end CqlCompiler
