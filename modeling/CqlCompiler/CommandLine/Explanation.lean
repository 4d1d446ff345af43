import CqlCompiler.CommandLine.Transcript
import CqlCompiler.Statement.Cql
import CqlCompiler.Terminal
import CqlCompiler.Text.WhiteSpace

/-!
# The explanation of a statement

What a SQL text says, part by part, and the CQL text for it.  The heading with
the SQL text is shown before the text is read, so it is there for a text that
is no statement too.
-/

namespace CqlCompiler.CommandLine

open Terminal

/-- What precedes the reading of the text. -/
def explanationHeading (colors : Bool) (sql : String) : Transcript :=
  Transcript.line (paint colors [.bold, .cyan] "sql2cql Statement Explanation")
    ++ Transcript.line ""
    ++ Transcript.line
      (paint colors [.dimmed] "SQL:" ++ " " ++ paint colors [.yellow] (Text.trim sql))
    ++ Transcript.line ""

/-- A part of a statement with its label. -/
def labelled (colors : Bool) (label text : String) : Transcript :=
  Transcript.line ("  " ++ paint colors [.dimmed] label ++ " " ++ text)

/-- What is said about a column besides its type. -/
def columnNotes (column : Column) : String :=
  " ".intercalate
    ((if column.constraints.nullable then [] else ["NOT NULL"])
      ++ column.constraints.default.toList.map fun value => "DEFAULT " ++ value.toCql)

/-- A column of a new table. -/
def explainColumn (colors : Bool) (column : Column) : Transcript :=
  Transcript.events column.type.events
    ++ Transcript.line
      ("    • " ++ paint colors [.white] column.name
        ++ " " ++ paint colors [.dimmed] column.type.name
        ++ " → " ++ paint colors [.cyan] column.type.cqlName
        ++ " " ++ paint colors [.yellow] (columnNotes column))

/-- The parts of a statement that makes a table. -/
def explainCreateTable (colors : Bool) (create : CreateTable) : Transcript :=
  Transcript.line ("  " ++ paint colors [.dimmed] "Columns:")
    ++ create.columns.flatMap (explainColumn colors)
    ++ if create.primaryKey.isEmpty then []
       else labelled colors "Primary key:"
        (paint colors [.white] (commaSeparated create.primaryKey))

/-- A condition of a query. -/
def explainCondition (colors : Bool) (condition : Condition) : Transcript :=
  Transcript.line
    ("    " ++ paint colors [.white] condition.column ++ " = "
      ++ paint colors [.yellow] condition.value.toCql)

/-- The parts of a query. -/
def explainSelect (colors : Bool) (query : Select) : Transcript :=
  labelled colors "Columns:" (paint colors [.white] query.projection.toCql)
    ++ query.conditions.flatMap (explainCondition colors)
    ++ query.limit.toList.flatMap (fun count =>
      labelled colors "Limit:" (paint colors [.cyan] (Text.Numeral.ofUnsigned count)))
    ++ query.order.toList.flatMap fun order =>
      labelled colors "Order by:"
        (paint colors [.white] order.column ++ " " ++ order.direction.word ++ " "
          ++ paint colors [.dimmed] "(not emitted in CQL)")

/-- The parts of a statement that adds a row. -/
def explainInsert (colors : Bool) (row : Insert) : Transcript :=
  (row.columns.zip row.values).flatMap fun (column, value) =>
    Transcript.line
      ("    " ++ paint colors [.white] column ++ " = " ++ paint colors [.yellow] value.toCql)

/-- The parts of a statement besides its kind and table. -/
def explainParts (colors : Bool) : Statement → Transcript
  | .createTable create => explainCreateTable colors create
  | .dropTable drop => if drop.ifExists then labelled colors "Guard:" "IF EXISTS" else []
  | .select query => explainSelect colors query
  | .insert row => explainInsert colors row

/-- What follows the heading once the statement is read. -/
def explanationBody (colors : Bool) (statement : Statement) : Transcript :=
  Transcript.line (paint colors [.bold, .green] "Parsed Structure:")
    ++ labelled colors "Kind:" (paint colors [.cyan] statement.kind)
    ++ labelled colors "Table:" (paint colors [.white] statement.table)
    ++ explainParts colors statement
    ++ Transcript.line ""
    ++ Transcript.line (paint colors [.bold, .green] "Generated CQL:")
    ++ Transcript.events statement.events
    ++ Transcript.line ("  " ++ paint colors [.white] statement.toCql)

end CqlCompiler.CommandLine
