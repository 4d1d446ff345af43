import CqlCompiler.CommandLine.Transcript
import CqlCompiler.Terminal

/-!
# The table of column types

Each recognised type of SQL with its counterpart, and what becomes of the
others.
-/

namespace CqlCompiler.CommandLine

open Terminal

/-- A row of the table. -/
def typeRow (colors : Bool) (style : List Style) (sql cql : String) : String :=
  paint colors style (padEnd 12 sql) ++ " " ++ paint colors [.cyan] cql

/-- The table of column types. -/
def typeTable (colors : Bool) : Transcript :=
  let heading (text : String) := paint colors [.bold, .white] text
  Transcript.line (heading (padEnd 12 "SQL") ++ " " ++ heading "CQL")
    ++ Transcript.line (paint colors [.dimmed] (String.ofList (List.replicate 24 '─')))
    ++ ColumnType.recognised.flatMap (fun type =>
      Transcript.line (typeRow colors [.yellow] type.name type.cqlName))
    ++ Transcript.line (typeRow colors [.dimmed] "(other)" "text")

end CqlCompiler.CommandLine
