import CqlCompiler.Statement
import CqlCompiler.Text.Dotted

/-!
# The CQL text of a statement

The table of a statement that makes or removes it is quoted; the names in
queries and rows are written as they are.  The order of a query is not written.
-/

namespace CqlCompiler

/-- The items with a comma and a blank between them. -/
def commaSeparated (items : List String) : String :=
  ", ".intercalate items

/-- The columns of a query. -/
def Projection.toCql : Projection → String
  | .all => "*"
  | .columns names => commaSeparated names

/-- A condition of a query. -/
def Condition.toCql (condition : Condition) : String :=
  condition.column ++ " = " ++ condition.value.toCql

/-- The definition of a column. -/
def Column.toCql (column : Column) : String :=
  column.name ++ " " ++ column.type.cqlName
    ++ (if column.constraints.nullable then "" else " NOT NULL")
    ++ (match column.constraints.default with
        | none => ""
        | some value => " DEFAULT " ++ value.defaultFor column.type)

/-- The clause for the key of a table; none if the key has no columns. -/
def CreateTable.keyClause (create : CreateTable) : List String :=
  if create.primaryKey.isEmpty then []
  else ["PRIMARY KEY (" ++ commaSeparated create.primaryKey ++ ")"]

/-- A new table, with one definition on a line. -/
def CreateTable.toCql (create : CreateTable) : String :=
  "CREATE TABLE " ++ (if create.ifNotExists then "IF NOT EXISTS " else "")
    ++ Text.quoteIdentifier create.table ++ " (\n  "
    ++ ",\n  ".intercalate (create.columns.map Column.toCql ++ create.keyClause) ++ "\n);"

/-- The removal of a table. -/
def DropTable.toCql (drop : DropTable) : String :=
  "DROP TABLE " ++ (if drop.ifExists then "IF EXISTS " else "")
    ++ Text.quoteIdentifier drop.table ++ ";"

/-- The conditions of a query; nothing if there are none. -/
def Select.whereClause (query : Select) : String :=
  if query.conditions.isEmpty then ""
  else " WHERE " ++ " AND ".intercalate (query.conditions.map Condition.toCql)

/-- The row count of a query; nothing if there is none. -/
def Select.limitClause (query : Select) : String :=
  match query.limit with
  | none => ""
  | some count => " LIMIT " ++ Text.Numeral.ofUnsigned count

/-- A query. -/
def Select.toCql (query : Select) : String :=
  "SELECT " ++ query.projection.toCql ++ " FROM " ++ query.table
    ++ query.whereClause ++ query.limitClause ++ ";"

/-- A new row. -/
def Insert.toCql (row : Insert) : String :=
  "INSERT INTO " ++ row.table ++ " (" ++ commaSeparated row.columns ++ ") VALUES ("
    ++ commaSeparated (row.values.map Value.toCql) ++ ");"

/-- The statement in CQL. -/
def Statement.toCql : Statement → String
  | .createTable create => create.toCql
  | .dropTable drop => drop.toCql
  | .select query => query.toCql
  | .insert row => row.toCql

end CqlCompiler
