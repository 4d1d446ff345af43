import CqlCompiler.Value

/-!
# Statements

The four statements that can be compiled, and the ways to build and change
them without SQL text.
-/

namespace CqlCompiler

/-- What is said about a column besides its type. -/
structure Constraints where
  nullable : Bool := true
  default : Option Value := none
  deriving DecidableEq, Repr

/-- A column of a new table. -/
structure Column where
  name : String
  type : ColumnType
  constraints : Constraints := {}
  deriving DecidableEq, Repr

/-- Makes a table. -/
structure CreateTable where
  table : String
  ifNotExists : Bool
  columns : List Column
  /-- The columns of the key.  They need not be columns of the table. -/
  primaryKey : List String
  deriving DecidableEq, Repr

/-- Removes a table. -/
structure DropTable where
  table : String
  ifExists : Bool
  deriving DecidableEq, Repr

/-- Which columns a query gives. -/
inductive Projection where
  | all
  | columns (names : List String)
  deriving DecidableEq, Repr

/-- Demands that a column equals a value. -/
structure Condition where
  column : String
  value : Value
  deriving DecidableEq, Repr

/-- The direction of a sort. -/
inductive Direction where
  | ascending
  | descending
  deriving DecidableEq, Repr

/-- The order of the rows of a query. -/
structure RowOrder where
  column : String
  direction : Direction
  deriving DecidableEq, Repr

/-- Queries a table. -/
structure Select where
  projection : Projection
  table : String
  /-- All of them hold of each row. -/
  conditions : List Condition
  limit : Option UInt64
  /-- The wanted order, which CQL text cannot express in general and so leaves
  out. -/
  order : Option RowOrder
  deriving DecidableEq, Repr

/-- Adds a row to a table. -/
structure Insert where
  table : String
  columns : List String
  values : List Value
  deriving DecidableEq, Repr

/-- A statement. -/
inductive Statement where
  | createTable (create : CreateTable)
  | dropTable (drop : DropTable)
  | select (query : Select)
  | insert (row : Insert)
  deriving DecidableEq, Repr

namespace Projection

/-- The columns that a list of names stands for: a star alone is all of them. -/
def ofNames (names : List String) : Projection :=
  if names = ["*"] then .all else .columns names

end Projection

namespace Direction

/-- The word for the direction. -/
def word : Direction → String
  | .ascending => "ASC"
  | .descending => "DESC"

end Direction

namespace Insert

/-- The row with one more column. -/
def withColumn (row : Insert) (column : String) (value : Value) : Insert :=
  { row with columns := row.columns ++ [column], values := row.values ++ [value] }

end Insert

namespace Select

/-- The query with one more condition. -/
def withCondition (query : Select) (condition : Condition) : Select :=
  { query with conditions := query.conditions ++ [condition] }

end Select

namespace CreateTable

/-- The table with one more column, of the type that a word names. -/
def withColumn (create : CreateTable) (name typeName : String) : CreateTable :=
  { create with columns := create.columns ++ [{ name, type := .ofName typeName }] }

/-- The table with other constraints on the column at `index`; `none` if there
is no such column. -/
def withConstraints? (create : CreateTable) (index : Nat) (constraints : Constraints) :
    Option CreateTable :=
  create.columns[index]?.map fun column =>
    { create with columns := create.columns.set index { column with constraints } }

end CreateTable

namespace Statement

/-- The table that the statement is about. -/
def table : Statement → String
  | .createTable create => create.table
  | .dropTable drop => drop.table
  | .select query => query.table
  | .insert row => row.table

/-- The words that name the kind of statement. -/
def kind : Statement → String
  | .createTable _ => "CREATE TABLE"
  | .dropTable _ => "DROP TABLE"
  | .select _ => "SELECT"
  | .insert _ => "INSERT"

/-- The statement about another table. -/
def onTable (table : String) : Statement → Statement
  | .createTable create => .createTable { create with table }
  | .dropTable drop => .dropTable { drop with table }
  | .select query => .select { query with table }
  | .insert row => .insert { row with table }

end Statement

end CqlCompiler
