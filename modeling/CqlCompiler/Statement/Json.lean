import CqlCompiler.Json.Record
import CqlCompiler.Statement

/-!
# Statements in JSON

A statement is a record whose first field names its kind.  Values, column types
and projections are alternatives.  The fields stand in the order of the
records, and a field that may be missing is written as null.  The parts of a
statement can be read by themselves too; what may stand for an alternative
without content depends on that.
-/

namespace CqlCompiler

/-! ## Column types and values -/

/-- The column type in JSON: a recognised type is its name alone. -/
def ColumnType.toJson : ColumnType → Json
  | .other name => .obj [("other", .str name)]
  | type => .str type.name

/-- Reads a column type. -/
def ColumnType.ofJson? (noContent : Json.NoContent) (json : Json) : Option ColumnType :=
  match json.variant? with
  | some ("other", content) => (content.bind Json.str?).map .other
  | _ => (json.bareVariant? noContent).bind recognised?

/-- The value in JSON. -/
def Value.toJson : Value → Json
  | .string text => .obj [("string", .str text)]
  | .int number => .obj [("int", .int number.toInt)]
  | .decimal numeral => .obj [("decimal", .str numeral)]
  | .bool truth => .obj [("bool", .bool truth)]
  | .placeholder => .str "placeholder"
  | .identifier word => .obj [("identifier", .str word)]

/-- Reads a value. -/
def Value.ofJson? (noContent : Json.NoContent) (json : Json) : Option Value :=
  match json.variant? with
  | some ("string", some content) => content.str?.map .string
  | some ("int", some content) => content.int64?.map .int
  | some ("decimal", some content) => content.str?.map .decimal
  | some ("bool", some content) => content.bool?.map .bool
  | some ("identifier", some content) => content.str?.map .identifier
  | _ => if json.bareVariant? noContent = some "placeholder" then some .placeholder else none

/-! ## Columns -/

/-- The constraints of a column in JSON. -/
def Constraints.toJson (constraints : Constraints) : Json :=
  .obj [("nullable", .bool constraints.nullable),
    ("default", Json.ofOption Value.toJson constraints.default)]

/-- Reads the constraints of a column. -/
def Constraints.ofJson? (noContent : Json.NoContent) (json : Json) : Option Constraints := do
  let members ← json.record? ["nullable", "default"]
  let nullable ← Json.field? Json.bool? "nullable" members
  let default ← Json.optionalField? (Value.ofJson? noContent) "default" members
  return { nullable, default }

/-- The column in JSON. -/
def Column.toJson (column : Column) : Json :=
  .obj [("name", .str column.name), ("sql_type", column.type.toJson),
    ("constraints", column.constraints.toJson)]

/-- Reads a column. -/
def Column.ofJson? (noContent : Json.NoContent) (json : Json) : Option Column := do
  let members ← json.record? ["name", "sql_type", "constraints"]
  let name ← Json.field? Json.str? "name" members
  let type ← Json.field? (ColumnType.ofJson? noContent) "sql_type" members
  let constraints ← Json.field? (Constraints.ofJson? noContent) "constraints" members
  return { name, type, constraints }

/-! ## The parts of a query -/

/-- The columns of a query in JSON. -/
def Projection.toJson : Projection → Json
  | .all => .str "all"
  | .columns names => .obj [("columns", .arr (names.map .str))]

/-- Reads the columns of a query. -/
def Projection.ofJson? (noContent : Json.NoContent) (json : Json) : Option Projection :=
  match json.variant? with
  | some ("columns", some content) => (content.list? Json.str?).map .columns
  | _ => if json.bareVariant? noContent = some "all" then some .all else none

/-- The condition in JSON.  Equality is the only relation there is. -/
def Condition.toJson (condition : Condition) : Json :=
  .obj [("left", .str condition.column), ("op", .str "Eq"), ("right", condition.value.toJson)]

/-- Reads a condition. -/
def Condition.ofJson? (noContent : Json.NoContent) (json : Json) : Option Condition := do
  let members ← json.record? ["left", "op", "right"]
  let column ← Json.field? Json.str? "left" members
  let relation ← Json.field? (Json.bareVariant? noContent) "op" members
  let value ← Json.field? (Value.ofJson? noContent) "right" members
  if relation = "Eq" then some { column, value } else none

/-- The direction of a sort in JSON. -/
def Direction.toJson (direction : Direction) : Json :=
  .str direction.word

/-- Reads the direction of a sort. -/
def Direction.ofJson? (noContent : Json.NoContent) (json : Json) : Option Direction :=
  (json.bareVariant? noContent).bind fun text => [ascending, descending].find? (·.word == text)

/-- The order of a query in JSON. -/
def RowOrder.toJson (order : RowOrder) : Json :=
  .obj [("column", .str order.column), ("direction", order.direction.toJson)]

/-- Reads the order of a query. -/
def RowOrder.ofJson? (noContent : Json.NoContent) (json : Json) : Option RowOrder := do
  let members ← json.record? ["column", "direction"]
  let column ← Json.field? Json.str? "column" members
  let direction ← Json.field? (Direction.ofJson? noContent) "direction" members
  return { column, direction }

/-! ## Statements -/

/-- The row count of a query in JSON. -/
def Select.limitJson (limit : UInt64) : Json :=
  .int limit.toNat

/-- The statement in JSON. -/
def Statement.toJson : Statement → Json
  | .createTable create =>
    .obj [("type", .str "create_table"), ("table_name", .str create.table),
      ("if_not_exists", .bool create.ifNotExists),
      ("columns", .arr (create.columns.map Column.toJson)),
      ("primary_key", .arr (create.primaryKey.map .str))]
  | .dropTable drop =>
    .obj [("type", .str "drop_table"), ("table_name", .str drop.table),
      ("if_exists", .bool drop.ifExists)]
  | .select query =>
    .obj [("type", .str "select"), ("columns", query.projection.toJson),
      ("table_name", .str query.table),
      ("conditions", .arr (query.conditions.map Condition.toJson)),
      ("limit", Json.ofOption Select.limitJson query.limit),
      ("order_by", Json.ofOption RowOrder.toJson query.order)]
  | .insert row =>
    .obj [("type", .str "insert"), ("table_name", .str row.table),
      ("columns", .arr (row.columns.map .str)), ("values", .arr (row.values.map Value.toJson))]

/-- Reads a statement that makes a table. -/
def CreateTable.ofJson? (json : Json) : Option CreateTable := do
  let members ← json.record? ["table_name", "if_not_exists", "columns", "primary_key"]
  let table ← Json.field? Json.str? "table_name" members
  let ifNotExists ← Json.field? Json.bool? "if_not_exists" members
  let columns ← Json.field? (Json.list? (Column.ofJson? .nullOrEmptyObject)) "columns" members
  let primaryKey ← Json.field? (Json.list? Json.str?) "primary_key" members
  return { table, ifNotExists, columns, primaryKey }

/-- Reads a statement that removes a table. -/
def DropTable.ofJson? (json : Json) : Option DropTable := do
  let members ← json.record? ["table_name", "if_exists"]
  let table ← Json.field? Json.str? "table_name" members
  let ifExists ← Json.field? Json.bool? "if_exists" members
  return { table, ifExists }

/-- Reads a query. -/
def Select.ofJson? (json : Json) : Option Select := do
  let members ← json.record? ["columns", "table_name", "conditions", "limit", "order_by"]
  let projection ← Json.field? (Projection.ofJson? .nullOrEmptyObject) "columns" members
  let table ← Json.field? Json.str? "table_name" members
  let conditions ← Json.field? (Json.list? (Condition.ofJson? .nullOrEmptyObject)) "conditions" members
  let limit ← Json.optionalField? Json.uint64? "limit" members
  let order ← Json.optionalField? (RowOrder.ofJson? .nullOrEmptyObject) "order_by" members
  return { projection, table, conditions, limit, order }

/-- Reads a statement that adds a row. -/
def Insert.ofJson? (json : Json) : Option Insert := do
  let members ← json.record? ["table_name", "columns", "values"]
  let table ← Json.field? Json.str? "table_name" members
  let columns ← Json.field? (Json.list? Json.str?) "columns" members
  let values ← Json.field? (Json.list? (Value.ofJson? .nullOrEmptyObject)) "values" members
  return { table, columns, values }

/-- Reads a statement. -/
def Statement.ofJson? (json : Json) : Option Statement :=
  match json.tagged? "type" with
  | some ("create_table", record) => (CreateTable.ofJson? record).map .createTable
  | some ("drop_table", record) => (DropTable.ofJson? record).map .dropTable
  | some ("select", record) => (Select.ofJson? record).map .select
  | some ("insert", record) => (Insert.ofJson? record).map .insert
  | _ => none

end CqlCompiler
