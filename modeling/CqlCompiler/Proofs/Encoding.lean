import CqlCompiler.Proofs.Numerals
import CqlCompiler.Statement.Json
import CqlCompiler.Token.Json

/-!
# JSON loses nothing

Every statement and every token reads back from its JSON value.  So no two
names of alternatives clash, no field is written under the key of another one
or of the tag, and all 64 bits of a number are kept.

There are three groups.

* Parts of JSON values.  A field is found by its key, whatever the other fields
  are; a list reads back if its items do.
* Parts of statements, one `lossless` for each type.
* Statements and tokens.  `toJson_lossless` is the result, with the forms that
  the values have.
-/

namespace CqlCompiler

namespace Json

/-- What is written reads back. -/
def Lossless {α : Type} (encode : α → Json) (decode? : Json → Option α) : Prop :=
  ∀ content, decode? (encode content) = some content

section

variable {α : Type} {encode : α → Json} {decode? : Json → Option α} {key other : String}
  {json : Json} {members : List (String × Json)}

theorem Lossless.injective (h : Lossless encode decode?) : Function.Injective encode := by
  intro first second heq
  have hfirst := h first
  rw [heq, h second] at hfirst
  exact (Option.some.inj hfirst).symm

theorem get?_cons_self : get? key ((key, json) :: members) = some json :=
  List.lookup_cons_self

theorem get?_cons_of_ne (h : key ≠ other) :
    get? key ((other, json) :: members) = get? key members := by
  have hkey : (key == other) = false := beq_false_of_ne h
  simp only [get?, List.lookup_cons, hkey]

@[simp] theorem field?_cons_self : field? decode? key ((key, json) :: members) = decode? json := by
  rw [field?, get?_cons_self, Option.bind_some]

@[simp] theorem field?_cons_of_ne (h : key ≠ other) :
    field? decode? key ((other, json) :: members) = field? decode? key members := by
  rw [field?, field?, get?_cons_of_ne h]

@[simp] theorem optionalField?_cons_of_ne (h : key ≠ other) :
    optionalField? decode? key ((other, json) :: members) =
      optionalField? decode? key members := by
  rw [optionalField?, optionalField?, get?_cons_of_ne h]

theorem optionalField?_cons_self (h : json ≠ .null) :
    optionalField? decode? key ((key, json) :: members) = (decode? json).map some := by
  rw [optionalField?, get?_cons_self]
  cases json with
  | null => exact absurd rfl h
  | _ => rfl

/-- A content that is never null can be told apart from none. -/
theorem Lossless.optionalField?_ofOption (h : Lossless encode decode?)
    (hnull : ∀ content, encode content ≠ .null) (content : Option α) :
    optionalField? decode? key ((key, ofOption encode content) :: members) = some content := by
  cases content with
  | none => rw [ofOption, optionalField?, get?_cons_self]
  | some content =>
    rw [ofOption, optionalField?_cons_self (hnull content), h content, Option.map_some]

theorem Lossless.list?_map (h : Lossless encode decode?) (items : List α) :
    list? decode? (.arr (items.map encode)) = some items := by
  have hitems : (items.map encode).mapM decode? = some items := by
    induction items with
    | nil => rfl
    | cons item items ih => simp [h item, ih]
  exact hitems

end

theorem lossless_str : Lossless .str str? :=
  fun _ => rfl

theorem lossless_int64 : Lossless (fun number : Int64 => .int number.toInt) int64? :=
  fun _ => Text.Numeral.toInt64?_eq_some_iff.mpr rfl

theorem tagged?_cons_self (key tag : String) (members : List (String × Json)) :
    tagged? key (.obj ((key, .str tag) :: members)) =
      some (tag, .obj ((key, .str tag) :: members)) := by
  rw [tagged?, field?_cons_self]
  rfl

end Json

open Json

/-! ## Parts of statements -/

theorem ColumnType.lossless (noContent : NoContent) : Lossless toJson (ofJson? noContent) := by
  intro type
  cases type with
  | other name => rfl
  | _ => rfl

theorem Value.lossless (noContent : NoContent) : Lossless toJson (ofJson? noContent) := by
  intro value
  cases value with
  | int number => exact congrArg (Option.map Value.int) (lossless_int64 number)
  | _ => rfl

theorem Value.toJson_ne_null (value : Value) : value.toJson ≠ .null := by
  cases value <;> simp [toJson]

theorem Constraints.lossless (noContent : NoContent) : Lossless toJson (ofJson? noContent) := by
  intro constraints
  simp [toJson, ofJson?, record?, bool?,
    (Value.lossless noContent).optionalField?_ofOption Value.toJson_ne_null]

theorem Column.lossless (noContent : NoContent) : Lossless toJson (ofJson? noContent) := by
  intro column
  simp [toJson, ofJson?, record?, lossless_str column.name,
    ColumnType.lossless noContent column.type, Constraints.lossless noContent column.constraints]

theorem Projection.lossless (noContent : NoContent) : Lossless toJson (ofJson? noContent) := by
  intro projection
  cases projection with
  | all => rfl
  | columns names => exact congrArg (Option.map Projection.columns) (lossless_str.list?_map names)

theorem Condition.lossless (noContent : NoContent) : Lossless toJson (ofJson? noContent) := by
  intro condition
  simp [toJson, ofJson?, record?, bareVariant?, variant?, lossless_str condition.column,
    Value.lossless noContent condition.value]

theorem Direction.lossless (noContent : NoContent) : Lossless toJson (ofJson? noContent) := by
  intro direction
  cases direction <;> rfl

theorem RowOrder.lossless (noContent : NoContent) : Lossless toJson (ofJson? noContent) := by
  intro order
  simp [toJson, ofJson?, record?, lossless_str order.column,
    Direction.lossless noContent order.direction]

theorem RowOrder.toJson_ne_null (order : RowOrder) : order.toJson ≠ .null := by
  simp [toJson]

theorem Select.lossless_limit : Lossless limitJson uint64? := by
  intro limit
  simp [limitJson, uint64?, int?, Text.Numeral.toUInt64?_eq_some_iff]

theorem Select.limitJson_ne_null (limit : UInt64) : limitJson limit ≠ .null := by
  simp [limitJson]

/-! ## Statements and tokens -/

theorem CreateTable.lossless :
    Lossless (fun create => Statement.toJson (.createTable create)) ofJson? := by
  intro create
  simp [Statement.toJson, ofJson?, record?, bool?, lossless_str create.table,
    (Column.lossless _).list?_map, lossless_str.list?_map]

theorem DropTable.lossless : Lossless (fun drop => Statement.toJson (.dropTable drop)) ofJson? := by
  intro drop
  simp [Statement.toJson, ofJson?, record?, bool?, lossless_str drop.table]

theorem Select.lossless : Lossless (fun query => Statement.toJson (.select query)) ofJson? := by
  intro query
  simp [Statement.toJson, ofJson?, record?, lossless_str query.table,
    Projection.lossless _ query.projection, (Condition.lossless _).list?_map,
    lossless_limit.optionalField?_ofOption limitJson_ne_null,
    (RowOrder.lossless _).optionalField?_ofOption RowOrder.toJson_ne_null]

theorem Insert.lossless : Lossless (fun row => Statement.toJson (.insert row)) ofJson? := by
  intro row
  simp [Statement.toJson, ofJson?, record?, lossless_str row.table,
    lossless_str.list?_map, (Value.lossless _).list?_map]

/-- The tag tells the four records apart, and each of them can do with the tag
among its fields. -/
theorem Statement.lossless : Lossless Statement.toJson Statement.ofJson? := by
  intro statement
  cases statement with
  | createTable create =>
    rw [ofJson?, toJson, tagged?_cons_self]
    exact congrArg (Option.map Statement.createTable) (CreateTable.lossless create)
  | dropTable drop =>
    rw [ofJson?, toJson, tagged?_cons_self]
    exact congrArg (Option.map Statement.dropTable) (DropTable.lossless drop)
  | select query =>
    rw [ofJson?, toJson, tagged?_cons_self]
    exact congrArg (Option.map Statement.select) (Select.lossless query)
  | insert row =>
    rw [ofJson?, toJson, tagged?_cons_self]
    exact congrArg (Option.map Statement.insert) (Insert.lossless row)

theorem TokenKind.lossless : Lossless TokenKind.toJson TokenKind.ofJson? := by
  intro kind
  cases kind <;> rfl

theorem Token.lossless : Lossless Token.toJson Token.ofJson? := by
  intro token
  simp [toJson, ofJson?, record?, lossless_str token.value, TokenKind.lossless token.kind]

/-! ## Forms -/

namespace Json

/-- A name in lower case, with underscores between its words. -/
def IsSnakeCase (name : String) : Prop :=
  name.toList.all (fun c => c.isLower || c == '_') = true

instance (name : String) : Decidable (IsSnakeCase name) :=
  inferInstanceAs (Decidable (_ = true))

/-- The name of an alternative, alone or as the only key over its content. -/
inductive IsAlternative : Json → Prop where
  | bare {name : String} (hname : IsSnakeCase name) : IsAlternative (.str name)
  | over {name : String} (hname : IsSnakeCase name) (content : Json) :
      IsAlternative (.obj [(name, content)])

/-- A record that names its kind in its first field, and whose other fields have
other keys. -/
inductive IsTagged (key : String) : Json → Prop where
  | intro {kind : String} {fields : List (String × Json)} (hkind : IsSnakeCase kind)
      (hfields : key ∉ fields.map Prod.fst) : IsTagged key (.obj ((key, .str kind) :: fields))

end Json

theorem Statement.isTagged_toJson (statement : Statement) : IsTagged "type" statement.toJson := by
  cases statement <;> exact .intro (by decide) (by simp)

theorem Value.isAlternative_toJson (value : Value) : IsAlternative value.toJson := by
  cases value with
  | placeholder => exact .bare (by decide)
  | _ => exact .over (by decide) _

theorem Projection.isAlternative_toJson (projection : Projection) :
    IsAlternative projection.toJson := by
  cases projection with
  | all => exact .bare (by decide)
  | columns names => exact .over (by decide) _

theorem ColumnType.isAlternative_toJson (type : ColumnType) : IsAlternative type.toJson := by
  cases type with
  | other name => exact .over (by decide) _
  | _ => exact .bare (by decide)

theorem Direction.exists_toJson_eq_str (direction : Direction) :
    ∃ word, direction.toJson = .str word ∧ word.toList.all Char.isUpper = true := by
  cases direction <;> exact ⟨_, rfl, by decide⟩

/-- Every statement and every token reads back from its JSON value, so different
ones have different values.  A statement is a record with its kind among its
fields, values, projections and column types are alternatives, and the direction
of a sort is a word in upper case. -/
theorem toJson_lossless :
    (∀ statement : Statement, Statement.ofJson? statement.toJson = some statement) ∧
    (∀ token : Token, Token.ofJson? token.toJson = some token) ∧
    Function.Injective Statement.toJson ∧ Function.Injective Token.toJson ∧
    (∀ statement : Statement, IsTagged "type" statement.toJson) ∧
    (∀ value : Value, IsAlternative value.toJson) ∧
    (∀ projection : Projection, IsAlternative projection.toJson) ∧
    (∀ type : ColumnType, IsAlternative type.toJson) ∧
    ∀ direction : Direction,
      ∃ word, direction.toJson = .str word ∧ word.toList.all Char.isUpper = true :=
  ⟨Statement.lossless, Token.lossless, Statement.lossless.injective, Token.lossless.injective,
    Statement.isTagged_toJson, Value.isAlternative_toJson, Projection.isAlternative_toJson,
    ColumnType.isAlternative_toJson, Direction.exists_toJson_eq_str⟩

end CqlCompiler
