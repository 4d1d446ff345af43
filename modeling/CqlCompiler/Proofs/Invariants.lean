import CqlCompiler.Proofs.Shapes
import Mathlib

/-!
# What holds of every statement of a text

The types of statements admit more than a text can say: a table without columns,
a row with more values than columns, a type that is unrecognised under a name
that is recognised.  Whoever writes a statement out, pairs the columns of a row
with its values or adds a column to a row relies on the absence of these.

There are three groups.

* Tables.  A type that a word names is recognised, or its name is in lower case and
  is no recognised one.
* Queries.  A lone star is not kept as a name, and no column keeps its qualifier.
* Rows.  `Insert.Paired` says that each column has a value.  Adding a column keeps
  it, and so do any number of additions.

`Statement.wellFormed_of_ofSql` is the result.
-/

namespace CqlCompiler

open CqlCompiler.Parser

/-! ## Tables -/

/-- A name that an unrecognised type can have. -/
structure IsUnrecognised (name : String) : Prop where
  lower : Text.lower name = name
  not_mem : name ∉ ColumnType.recognised.map ColumnType.name

theorem Text.lower_lower (text : String) : lower (lower text) = lower text := by
  simp only [lower, String.toList_ofList, List.map_map, Function.comp_def,
    Char.toLower_toLower_eq_toLower]

theorem ColumnType.isUnrecognised_of_ofName {word name : String} (h : ofName word = .other name) :
    IsUnrecognised name := by
  unfold ofName at h
  cases hfound : recognised? (Text.lower word) with
  | none =>
    rw [hfound, Option.getD_none] at h
    obtain rfl := ColumnType.other.inj h
    refine ⟨Text.lower_lower word, ?_⟩
    simpa [recognised?, List.find?_eq_none] using hfound
  | some type =>
    -- the recognised types are listed, and none of them is a type by its name alone
    rw [hfound, Option.getD_some] at h
    have hmem : .other name ∈ recognised := h ▸ List.mem_of_find?_eq_some hfound
    simp [recognised] at hmem

/-- The type of a column is the one that a word names. -/
def TableElement.IsTyped : TableElement → Prop
  | .column found _ => ∃ word, found.type = .ofName word
  | .primaryKey _ => True

theorem yields_isTyped : Yields Token.WellShaped SpellsElement TableElement.IsTyped := by
  intro phrase element hspells _
  cases hspells with
  | column name typeName hsizes hclauses => exact ⟨typeName, rfl⟩
  | primaryKey hnames => trivial

/-- A table of a text: it is well shaped, and what it calls an unrecognised type is
one. -/
structure CreateTable.WellFormed (create : CreateTable) : Prop extends create.WellShaped where
  types : ∀ column ∈ create.columns, ∀ name, column.type = .other name → IsUnrecognised name

theorem yields_createTable_wellFormed :
    Yields Token.WellShaped SpellsCreateTable CreateTable.WellFormed := by
  intro phrase create hspells hitems
  refine ⟨yields_createTable _ _ hspells hitems, ?_⟩
  obtain ⟨table, hguard, helements, -⟩ := hspells
  have htyped := yields_isTyped.elements _ _ helements fun token htoken =>
    hitems token (by simp [htoken])
  intro column hcolumn name hname
  obtain ⟨inKey, helement⟩ := exists_element_of_mem_columnsOf hcolumn
  obtain ⟨word, hword⟩ := htyped _ helement
  exact ColumnType.isUnrecognised_of_ofName (hword.symm.trans hname)

/-! ## Queries -/

/-- A query of a text: it is well shaped, a list of names is not empty and not a star
alone, and no qualifier is left in the column that orders the rows. -/
structure Select.WellFormed (query : Select) : Prop extends query.WellShaped where
  named : ∀ names, query.projection = .columns names → names ≠ [] ∧ names ≠ ["*"]
  order : ∀ order ∈ query.order, IsColumnWord order.column

theorem Projection.ofNames_eq_columns {names names' : List String}
    (h : ofNames names = .columns names') : names' = names ∧ names ≠ ["*"] := by
  unfold ofNames at h
  split at h
  · cases h
  · rename_i hstar
    exact ⟨(Projection.columns.inj h).symm, hstar⟩

theorem yields_select_wellFormed :
    Yields Token.WellShaped SpellsSelect Select.WellFormed := by
  intro phrase query hspells hitems
  have hshaped := yields_select _ _ hspells hitems
  obtain ⟨table, hnames, hconditions, hoptions⟩ := hspells
  refine ⟨hshaped, ?_,
    yields_columnName.orderColumn hoptions fun token htoken => hitems token (by simp [htoken])⟩
  intro names hprojection
  obtain ⟨rfl, hstar⟩ := Projection.ofNames_eq_columns hprojection
  exact ⟨hnames.ne_nil, hstar⟩

/-! ## Rows -/

namespace Insert

/-- There are columns, and each of them has a value. -/
structure Paired (row : Insert) : Prop where
  columns_ne_nil : row.columns ≠ []
  length_eq : row.columns.length = row.values.length

/-- The columns with their values. -/
def pairs (row : Insert) : List (String × Value) :=
  row.columns.zip row.values

/-- The row with more columns, one after the other. -/
def withColumns (row : Insert) (additions : List (String × Value)) : Insert :=
  additions.foldl (fun row addition => row.withColumn addition.1 addition.2) row

theorem Paired.withColumn {row : Insert} (h : row.Paired) (column : String) (value : Value) :
    (row.withColumn column value).Paired := by
  obtain ⟨-, hlength⟩ := h
  constructor
  · simp [Insert.withColumn]
  · simp [Insert.withColumn, hlength]

theorem Paired.pairs_withColumn {row : Insert} (h : row.Paired) (column : String) (value : Value) :
    (row.withColumn column value).pairs = row.pairs ++ [(column, value)] :=
  List.zip_append h.length_eq

theorem Paired.withColumns {row : Insert} (h : row.Paired) (additions : List (String × Value)) :
    (row.withColumns additions).Paired ∧
      (row.withColumns additions).pairs = row.pairs ++ additions := by
  induction additions generalizing row with
  | nil => exact ⟨h, (List.append_nil _).symm⟩
  | cons addition additions ih =>
    obtain ⟨hpaired, hpairs⟩ := ih (h.withColumn addition.1 addition.2)
    refine ⟨hpaired, hpairs.trans ?_⟩
    rw [h.pairs_withColumn, List.append_assoc]
    rfl

/-- A row of a text: it is well shaped, and each column has a value. -/
structure WellFormed (row : Insert) : Prop extends row.WellShaped, row.Paired

end Insert

theorem yields_insert_wellFormed :
    Yields Token.WellShaped SpellsInsert Insert.WellFormed := by
  intro phrase row hspells hitems
  refine ⟨yields_insert _ _ hspells hitems, ?_⟩
  obtain ⟨table, ⟨hcolumns⟩, hvalues, hlength⟩ := hspells
  exact ⟨hcolumns.ne_nil, hlength⟩

/-! ## Statements -/

namespace Statement

def WellFormed : Statement → Prop
  | .createTable create => create.WellFormed
  | .dropTable drop => IsName drop.table
  | .select query => query.WellFormed
  | .insert row => row.WellFormed

/-- The values of a statement: defaults, compared values and the values of a row. -/
def values : Statement → List Value
  | .createTable create => create.columns.filterMap (·.constraints.default)
  | .dropTable _ => []
  | .select query => query.conditions.map (·.value)
  | .insert row => row.values

theorem yields_bare_wellFormed : Yields Token.WellShaped SpellsBare WellFormed := by
  intro phrase statement hspells hitems
  cases hspells with
  | createTable h => exact yields_createTable_wellFormed _ _ h hitems
  | dropTable h => exact yields_bare _ _ (.dropTable h) hitems
  | select h => exact yields_select_wellFormed _ _ h hitems
  | insert h => exact yields_insert_wellFormed _ _ h hitems

theorem WellShaped.isName_table {statement : Statement} (h : statement.WellShaped) :
    IsName statement.table := by
  cases statement with
  | createTable create => exact CreateTable.WellShaped.table h
  | dropTable drop => exact h
  | select query => exact Select.WellShaped.table h
  | insert row => exact Insert.WellShaped.table h

theorem WellShaped.of_mem_values {statement : Statement} {value : Value}
    (h : statement.WellShaped) (hvalue : value ∈ statement.values) : value.WellShaped := by
  cases statement with
  | createTable create =>
    obtain ⟨column, hcolumn, hdefault⟩ := List.mem_filterMap.mp hvalue
    exact ((CreateTable.WellShaped.columns h column hcolumn).default value hdefault).1
  | dropTable drop => cases hvalue
  | select query =>
    obtain ⟨condition, hcondition, rfl⟩ := List.mem_map.mp hvalue
    exact (Select.WellShaped.conditions h condition hcondition).value
  | insert row => exact Insert.WellShaped.values h value hvalue

/-- Every statement of a text is well formed.  Its table has a name, its values are
those that a text can spell, and integers are no larger than the type allows.  The
columns and values of a row stay in pairs under any additions, and the pairs of the
text come first. -/
theorem wellFormed_of_ofSql {sql : String} {statement : Statement}
    (h : ofSql sql = .ok statement) :
    IsName statement.table ∧ statement.WellFormed ∧
    (∀ value ∈ statement.values, value.WellShaped) ∧
    (∀ number, .int number ∈ statement.values → 0 ≤ number.toInt ∧ number.toInt ≤ 2 ^ 63 - 1) ∧
    ∀ row, statement = .insert row → ∀ additions,
      (row.withColumns additions).Paired ∧
        (row.withColumns additions).pairs = row.pairs ++ additions := by
  have hshaped := wellShaped_of_ofSql h
  obtain ⟨tokens, hspells, htokens⟩ := exists_spelling_of_ofSql h
  obtain ⟨phrase, ending, hbare, -, rfl⟩ := hspells.exists_bare
  have hformed := yields_bare_wellFormed _ _ hbare (List.forall_mem_append.mp htokens).1
  refine ⟨hshaped.isName_table, hformed, fun value => hshaped.of_mem_values, ?_, ?_⟩
  · intro number hnumber
    cases hshaped.of_mem_values hnumber with
    | int hnonneg => exact ⟨hnonneg, number.toInt_le⟩
  · rintro row rfl additions
    exact (Insert.WellFormed.toPaired hformed).withColumns additions

/-- A type that is not recognised, and a row with the largest integer that gets one
more column. -/
theorem wellFormed_of_ofSql_of_added_column :
    ofSql "CREATE TABLE t (a Money DEFAULT nil)" =
        .ok (.createTable
          ⟨"t", false, [⟨"a", .other "money", ⟨true, some (.identifier "nil")⟩⟩], []⟩) ∧
      IsUnrecognised "money" ∧
      ofSql "insert INTO k.t (*, é) VALUES (9223372036854775807, 007.50);" =
        .ok (.insert ⟨"k.t", ["*", "é"], [.int 9223372036854775807, .decimal "007.50"]⟩) ∧
      IsName "k.t" ∧
      Insert.pairs (Insert.withColumns
          ⟨"k.t", ["*", "é"], [.int 9223372036854775807, .decimal "007.50"]⟩
          [("id", .identifier "now()")]) =
        [("*", .int 9223372036854775807), ("é", .decimal "007.50"),
          ("id", .identifier "now()")] := by
  have hcreate : ofSql "CREATE TABLE t (a Money DEFAULT nil)" =
      .ok (.createTable
        ⟨"t", false, [⟨"a", .other "money", ⟨true, some (.identifier "nil")⟩⟩], []⟩) :=
    ofSql_eq_ok_of_toOption (by decide +kernel)
  have hinsert : ofSql "insert INTO k.t (*, é) VALUES (9223372036854775807, 007.50);" =
      .ok (.insert ⟨"k.t", ["*", "é"], [.int 9223372036854775807, .decimal "007.50"]⟩) :=
    ofSql_eq_ok_of_toOption (by decide +kernel)
  obtain ⟨-, hformed, -⟩ := wellFormed_of_ofSql hcreate
  obtain ⟨htable, -, -, -, hrow⟩ := wellFormed_of_ofSql hinsert
  have htype := CreateTable.WellFormed.types hformed _ List.mem_cons_self _ rfl
  exact ⟨hcreate, htype, hinsert, htable, (hrow _ rfl _).2⟩

end Statement

end CqlCompiler
