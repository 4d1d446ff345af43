import CqlCompiler.Compile
import CqlCompiler.Proofs.Blobs
import CqlCompiler.Proofs.Quoting
import CqlCompiler.Proofs.Shapes

/-!
# One statement in, one statement out

Whatever a SQL text says, its CQL text should be one statement: no name and no
value may end it early, leave a quote open or begin a comment.

Names, numbers and truth values are harmless because tokens have a shape, and
strings because they are quoted.  The exception is the default of a column: for
a column of a numeric type the text of a string is written as it is.

* `compile_isOneStatement` : queries, rows and removals are one statement.
* `compile_createTable_isOneStatement_iff` : a new table is one statement
  exactly when its defaults, read one after the other, are harmless.
-/

namespace CqlCompiler

open CqlCompiler.Cql

/-- The characters that a statement ends with or a comment begins with. -/
def sensitive : List Char :=
  [';', '-', '/']

/-- The marks that begin a comment. -/
def commentMarks : List String :=
  ["--", "//", "/*"]

/-! ## Names and numbers -/

theorem plain_of_forall_isWordChar {marks text : List Char}
    (hmarks : marks.any Token.isWordChar = false)
    (h : ∀ c ∈ text, Token.isWordChar c = true) : Plain marks text := by
  intro c hc
  have hword := h c hc
  constructor
  · rw [Option.eq_none_iff_forall_ne_some]
    intro region hregion
    rcases Region.opened?_eq_some_iff.mp hregion with ⟨rfl, -⟩ | ⟨rfl, -⟩ <;>
      revert hword <;> decide
  · intro hmem
    exact List.any_eq_false.mp hmarks c hmem hword

theorem plain_of_isWordChar {text : List Char} (h : ∀ c ∈ text, Token.isWordChar c = true) :
    Plain sensitive text :=
  plain_of_forall_isWordChar (by decide) h

theorem IsName.plain {name : String} (h : IsName name) : Plain sensitive name.toList :=
  plain_of_isWordChar h.chars

theorem IsColumnWord.plain {name : String} (h : IsColumnWord name) : Plain sensitive name.toList :=
  plain_of_isWordChar h.chars

theorem IsDigits.plain {text : String} (h : IsDigits text) : Plain sensitive text.toList :=
  plain_of_isWordChar fun c hc => Token.isWordChar_of_isDigit (h.chars c hc)

theorem plain_ofNat (n : Nat) : Plain sensitive (Text.Numeral.ofNat n).toList := by
  rw [Text.Numeral.ofNat, String.toList_ofList]
  exact plain_of_isWordChar fun c hc =>
    Token.isWordChar_of_isDigit (Nat.isDigit_of_mem_toDigits (by decide) (by decide) hc)

theorem plain_boolWord (truth : Bool) : Plain sensitive (Value.boolWord truth).toList := by
  cases truth <;> decide

theorem isWordChar_of_isHexDigit {c : Char} (h : Text.isHexDigit c = true) :
    Token.isWordChar c = true := by
  have hascii : c.toNat < 0x80 ∧ c.isAlphanum = true := by
    rw [Text.isAlphanum_iff]
    simp only [Text.isHexDigit, Bool.or_eq_true, Bool.and_eq_true, decide_eq_true_eq,
      Text.isDigit_iff, Char.le_def, UInt32.le_iff_toNat_le] at h
    change (((48 ≤ c.toNat ∧ c.toNat ≤ 57) ∨ (97 ≤ c.toNat ∧ c.toNat ≤ 102)) ∨
      (65 ≤ c.toNat ∧ c.toNat ≤ 70)) at h
    omega
  simp [Token.isWordChar, Text.isAlphanumeric_of_ascii hascii.1, hascii.2]

/-- A blob literal has hexadecimal digits only, whatever the text. -/
theorem plain_blobLiteral (text : String) : Plain sensitive (Text.blobLiteral text).toList := by
  rw [Text.blobLiteral, String.toList_ofList]
  refine plain_of_isWordChar fun c hc => ?_
  simp only [List.mem_cons] at hc
  rcases hc with rfl | rfl | hc
  · decide
  · decide
  · exact isWordChar_of_isHexDigit (Text.isHexDigit_of_mem_blobDigits hc)

/-! ## Values -/

theorem harmless_quoteLiteral (text : String) :
    Harmless sensitive (Text.quoteLiteral text).toList := by
  have hquote : Region.opened? '\'' = some .single := rfl
  exact harmless_enclosed hquote (by decide) text

/-- A dotted name is quoted segment by segment. -/
theorem harmless_quoteIdentifier (name : String) :
    Harmless sensitive (Text.quoteIdentifier name).toList := by
  have hquote : Region.opened? '"' = some .double := rfl
  rw [Text.quoteIdentifier, String.toList_intercalate, List.map_map]
  refine Harmless.intercalate (Plain.harmless (by decide)) ?_
  intro text htext
  obtain ⟨segment, -, rfl⟩ := List.mem_map.mp htext
  exact harmless_enclosed hquote (by decide) _

/-- Only strings can hold anything. -/
theorem Value.WellShaped.plain_bareText {value : Value} (h : value.WellShaped)
    (hstring : ∀ text, value ≠ .string text) : Plain sensitive value.bareText.toList := by
  cases h with
  | string => exact absurd rfl (hstring _)
  | int hnonneg =>
    rw [bareText, Text.Numeral.ofSigned, if_neg (by omega)]
    exact plain_ofNat _
  | decimal hwhole hfraction =>
    rw [bareText, String.toList_append, String.toList_append]
    exact (hwhole.plain.append (by decide)).append hfraction.plain
  | bool truth => exact plain_boolWord truth
  | placeholder => decide
  | identifier hname => exact hname.plain

theorem Value.WellShaped.harmless_toCql {value : Value} (h : value.WellShaped) :
    Harmless sensitive value.toCql.toList := by
  cases value with
  | string text => exact harmless_quoteLiteral text
  | int | decimal | bool | placeholder | identifier => exact (h.plain_bareText (by simp)).harmless

/-! ## Queries, rows and removals -/

theorem harmless_intercalate {separator : String} {texts : List String}
    (hseparator : Plain sensitive separator.toList)
    (htexts : ∀ text ∈ texts, Harmless sensitive text.toList) :
    Harmless sensitive (separator.intercalate texts).toList := by
  rw [String.toList_intercalate]
  refine Harmless.intercalate hseparator.harmless ?_
  intro text htext
  obtain ⟨text, hmem, rfl⟩ := List.mem_map.mp htext
  exact htexts text hmem

theorem Condition.WellShaped.harmless_toCql {condition : Condition} (h : condition.WellShaped) :
    Harmless sensitive condition.toCql.toList := by
  rw [Condition.toCql, String.toList_append, String.toList_append]
  exact (h.column.plain.harmless.append (Plain.harmless (by decide))).append
    h.value.harmless_toCql

theorem Select.WellShaped.harmless_projection {query : Select} (h : query.WellShaped) :
    Harmless sensitive query.projection.toCql.toList := by
  cases hprojection : query.projection with
  | all => exact Plain.harmless (by decide)
  | columns names =>
    exact harmless_intercalate (by decide) fun name hname =>
      (h.projection names hprojection name hname).plain.harmless

theorem Select.WellShaped.harmless_whereClause {query : Select} (h : query.WellShaped) :
    Harmless sensitive query.whereClause.toList := by
  unfold Select.whereClause
  split
  · exact harmless_nil
  · rw [String.toList_append]
    refine (Plain.harmless (by decide)).append (harmless_intercalate (by decide) ?_)
    intro text htext
    obtain ⟨condition, hcondition, rfl⟩ := List.mem_map.mp htext
    exact (h.conditions condition hcondition).harmless_toCql

theorem harmless_limitClause (query : Select) :
    Harmless sensitive query.limitClause.toList := by
  unfold Select.limitClause
  split
  · exact harmless_nil
  · rw [String.toList_append]
    exact (Plain.harmless (by decide)).append (plain_ofNat _).harmless

/-- The text is harmless but for the semicolon at its end. -/
def Closes (cql : String) : Prop :=
  ∃ body, cql.toList = body ++ [';'] ∧ Harmless sensitive body

theorem closes_append {front last : String} (hfront : Harmless sensitive front.toList)
    (hlast : Closes last) : Closes (front ++ last) := by
  obtain ⟨body, hbody, hharmless⟩ := hlast
  refine ⟨front.toList ++ body, ?_, hfront.append hharmless⟩
  rw [String.toList_append, hbody, List.append_assoc]

theorem closes_semicolon : Closes ";" :=
  ⟨[], rfl, harmless_nil⟩

theorem Select.WellShaped.closes {query : Select} (h : query.WellShaped) :
    Closes query.toCql := by
  refine closes_append ?_ closes_semicolon
  simp only [String.toList_append]
  exact (((((Plain.harmless (by decide)).append h.harmless_projection).append
    (Plain.harmless (by decide))).append h.table.plain.harmless).append
    h.harmless_whereClause).append (harmless_limitClause query)

theorem Insert.WellShaped.closes {row : Insert} (h : row.WellShaped) : Closes row.toCql := by
  have hcolumns : Harmless sensitive (commaSeparated row.columns).toList :=
    harmless_intercalate (by decide) fun name hname => (h.columns name hname).plain.harmless
  have hvalues : Harmless sensitive (commaSeparated (row.values.map Value.toCql)).toList := by
    refine harmless_intercalate (by decide) fun text htext => ?_
    obtain ⟨value, hvalue, rfl⟩ := List.mem_map.mp htext
    exact (h.values value hvalue).harmless_toCql
  refine closes_append ?_ ⟨[')'], rfl, Plain.harmless (by decide)⟩
  simp only [String.toList_append]
  exact (((((Plain.harmless (by decide)).append h.table.plain.harmless).append
    (Plain.harmless (by decide))).append hcolumns).append (Plain.harmless (by decide))).append
    hvalues

theorem DropTable.closes (drop : DropTable) : Closes drop.toCql := by
  refine closes_append ?_ closes_semicolon
  rw [String.toList_append, String.toList_append]
  refine ((Plain.harmless (by decide)).append ?_).append (harmless_quoteIdentifier drop.table)
  split
  · exact Plain.harmless (by decide)
  · exact harmless_nil

theorem Closes.isOneStatement {cql : String} (h : Closes cql) : IsOneStatement cql.toList := by
  obtain ⟨body, hcql, hbody⟩ := h
  rw [hcql, isOneStatement_append_iff]
  exact hbody.mono (by simp [sensitive])

/-- A comment begins with a character that is not met outside quotes. -/
theorem Closes.not_exposes {cql mark : String} (h : Closes cql) (hmark : mark ∈ commentMarks) :
    ¬ Exposes cql.toList mark.toList := by
  obtain ⟨body, hcql, hbody⟩ := h
  have hsensitive : ∀ c ∈ ['-', '/'], c ∈ sensitive := by simp [sensitive]
  have hhidden : ∀ c ∈ ['-', '/'], c ∉ Region.outside.exposed cql.toList := by
    intro c hc hmem
    rw [hcql, Region.exposed_append, List.mem_append, hbody.closed] at hmem
    rcases hmem with hmem | hmem
    · exact hbody.hidden c hmem (hsensitive c hc)
    · rw [List.mem_singleton.mp hmem] at hc
      simp at hc
  simp only [commentMarks, List.mem_cons, List.not_mem_nil, or_false] at hmark
  intro hexposes
  rcases hmark with rfl | rfl | rfl
  · exact hhidden '-' (by simp) hexposes.mem_exposed
  · exact hhidden '/' (by simp) hexposes.mem_exposed
  · exact hhidden '/' (by simp) hexposes.mem_exposed

theorem compile_eq_ok {sql : String} {statement : Statement}
    (h : Statement.ofSql sql = .ok statement) : compile sql = .ok statement.toCql := by
  rw [compile, h]
  rfl

/-- The text of a query, a row or a removal is one statement, and it begins no
comment. -/
theorem compile_isOneStatement {sql : String} {statement : Statement}
    (hsql : Statement.ofSql sql = .ok statement)
    (hkind : (∃ query, statement = .select query) ∨ (∃ row, statement = .insert row) ∨
      ∃ drop, statement = .dropTable drop) :
    ∃ cql, compile sql = .ok cql ∧ IsOneStatement cql.toList ∧
      ∀ mark ∈ commentMarks, ¬ Exposes cql.toList mark.toList := by
  have hshaped := Statement.wellShaped_of_ofSql hsql
  have hcloses : Closes statement.toCql := by
    rcases hkind with ⟨query, rfl⟩ | ⟨row, rfl⟩ | ⟨drop, rfl⟩
    · exact Select.WellShaped.closes hshaped
    · exact Insert.WellShaped.closes hshaped
    · exact drop.closes
  exact ⟨statement.toCql, compile_eq_ok hsql, hcloses.isOneStatement,
    fun mark hmark => hcloses.not_exposes hmark⟩

theorem compile_isOneStatement_of_literal :
    ∃ cql, compile "SELECT a FROM t WHERE b = '\\';--' LIMIT 3" = .ok cql ∧
      IsOneStatement cql.toList ∧ ∀ mark ∈ commentMarks, ¬ Exposes cql.toList mark.toList := by
  have hsql : (Statement.ofSql "SELECT a FROM t WHERE b = '\\';--' LIMIT 3").toOption =
      some (.select ⟨.columns ["a"], "t", [⟨"b", .string "';--"⟩], some 3, none⟩) := by
    decide +kernel
  exact compile_isOneStatement (Statement.ofSql_eq_ok_of_toOption hsql) (.inl ⟨_, rfl⟩)

/-! ## New tables -/

/-- The default of a column as it is written; nothing if there is none. -/
def Column.defaultText (column : Column) : List Char :=
  match column.constraints.default with
  | none => []
  | some value => (value.defaultFor column.type).toList

def ColumnType.isNumeric : ColumnType → Bool
  | .integer | .int | .bigint | .float | .decimal => true
  | _ => false

theorem plain_cqlName (type : ColumnType) : Plain sensitive type.cqlName.toList := by
  cases type with
  | other name => exact (by decide : Plain sensitive "text".toList)
  | _ => decide

/-- Of a column nothing but its default can do harm. -/
theorem Column.WellShaped.sameEffect {column : Column} (h : column.WellShaped) :
    SameEffect sensitive column.toCql.toList column.defaultText := by
  have hnull : Plain sensitive
      (if column.constraints.nullable then "" else " NOT NULL").toList := by
    split <;> decide
  have hword : Plain sensitive " DEFAULT ".toList := by decide
  have hblank : Plain sensitive " ".toList := by decide
  have hfront := ((h.name.plain.sameEffect_nil.append hblank.sameEffect_nil).append
    (plain_cqlName column.type).sameEffect_nil).append hnull.sameEffect_nil
  unfold Column.toCql Column.defaultText
  simp only [String.toList_append]
  refine hfront.append ?_
  cases column.constraints.default with
  | none => exact .refl []
  | some value =>
    simp only [String.toList_append]
    exact hword.sameEffect_nil.append (.refl _)

/-- A default is harmless unless it is a string for a numeric column. -/
theorem Value.WellShaped.harmless_defaultFor {value : Value} {type : ColumnType}
    (h : value.WellShaped)
    (hstring : (∃ text, value = .string text) → type.isNumeric = false) :
    Harmless sensitive (value.defaultFor type).toList := by
  have hbare : type.isNumeric = true → Harmless sensitive value.bareText.toList := by
    intro hnumeric
    refine (h.plain_bareText ?_).harmless
    intro text hvalue
    simp [hstring ⟨text, hvalue⟩] at hnumeric
  unfold defaultFor
  split
  · cases h with
    | placeholder => exact Plain.harmless (by decide)
    | identifier hname => exact hname.plain.harmless
    | string | int | decimal | bool => simp [isVerbatim] at *
  · cases type with
    | integer | int | bigint | float | decimal => exact hbare rfl
    | boolean => exact (plain_boolWord _).harmless
    | binary | blob => exact (plain_blobLiteral _).harmless
    | string | varchar | text | datetime | timestamp | date | time | uuid | other =>
      exact harmless_quoteLiteral _

/-- A string for a numeric column is written as it is. -/
theorem Column.defaultText_of_isNumeric {column : Column} {text : String}
    (hnumeric : column.type.isNumeric = true)
    (hdefault : column.constraints.default = some (.string text)) :
    column.defaultText = text.toList := by
  simp only [Column.defaultText, hdefault, Value.defaultFor, Value.isVerbatim]
  cases htype : column.type <;> simp_all [ColumnType.isNumeric, Value.constantFor, Value.bareText]

/-- Only a string that is written as it is can make the default of a column
harmful. -/
theorem Column.WellShaped.harmless_defaultText {column : Column} (h : column.WellShaped)
    (hspliced : ∀ text, column.type.isNumeric = true →
      column.constraints.default = some (.string text) → Harmless [';'] text.toList) :
    Harmless [';'] column.defaultText := by
  cases hdefault : column.constraints.default with
  | none =>
    rw [Column.defaultText, hdefault]
    exact harmless_nil
  | some value =>
    by_cases hstring : ∃ text, value = .string text ∧ column.type.isNumeric = true
    · obtain ⟨text, rfl, hnumeric⟩ := hstring
      rw [Column.defaultText_of_isNumeric hnumeric hdefault]
      exact hspliced text hnumeric hdefault
    · have hvalue : Harmless sensitive (value.defaultFor column.type).toList := by
        refine (h.default value hdefault).1.harmless_defaultFor ?_
        intro ⟨text, htext⟩
        exact Bool.eq_false_iff.mpr fun hnumeric => hstring ⟨text, htext, hnumeric⟩
      rw [Column.defaultText, hdefault]
      exact hvalue.mono (by simp [sensitive])

theorem CreateTable.WellShaped.plain_keyClause {create : CreateTable} (h : create.WellShaped) :
    Plain sensitive (create.keyClause.map String.toList).flatten := by
  have hnames : Plain sensitive (commaSeparated create.primaryKey).toList := by
    rw [commaSeparated, String.toList_intercalate]
    refine Plain.intercalate (by decide) ?_
    intro text htext
    obtain ⟨name, hname, rfl⟩ := List.mem_map.mp htext
    exact (h.primaryKey name hname).plain
  unfold CreateTable.keyClause
  split
  · simp [Plain]
  · have hopen : Plain sensitive "PRIMARY KEY (".toList := by decide
    have hclose : Plain sensitive ")".toList := by decide
    simp only [List.map_cons, List.map_nil, List.flatten_singleton, String.toList_append]
    exact (hopen.append hnames).append hclose

/-- The lines between the parentheses of a new table. -/
theorem CreateTable.WellShaped.sameEffect {create : CreateTable} (h : create.WellShaped) :
    SameEffect sensitive
      (",\n  ".intercalate (create.columns.map Column.toCql ++ create.keyClause)).toList
      (create.columns.flatMap Column.defaultText) := by
  have hseparator : Plain sensitive ",\n  ".toList := by decide
  have hcolumns : SameEffect sensitive
      (create.columns.flatMap fun column => column.toCql.toList)
      (create.columns.flatMap Column.defaultText) :=
    .flatMap fun column hcolumn => (h.columns column hcolumn).sameEffect
  have hlines := hcolumns.append h.plain_keyClause.sameEffect_nil
  rw [List.append_nil] at hlines
  rw [String.toList_intercalate]
  refine (hseparator.sameEffect_intercalate _).trans ?_
  rw [List.map_append, List.map_map, List.flatten_append]
  exact hlines

/-- What of a new table can do harm is what its defaults can do in a row. -/
theorem CreateTable.WellShaped.isOneStatement_iff {create : CreateTable}
    (h : create.WellShaped) :
    IsOneStatement create.toCql.toList ↔
      Harmless [';'] (create.columns.flatMap Column.defaultText) := by
  have hsemicolon : ∀ c ∈ [';'], c ∈ sensitive := by simp [sensitive]
  have hfront : Harmless [';'] ("CREATE TABLE " ++ (if create.ifNotExists then "IF NOT EXISTS "
      else "") ++ Text.quoteIdentifier create.table ++ " (\n  ").toList := by
    refine Harmless.mono ?_ hsemicolon
    simp only [String.toList_append]
    refine (((Plain.harmless (by decide)).append ?_).append
      (harmless_quoteIdentifier create.table)).append (Plain.harmless (by decide))
    split
    · exact Plain.harmless (by decide)
    · exact harmless_nil
  -- the quoted name is harmless only to a reader that stands outside, the lines in any region
  have hclose : Plain sensitive "\n)".toList := by decide
  have hlast : "\n);".toList = "\n)".toList ++ [';'] := by decide
  have hlines := (h.sameEffect.append hclose.sameEffect_nil).mono hsemicolon
  rw [List.append_nil] at hlines
  unfold CreateTable.toCql
  rw [String.toList_append, hlast, ← List.append_assoc, isOneStatement_append_iff,
    String.toList_append, List.append_assoc, harmless_append_iff hfront, hlines.harmless_iff]

/-- A new table is one statement exactly when its defaults, one after the
other, are harmless.  It is one if each string for a numeric column, which is
written as it is, is harmless by itself. -/
theorem compile_createTable_isOneStatement_iff {sql : String} {create : CreateTable}
    (hsql : Statement.ofSql sql = .ok (.createTable create)) :
    ∃ cql, compile sql = .ok cql ∧
      (IsOneStatement cql.toList ↔
        Harmless [';'] (create.columns.flatMap Column.defaultText)) ∧
      ((∀ column ∈ create.columns, ∀ text, column.type.isNumeric = true →
          column.constraints.default = some (.string text) → Harmless [';'] text.toList) →
        IsOneStatement cql.toList) := by
  have hshaped : create.WellShaped := Statement.wellShaped_of_ofSql hsql
  have hiff := hshaped.isOneStatement_iff
  refine ⟨create.toCql, compile_eq_ok hsql, hiff, ?_⟩
  intro hspliced
  refine hiff.mpr (harmless_flatMap fun column hcolumn => ?_)
  exact (hshaped.columns column hcolumn).harmless_defaultText (hspliced column hcolumn)

/-- The default of a numeric column can end the statement early. -/
theorem compile_createTable_of_spliced_default :
    ∃ cql, compile "CREATE TABLE t (a int DEFAULT '1); DROP TABLE x; --')" = .ok cql ∧
      ¬ IsOneStatement cql.toList := by
  have hsql : (Statement.ofSql "CREATE TABLE t (a int DEFAULT '1); DROP TABLE x; --')").toOption =
      some (.createTable ⟨"t", false,
        [⟨"a", .int, ⟨true, some (.string "1); DROP TABLE x; --")⟩⟩], []⟩) := by
    decide +kernel
  obtain ⟨cql, hcql, hiff, -⟩ :=
    compile_createTable_isOneStatement_iff (Statement.ofSql_eq_ok_of_toOption hsql)
  refine ⟨cql, hcql, ?_⟩
  intro hone
  exact (hiff.mp hone).hidden ';' (by decide) (by decide)

end CqlCompiler
