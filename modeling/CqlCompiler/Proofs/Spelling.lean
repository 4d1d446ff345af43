import CqlCompiler.Proofs.Numerals
import CqlCompiler.Proofs.Parsing
import CqlCompiler.Statement.Parser

/-!
# Which tokens spell which statement

One relation per phrase of the grammar.  `SpellsStatement tokens statement`
says that the tokens, all of them, are a spelling of the statement.  A
statement has many spellings: a word may have any case, sizes and the order of
some clauses do not matter, a comma or a semicolon may stand at the end.  The
relations name no order in which tokens are looked at and no error, and they
cut a token list in any way that fits.

Statements that read tokens greedily are compared with these relations in
`CqlCompiler.Proofs.Reading`.
-/

namespace CqlCompiler

open CqlCompiler.Parser CqlCompiler.TokenParser

/-! ## Words -/

/-- A text that equals one word equals another one only as the words do. -/
theorem Text.equalIgnoringCase_of_equalIgnoringCase {text a : String}
    (h : equalIgnoringCase text a = true) (b : String) :
    equalIgnoringCase text b = equalIgnoringCase a b := by
  simp only [equalIgnoringCase, equalIgnoringCase_iff.mp h]

/-- A token that is one word is another one only as the words are equal. -/
theorem Token.isWord_of_isWord {token : Token} {a : String} (h : token.isWord a = true)
    (b : String) : token.isWord b = Text.equalIgnoringCase a b := by
  simp only [isWord, Bool.and_eq_true] at h
  simp only [isWord, h.1, Bool.true_and]
  exact Text.equalIgnoringCase_of_equalIgnoringCase h.2 b

/-- A word is not a symbol. -/
theorem Token.isSymbol_of_isWord {token : Token} {word : String} (h : token.isWord word = true)
    (symbol : String) : token.isSymbol symbol = false := by
  obtain ⟨kind, value⟩ := token
  cases kind <;> simp_all [isWord, isSymbol]

/-! ## Names and values -/

/-- An identifier spells its own value. -/
inductive SpellsName : List Token → String → Prop where
  | intro (name : String) : SpellsName [⟨.identifier, name⟩] name

/-- A number spells its own text. -/
inductive SpellsNumber : List Token → String → Prop where
  | intro (text : String) : SpellsNumber [⟨.number, text⟩] text

/-- An identifier spells the column after its last dot. -/
inductive SpellsColumnName : List Token → String → Prop where
  | intro (name : String) : SpellsColumnName [⟨.identifier, name⟩] (Text.unqualified name)

/-- The phrase between two parentheses. -/
inductive Parenthesised {α : Type} (Spells : List Token → α → Prop) :
    List Token → α → Prop where
  | intro {phrase : List Token} {result : α} (hphrase : Spells phrase result) :
      Parenthesised Spells (⟨.symbol, "("⟩ :: (phrase ++ [⟨.symbol, ")"⟩])) result

/-- A phrase with a mark after it. -/
inductive Followed {α : Type} (mark : Token) (Spells : List Token → α → Prop) :
    List Token → α → Prop where
  | intro {phrase : List Token} {result : α} (hphrase : Spells phrase result) :
      Followed mark Spells (phrase ++ [mark]) result

/-- Phrases with a comma between them. -/
abbrev CommaSeparated {α : Type} (Spells : List Token → α → Prop) :
    List Token → List α → Prop :=
  Separated ⟨.symbol, ","⟩ Spells

/-- A value is a placeholder, a literal, a number that is a 64-bit integer, a
number with a fraction, the word for a truth value or another word. -/
inductive SpellsValue : List Token → Value → Prop where
  | placeholder : SpellsValue [⟨.symbol, "?"⟩] .placeholder
  | string (text : String) : SpellsValue [⟨.literal, text⟩] (.string text)
  | int {text : String} {number : Int64}
      (hnumber : Text.Numeral.DenotesInteger text number.toInt) :
      SpellsValue [⟨.number, text⟩] (.int number)
  | decimal (whole fraction : String) :
      SpellsValue [⟨.number, whole⟩, ⟨.symbol, "."⟩, ⟨.number, fraction⟩]
        (.decimal (whole ++ "." ++ fraction))
  | bool {word : String} {truth : Bool}
      (hword : Text.equalIgnoringCase word (Value.boolWord truth) = true) :
      SpellsValue [⟨.identifier, word⟩] (.bool truth)
  | identifier {word : String}
      (hword : ∀ truth, Text.equalIgnoringCase word (Value.boolWord truth) = false) :
      SpellsValue [⟨.identifier, word⟩] (.identifier word)

/-! ## Tables -/

/-- A remark on a column after its type. -/
inductive SpellsClause : List Token → ColumnClause → Prop where
  | notNull {no null : Token} (hno : no.isWord "NOT" = true) (hnull : null.isWord "NULL" = true) :
      SpellsClause [no, null] (.nullable false)
  | null {null : Token} (hnull : null.isWord "NULL" = true) :
      SpellsClause [null] (.nullable true)
  | default {word : Token} {phrase : List Token} {value : Value}
      (hword : word.isWord "DEFAULT" = true) (hvalue : SpellsValue phrase value)
      (hconstant : value ≠ .placeholder) :
      SpellsClause (word :: phrase) (.default value)
  | primaryKey : SpellsClause [⟨.keyword, "PRIMARY"⟩, ⟨.keyword, "KEY"⟩] .primaryKey

theorem SpellsClause.ne_nil {phrase : List Token} {clause : ColumnClause}
    (h : SpellsClause phrase clause) : phrase ≠ [] := by
  cases h <;> simp

/-- A remark begins with a word or a keyword. -/
theorem SpellsClause.notAt_isSymbol {phrase rest : List Token} {clause : ColumnClause}
    (h : SpellsClause phrase clause) (text : String) :
    NotAt (·.isSymbol text) (phrase ++ rest) := by
  cases h with
  | notNull hno => exact (notAt_cons ..).mpr (Token.isSymbol_of_isWord hno text)
  | null hnull => exact (notAt_cons ..).mpr (Token.isSymbol_of_isWord hnull text)
  | default hword => exact (notAt_cons ..).mpr (Token.isSymbol_of_isWord hword text)
  | primaryKey => rw [List.cons_append, notAt_cons, Token.isSymbol]; rfl

/-- The sizes after a type, which say nothing. -/
inductive SpellsSizes : List Token → Unit → Prop where
  | none : SpellsSizes [] ()
  | some {phrase : List Token} {texts : List String}
      (hsizes : Parenthesised (CommaSeparated SpellsNumber) phrase texts) :
      SpellsSizes phrase ()

/-- A column or a key. -/
inductive SpellsElement : List Token → TableElement → Prop where
  | column (name typeName : String) {sizes remarks : List Token} {clauses : List ColumnClause}
      (hsizes : SpellsSizes sizes ()) (hclauses : Repeated SpellsClause remarks clauses) :
      SpellsElement
        (⟨.identifier, name⟩ :: ⟨.identifier, typeName⟩ :: (sizes ++ remarks))
        (.column ⟨name, .ofName typeName, constraintsOf clauses⟩ (clauses.contains .primaryKey))
  | primaryKey {phrase : List Token} {names : List String}
      (hnames : Parenthesised (CommaSeparated SpellsName) phrase names) :
      SpellsElement (⟨.keyword, "PRIMARY"⟩ :: ⟨.keyword, "KEY"⟩ :: phrase) (.primaryKey names)

/-- An element begins with an identifier or a keyword. -/
theorem SpellsElement.notAt_isSymbol {phrase rest : List Token} {element : TableElement}
    {text : String} (h : SpellsElement phrase element) :
    NotAt (·.isSymbol text) (phrase ++ rest) := by
  cases h <;> rw [List.cons_append, notAt_cons] <;> rfl

/-- The elements of a table, after which a comma may stand. -/
inductive SpellsElements : List Token → List TableElement → Prop where
  | plain {phrase : List Token} {elements : List TableElement}
      (helements : CommaSeparated SpellsElement phrase elements) :
      SpellsElements phrase elements
  | comma {phrase : List Token} {elements : List TableElement}
      (helements : CommaSeparated SpellsElement phrase elements) :
      SpellsElements (phrase ++ [⟨.symbol, ","⟩]) elements

/-- The words that ask for a table only where there is none. -/
inductive SpellsIfNotExists : List Token → Bool → Prop where
  | absent : SpellsIfNotExists [] false
  | present {no : Token} (hno : no.isWord "NOT" = true) :
      SpellsIfNotExists [⟨.keyword, "IF"⟩, no, ⟨.keyword, "EXISTS"⟩] true

/-- A new table has at least one column. -/
inductive SpellsCreateTable : List Token → CreateTable → Prop where
  | intro {guard body : List Token} {ifNotExists : Bool} {elements : List TableElement}
      (table : String) (hguard : SpellsIfNotExists guard ifNotExists)
      (helements : SpellsElements body elements) (hcolumns : columnsOf elements ≠ []) :
      SpellsCreateTable
        (⟨.keyword, "CREATE"⟩ :: ⟨.keyword, "TABLE"⟩ :: (guard ++ ⟨.identifier, table⟩ ::
          ⟨.symbol, "("⟩ :: (body ++ [⟨.symbol, ")"⟩])))
        { table, ifNotExists, columns := columnsOf elements, primaryKey := keyOf elements }

/-- The words that remove a table only where there is one. -/
inductive SpellsIfExists : List Token → Bool → Prop where
  | absent : SpellsIfExists [] false
  | present : SpellsIfExists [⟨.keyword, "IF"⟩, ⟨.keyword, "EXISTS"⟩] true

inductive SpellsDropTable : List Token → DropTable → Prop where
  | intro {guard : List Token} {ifExists : Bool} (table : String)
      (hguard : SpellsIfExists guard ifExists) :
      SpellsDropTable
        (⟨.keyword, "DROP"⟩ :: ⟨.keyword, "TABLE"⟩ :: (guard ++ [⟨.identifier, table⟩]))
        { table, ifExists }

/-! ## Queries and rows -/

inductive SpellsCondition : List Token → Condition → Prop where
  | intro {left right : List Token} {column : String} {value : Value}
      (hcolumn : SpellsColumnName left column) (hvalue : SpellsValue right value) :
      SpellsCondition (left ++ ⟨.symbol, "="⟩ :: right) { column, value }

inductive SpellsConditions : List Token → List Condition → Prop where
  | absent : SpellsConditions [] []
  | present {phrase : List Token} {conditions : List Condition}
      (hconditions : Separated ⟨.keyword, "AND"⟩ SpellsCondition phrase conditions) :
      SpellsConditions (⟨.keyword, "WHERE"⟩ :: phrase) conditions

/-- A row count is a number that is a 64-bit count. -/
inductive SpellsLimit : List Token → UInt64 → Prop where
  | intro {text : String} {count : UInt64}
      (hcount : Text.Numeral.DenotesCount text count.toNat) :
      SpellsLimit [⟨.keyword, "LIMIT"⟩, ⟨.number, text⟩] count

inductive SpellsDirection : List Token → Direction → Prop where
  | unsaid : SpellsDirection [] .ascending
  | ascending {word : Token} (hword : word.isWord "ASC" = true) :
      SpellsDirection [word] .ascending
  | descending {word : Token} (hword : word.isWord "DESC" = true) :
      SpellsDirection [word] .descending

inductive SpellsOrder : List Token → RowOrder → Prop where
  | intro {name phrase : List Token} {column : String} {direction : Direction}
      (hcolumn : SpellsColumnName name column) (hdirection : SpellsDirection phrase direction) :
      SpellsOrder (⟨.keyword, "ORDER"⟩ :: ⟨.keyword, "BY"⟩ :: (name ++ phrase))
        { column, direction }

theorem SpellsOrder.notAt_limit {phrase rest : List Token} {order : RowOrder}
    (h : SpellsOrder phrase order) : NotAt (·.isKeyword "LIMIT") (phrase ++ rest) := by
  cases h
  rw [List.cons_append, notAt_cons]
  rfl

/-- At most one row count and at most one order, the one or the other first. -/
inductive SpellsOptions : List Token → Option UInt64 → Option RowOrder → Prop where
  | none : SpellsOptions [] none none
  | limit {phrase : List Token} {count : UInt64} (hlimit : SpellsLimit phrase count) :
      SpellsOptions phrase (some count) none
  | order {phrase : List Token} {order : RowOrder} (horder : SpellsOrder phrase order) :
      SpellsOptions phrase none (some order)
  | limitOrder {first second : List Token} {count : UInt64} {order : RowOrder}
      (hlimit : SpellsLimit first count) (horder : SpellsOrder second order) :
      SpellsOptions (first ++ second) (some count) (some order)
  | orderLimit {first second : List Token} {count : UInt64} {order : RowOrder}
      (horder : SpellsOrder first order) (hlimit : SpellsLimit second count) :
      SpellsOptions (first ++ second) (some count) (some order)

/-- The row count and the order begin with their own keywords. -/
theorem SpellsOptions.notAt {phrase rest : List Token} {limit : Option UInt64}
    {order : Option RowOrder} {p : Token → Bool} (h : SpellsOptions phrase limit order)
    (hlimit : p ⟨.keyword, "LIMIT"⟩ = false) (horder : p ⟨.keyword, "ORDER"⟩ = false)
    (hrest : NotAt p rest) : NotAt p (phrase ++ rest) := by
  cases h with
  | none => exact hrest
  | limit h => cases h; simpa using hlimit
  | order h => cases h; simpa using horder
  | limitOrder h => cases h; simpa using hlimit
  | orderLimit h => cases h; simpa using horder

inductive SpellsSelect : List Token → Select → Prop where
  | intro {projected filters options : List Token} {names : List String}
      {conditions : List Condition} {limit : Option UInt64} {order : Option RowOrder}
      (table : String) (hnames : CommaSeparated SpellsColumnName projected names)
      (hconditions : SpellsConditions filters conditions)
      (hoptions : SpellsOptions options limit order) :
      SpellsSelect
        (⟨.keyword, "SELECT"⟩ :: (projected ++ ⟨.keyword, "FROM"⟩ :: ⟨.identifier, table⟩ ::
          (filters ++ options)))
        { projection := .ofNames names, table, conditions, limit, order }

/-- A new row has as many values as columns. -/
inductive SpellsInsert : List Token → Insert → Prop where
  | intro {left right : List Token} {columns : List String} {values : List Value}
      (table : String) (hcolumns : Parenthesised (CommaSeparated SpellsName) left columns)
      (hvalues : Parenthesised (CommaSeparated SpellsValue) right values)
      (hlength : columns.length = values.length) :
      SpellsInsert
        (⟨.keyword, "INSERT"⟩ :: ⟨.keyword, "INTO"⟩ :: ⟨.identifier, table⟩ ::
          (left ++ ⟨.keyword, "VALUES"⟩ :: right))
        { table, columns, values }

/-! ## Statements -/

/-- A statement without the semicolon after it. -/
inductive SpellsBare : List Token → Statement → Prop where
  | createTable {phrase : List Token} {create : CreateTable}
      (h : SpellsCreateTable phrase create) : SpellsBare phrase (.createTable create)
  | dropTable {phrase : List Token} {drop : DropTable}
      (h : SpellsDropTable phrase drop) : SpellsBare phrase (.dropTable drop)
  | select {phrase : List Token} {query : Select}
      (h : SpellsSelect phrase query) : SpellsBare phrase (.select query)
  | insert {phrase : List Token} {row : Insert}
      (h : SpellsInsert phrase row) : SpellsBare phrase (.insert row)

/-- A whole token list: a statement and at most one semicolon. -/
inductive SpellsStatement : List Token → Statement → Prop where
  | plain {phrase : List Token} {statement : Statement} (h : SpellsBare phrase statement) :
      SpellsStatement phrase statement
  | semicolon {phrase : List Token} {statement : Statement} (h : SpellsBare phrase statement) :
      SpellsStatement (phrase ++ [⟨.symbol, ";"⟩]) statement

theorem SpellsStatement.exists_bare {tokens : List Token} {statement : Statement}
    (h : SpellsStatement tokens statement) :
    ∃ phrase ending, SpellsBare phrase statement ∧
      (ending = [] ∨ ending = [⟨.symbol, ";"⟩]) ∧ tokens = phrase ++ ending := by
  cases h with
  | plain h => exact ⟨_, [], h, .inl rfl, (List.append_nil _).symm⟩
  | semicolon h => exact ⟨_, _, h, .inr rfl, rfl⟩

end CqlCompiler
