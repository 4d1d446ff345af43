import CqlCompiler.Proofs.Lexemes
import CqlCompiler.Proofs.Reading.Statements

/-!
# The shapes of tokens and statements

Tokens that are built by hand may hold any text.  Those of a SQL text may not:
a name is a run of word characters, a number a run of digits, and a literal
does not end in a backslash.  `Token.WellShaped` says so for each kind of
token, and `Statement.WellShaped` what follows for the names and values of a
statement.  A name in quotes does not become a name here; it is a literal.

* `wellShaped_of_scan` : every token of a text is well shaped.
* `Statement.wellShaped_of_ofSql` : so is every statement of a text.
-/

namespace CqlCompiler

open CqlCompiler.Parser

/-! ## Tokens -/

/-- A word that is not a keyword. -/
structure IsName (text : String) : Prop where
  ne_nil : text.toList ≠ []
  chars : ∀ c ∈ text.toList, Token.isWordChar c = true
  begins : NotAt (fun c => c == '.' || c.isDigit) text.toList
  unreserved : Text.upper text ∉ Token.keywords

/-- What stands after the last dot of a name. -/
structure IsColumnWord (text : String) : Prop where
  chars : ∀ c ∈ text.toList, Token.isWordChar c = true
  no_dot : '.' ∉ text.toList

structure IsDigits (text : String) : Prop where
  ne_nil : text.toList ≠ []
  chars : ∀ c ∈ text.toList, c.isDigit = true

/-- No backslash would stand before the closing quote. -/
def IsQuotable (text : String) : Prop :=
  text.toList.getLast? ≠ some '\\'

namespace Token

/-- The tokens that a text can be cut into. -/
inductive WellShaped : Token → Prop where
  | keyword {text : String} (h : text ∈ keywords) : WellShaped ⟨.keyword, text⟩
  | identifier {text : String} (h : IsName text) : WellShaped ⟨.identifier, text⟩
  | literal {text : String} (h : IsQuotable text) : WellShaped ⟨.literal, text⟩
  | number {text : String} (h : IsDigits text) : WellShaped ⟨.number, text⟩
  | mark {c : Char} (h : c ∈ marks) : WellShaped ⟨.symbol, String.singleton c⟩
  | other {c : Char} (hspace : Text.isWhiteSpace c = false) (hquote : isQuote c = false)
      (hword : isWordChar c = false) : WellShaped ⟨.symbol, String.singleton c⟩

theorem SpellsBody.eq_nil_iff {quote : Char} {written body : List Char}
    (h : SpellsBody quote written body) : body = [] ↔ written = [] := by
  cases h <;> simp

theorem SpellsBody.getLast?_ne {quote : Char} {written body : List Char}
    (h : SpellsBody quote written body) (hquote : quote ≠ '\\') :
    body.getLast? ≠ some '\\' := by
  induction h with
  | nil => simp
  | @escaped written body hbody ih =>
    cases body with
    | nil => simpa using hquote
    | cons c body => simpa [List.getLast?_cons_cons] using ih
  | @plain c written body hc hbackslash hbody ih =>
    cases body with
    | nil =>
      obtain rfl := hbody.eq_nil_iff.mp rfl
      have hplain : c ≠ '\\' := fun h => hbackslash h List.prefix_rfl
      simpa using hplain
    | cons d body => simpa [List.getLast?_cons_cons] using ih

theorem IsWordRun.isName {word after : List Char} (h : IsWordRun word after)
    (hkeyword : String.ofList (word.map Char.toUpper) ∉ keywords) :
    IsName (String.ofList word) where
  ne_nil := by rw [String.toList_ofList]; exact h.ne_nil
  chars := by rw [String.toList_ofList]; exact h.all
  begins := by rw [String.toList_ofList]; exact h.begins
  unreserved := by rw [Text.upper_ofList]; exact hkeyword

theorem SpellsToken.wellShaped {written after : List Char} {token : Token}
    (h : SpellsToken written after token) : token.WellShaped := by
  cases h with
  | mark _ hmark => exact .mark hmark
  | number hdigits =>
    refine .number ⟨?_, ?_⟩
    · rw [String.toList_ofList]
      exact hdigits.ne_nil
    · rw [String.toList_ofList]
      exact hdigits.all
  | keyword _ hkeyword => exact .keyword hkeyword
  | identifier hword hkeyword => exact .identifier (hword.isName hkeyword)
  | @literal quote _ _ _ hquote hbody =>
    refine .literal ?_
    rw [IsQuotable, String.toList_ofList]
    exact hbody.getLast?_ne (ne_backslash_of_isQuote (isQuote_iff.mpr hquote))
  | other hspace hquote _ hword =>
    exact .other hspace (Bool.eq_false_iff.mpr (mt isQuote_iff.mp (not_or.mpr hquote))) hword

/-- Every token of a text is well shaped. -/
theorem wellShaped_of_scan {cs : List Char} {tokens : List Token} (h : scan cs = .ok tokens) :
    ∀ token ∈ tokens, token.WellShaped := by
  induction cutsInto_of_scan h with
  | nil => simp
  | cons _ hlexeme htext ih =>
    rw [List.forall_mem_cons]
    exact ⟨hlexeme.wellShaped, ih (scan_of_cutsInto htext)⟩

theorem wellShaped_of_tokenize {sql : String} {tokens : List Token}
    (h : tokenize sql = .ok tokens) : ∀ token ∈ tokens, token.WellShaped :=
  wellShaped_of_scan (tokenize_eq_ok_iff_scan.mp h)

end Token

/-! ## Phrases -/

/-- Phrases of items with a property spell results with another one. -/
def Yields {τ α : Type} (Item : τ → Prop) (Spells : List τ → α → Prop) (Result : α → Prop) :
    Prop :=
  ∀ phrase result, Spells phrase result → (∀ item ∈ phrase, Item item) → Result result

section Yields

variable {τ α : Type} {Item : τ → Prop} {Spells : List τ → α → Prop} {Result : α → Prop}

theorem Yields.repeated (h : Yields Item Spells Result) :
    Yields Item (Repeated Spells) fun results => ∀ result ∈ results, Result result := by
  intro phrases results hspells hitems
  induction hspells with
  | nil => simp
  | cons hphrase _ ih =>
    rw [List.forall_mem_append] at hitems
    rw [List.forall_mem_cons]
    exact ⟨h _ _ hphrase hitems.1, ih hitems.2⟩

theorem Yields.marked (h : Yields Item Spells Result) (mark : τ) :
    Yields Item (Marked mark Spells) Result := by
  intro phrase result hspells hitems
  obtain ⟨hphrase⟩ := hspells
  exact h _ _ hphrase (List.forall_mem_cons.mp hitems).2

theorem Yields.separated (h : Yields Item Spells Result) (mark : τ) :
    Yields Item (Separated mark Spells) fun results => ∀ result ∈ results, Result result := by
  intro phrase results hspells hitems
  obtain ⟨hphrase, hothers⟩ := hspells
  rw [List.forall_mem_append] at hitems
  rw [List.forall_mem_cons]
  exact ⟨h _ _ hphrase hitems.1, (h.marked mark).repeated _ _ hothers hitems.2⟩

theorem Yields.parenthesised {Item : Token → Prop} {Spells : List Token → α → Prop}
    (h : Yields Item Spells Result) : Yields Item (Parenthesised Spells) Result := by
  intro phrase result hspells hitems
  obtain ⟨hphrase⟩ := hspells
  refine h _ _ hphrase fun item hitem => hitems item ?_
  simp [hitem]

end Yields

/-! ## Names and values -/

theorem IsName.isColumnWord {name : String} (h : IsName name) :
    IsColumnWord (Text.unqualified name) := by
  have hsegment : ∀ c ∈ (Text.unqualified name).toList, c ∈ name.toList ∧ c ≠ '.' := by
    intro c hc
    rw [Text.unqualified, String.toList_ofList, List.mem_reverse] at hc
    refine ⟨List.mem_reverse.mp ((List.takeWhile_sublist _).subset hc), ?_⟩
    simpa using Token.all_takeWhile c hc
  exact ⟨fun c hc => h.chars c (hsegment c hc).1, fun hdot => (hsegment '.' hdot).2 rfl⟩

theorem isName_of_wellShaped {name : String}
    (h : Token.WellShaped ⟨.identifier, name⟩) : IsName name := by
  cases h with
  | identifier h => exact h

theorem isDigits_of_wellShaped {text : String}
    (h : Token.WellShaped ⟨.number, text⟩) : IsDigits text := by
  cases h with
  | number h => exact h

theorem yields_name : Yields Token.WellShaped SpellsName IsName := by
  intro phrase name hspells hitems
  obtain ⟨⟩ := hspells
  exact isName_of_wellShaped (hitems _ (by simp))

theorem yields_columnName : Yields Token.WellShaped SpellsColumnName IsColumnWord := by
  intro phrase name hspells hitems
  obtain ⟨⟩ := hspells
  exact (isName_of_wellShaped (hitems _ (by simp))).isColumnWord

/-- The values of a text.  Integers have no sign. -/
inductive Value.WellShaped : Value → Prop where
  | string {text : String} (h : IsQuotable text) : WellShaped (.string text)
  | int {number : Int64} (h : 0 ≤ number.toInt) : WellShaped (.int number)
  | decimal {whole fraction : String} (hwhole : IsDigits whole) (hfraction : IsDigits fraction) :
      WellShaped (.decimal (whole ++ "." ++ fraction))
  | bool (truth : Bool) : WellShaped (.bool truth)
  | placeholder : WellShaped .placeholder
  | identifier {word : String} (hname : IsName word)
      (hword : ∀ truth, Text.equalIgnoringCase word (Value.boolWord truth) = false) :
      WellShaped (.identifier word)

/-- Digits without a sign denote no negative number. -/
theorem IsDigits.nonneg_of_denotesInteger {text : String} {n : Int} (h : IsDigits text)
    (hn : Text.Numeral.DenotesInteger text n) : 0 ≤ n := by
  rcases hn with ⟨count, -, rfl⟩ | ⟨count, ⟨digits, htext, -⟩, -⟩
  · exact Int.natCast_nonneg count
  · have hsign := h.chars '-' (by simp [htext])
    simp at hsign

theorem yields_value : Yields Token.WellShaped SpellsValue Value.WellShaped := by
  intro phrase value hspells hitems
  cases hspells with
  | placeholder => exact .placeholder
  | string text =>
    cases hitems ⟨.literal, text⟩ (by simp) with
    | literal h => exact .string h
  | @int text _ hnumber =>
    have hdigits := isDigits_of_wellShaped (hitems ⟨.number, text⟩ (by simp))
    exact .int (hdigits.nonneg_of_denotesInteger hnumber)
  | decimal whole fraction =>
    exact .decimal (isDigits_of_wellShaped (hitems ⟨.number, whole⟩ (by simp)))
      (isDigits_of_wellShaped (hitems ⟨.number, fraction⟩ (by simp)))
  | bool => exact .bool _
  | identifier hword => exact .identifier (isName_of_wellShaped (hitems _ (by simp))) hword

/-! ## Tables -/

/-- A column has a name, and its default is a value of the text. -/
structure Column.WellShaped (column : Column) : Prop where
  name : IsName column.name
  default : ∀ value ∈ column.constraints.default, value.WellShaped ∧ value ≠ .placeholder

structure CreateTable.WellShaped (create : CreateTable) : Prop where
  table : IsName create.table
  columns : ∀ column ∈ create.columns, column.WellShaped
  columns_ne_nil : create.columns ≠ []
  primaryKey : ∀ name ∈ create.primaryKey, IsName name

def ColumnClause.WellShaped : ColumnClause → Prop
  | .default value => value.WellShaped ∧ value ≠ .placeholder
  | .nullable _ => True
  | .primaryKey => True

theorem yields_clause : Yields Token.WellShaped SpellsClause ColumnClause.WellShaped := by
  intro phrase clause hspells hitems
  cases hspells with
  | notNull => trivial
  | null => trivial
  | default _ hvalue hconstant =>
    exact ⟨yields_value _ _ hvalue (List.forall_mem_cons.mp hitems).2, hconstant⟩
  | primaryKey => trivial

/-- The default of a column is one of its remarks. -/
theorem mem_of_default_constraintsOf {clauses : List ColumnClause} {value : Value}
    (h : value ∈ (TokenParser.constraintsOf clauses).default) : .default value ∈ clauses := by
  have hfold : ∀ value ∈ (TokenParser.constraintsOf clauses).default, .default value ∈ clauses := by
    unfold TokenParser.constraintsOf
    refine List.foldlRecOn (motive := fun constraints : Constraints =>
      ∀ value ∈ constraints.default, .default value ∈ clauses) clauses _ ?_ ?_
    · intro value hvalue
      contradiction
    intro constraints hconstraints clause hclause
    cases clause with
    | nullable allowed => exact hconstraints
    | primaryKey => exact hconstraints
    | default remark =>
      intro value hvalue
      obtain rfl := Option.some.inj hvalue
      exact hclause
  exact hfold value h

/-- An element is a column or names a key. -/
def TableElement.WellShaped : TableElement → Prop
  | .column found _ => found.WellShaped
  | .primaryKey names => ∀ name ∈ names, IsName name

theorem yields_element : Yields Token.WellShaped SpellsElement TableElement.WellShaped := by
  intro phrase element hspells hitems
  cases hspells with
  | column name typeName hsizes hclauses =>
    have hname := isName_of_wellShaped (hitems ⟨.identifier, name⟩ (by simp))
    have hremarks := yields_clause.repeated _ _ hclauses fun token htoken =>
      hitems token (by simp [htoken])
    exact ⟨hname, fun value hvalue => hremarks _ (mem_of_default_constraintsOf hvalue)⟩
  | primaryKey hnames =>
    exact (yields_name.separated _).parenthesised _ _ hnames fun token htoken =>
      hitems token (by simp [htoken])

theorem Yields.elements {Item : Token → Prop} {Result : TableElement → Prop}
    (h : Yields Item SpellsElement Result) :
    Yields Item SpellsElements fun elements => ∀ element ∈ elements, Result element := by
  intro phrase elements hspells hitems
  cases hspells with
  | plain helements => exact h.separated _ _ _ helements hitems
  | comma helements => exact h.separated _ _ _ helements (List.forall_mem_append.mp hitems).1

theorem exists_element_of_mem_columnsOf {elements : List TableElement} {column : Column}
    (h : column ∈ TokenParser.columnsOf elements) : ∃ inKey, .column column inKey ∈ elements := by
  obtain ⟨element, helement, hcolumn⟩ := List.mem_filterMap.mp h
  cases element with
  | column found inKey =>
    obtain rfl := Option.some.inj hcolumn
    exact ⟨inKey, helement⟩
  | primaryKey names => simp at hcolumn

theorem wellShaped_of_mem_columnsOf {elements : List TableElement} {column : Column}
    (helements : ∀ element ∈ elements, element.WellShaped)
    (h : column ∈ TokenParser.columnsOf elements) : column.WellShaped := by
  obtain ⟨inKey, hcolumn⟩ := exists_element_of_mem_columnsOf h
  exact helements _ hcolumn

/-- The names of a key are those of columns and of key clauses. -/
theorem isName_of_mem_keyOf {elements : List TableElement}
    (helements : ∀ element ∈ elements, element.WellShaped) :
    ∀ name ∈ TokenParser.keyOf elements, IsName name := by
  unfold TokenParser.keyOf
  refine List.foldlRecOn (motive := fun key => ∀ name ∈ key, IsName name) elements _ (by simp) ?_
  intro key hkey element helement
  have hshaped := helements element helement
  cases element with
  | primaryKey names => exact hshaped
  | column found inKey =>
    cases inKey with
    | false => exact hkey
    | true =>
      intro name hname
      rcases List.mem_append.mp hname with hname | hname
      · exact hkey name hname
      · rw [List.mem_singleton.mp hname]
        exact Column.WellShaped.name hshaped

theorem yields_createTable :
    Yields Token.WellShaped SpellsCreateTable CreateTable.WellShaped := by
  intro phrase create hspells hitems
  obtain ⟨table, hguard, helements, hcolumns⟩ := hspells
  have hparts := yields_element.elements _ _ helements fun token htoken => hitems token (by simp [htoken])
  exact {
    table := isName_of_wellShaped (hitems ⟨.identifier, table⟩ (by simp))
    columns := fun column => wellShaped_of_mem_columnsOf hparts
    columns_ne_nil := hcolumns
    primaryKey := isName_of_mem_keyOf hparts }

/-! ## Queries and rows -/

structure Condition.WellShaped (condition : Condition) : Prop where
  column : IsColumnWord condition.column
  value : condition.value.WellShaped

structure Select.WellShaped (query : Select) : Prop where
  projection : ∀ names, query.projection = .columns names → ∀ name ∈ names, IsColumnWord name
  table : IsName query.table
  conditions : ∀ condition ∈ query.conditions, condition.WellShaped

structure Insert.WellShaped (row : Insert) : Prop where
  table : IsName row.table
  columns : ∀ name ∈ row.columns, IsName name
  values : ∀ value ∈ row.values, value.WellShaped

theorem yields_condition : Yields Token.WellShaped SpellsCondition Condition.WellShaped := by
  intro phrase condition hspells hitems
  obtain ⟨hcolumn, hvalue⟩ := hspells
  rw [List.forall_mem_append, List.forall_mem_cons] at hitems
  exact ⟨yields_columnName _ _ hcolumn hitems.1, yields_value _ _ hvalue hitems.2.2⟩

theorem Yields.conditions {Item : Token → Prop} {Result : Condition → Prop}
    (h : Yields Item SpellsCondition Result) :
    Yields Item SpellsConditions fun conditions => ∀ condition ∈ conditions, Result condition := by
  intro phrase conditions hspells hitems
  cases hspells with
  | absent => simp
  | present hconditions =>
    exact h.separated _ _ _ hconditions (List.forall_mem_cons.mp hitems).2

/-- What holds of a single column name holds of the column that orders the rows. -/
theorem Yields.orderColumn {Item : Token → Prop} {Result : String → Prop}
    (h : Yields Item SpellsColumnName Result) {phrase : List Token} {limit : Option UInt64}
    {order : Option RowOrder} (hspells : SpellsOptions phrase limit order)
    (hitems : ∀ token ∈ phrase, Item token) : ∀ found ∈ order, Result found.column := by
  have horder {phrase : List Token} {found : RowOrder} (hspells : SpellsOrder phrase found)
      (hitems : ∀ token ∈ phrase, Item token) : Result found.column := by
    obtain ⟨hcolumn, -⟩ := hspells
    exact h _ _ hcolumn fun token htoken => hitems token (by simp [htoken])
  intro found hfound
  cases hspells with
  | none => cases hfound
  | limit hcount => cases hfound
  | order hsorting =>
    obtain rfl := Option.some.inj hfound
    exact horder hsorting hitems
  | limitOrder hcount hsorting =>
    obtain rfl := Option.some.inj hfound
    exact horder hsorting (List.forall_mem_append.mp hitems).2
  | orderLimit hsorting hcount =>
    obtain rfl := Option.some.inj hfound
    exact horder hsorting (List.forall_mem_append.mp hitems).1

theorem yields_select : Yields Token.WellShaped SpellsSelect Select.WellShaped := by
  intro phrase query hspells hitems
  obtain ⟨table, hnames, hconditions, hoptions⟩ := hspells
  have hcolumns := yields_columnName.separated _ _ _ hnames fun token htoken =>
    hitems token (by simp [htoken])
  refine ⟨?_, isName_of_wellShaped (hitems ⟨.identifier, table⟩ (by simp)),
    yields_condition.conditions _ _ hconditions fun token htoken => hitems token (by simp [htoken])⟩
  intro names hprojection
  unfold Projection.ofNames at hprojection
  split at hprojection
  · contradiction
  · cases hprojection
    exact hcolumns

theorem yields_insert : Yields Token.WellShaped SpellsInsert Insert.WellShaped := by
  intro phrase row hspells hitems
  obtain ⟨table, hcolumns, hvalues, -⟩ := hspells
  exact {
    table := isName_of_wellShaped (hitems ⟨.identifier, table⟩ (by simp))
    columns := (yields_name.separated _).parenthesised _ _ hcolumns fun token htoken =>
      hitems token (by simp [htoken])
    values := (yields_value.separated _).parenthesised _ _ hvalues fun token htoken =>
      hitems token (by simp [htoken]) }

/-! ## Statements -/

def Statement.WellShaped : Statement → Prop
  | .createTable create => create.WellShaped
  | .dropTable drop => IsName drop.table
  | .select query => query.WellShaped
  | .insert row => row.WellShaped

theorem yields_bare : Yields Token.WellShaped SpellsBare Statement.WellShaped := by
  intro phrase statement hspells hitems
  cases hspells with
  | createTable h => exact yields_createTable _ _ h hitems
  | dropTable h =>
    obtain ⟨table, -⟩ := h
    exact isName_of_wellShaped (hitems ⟨.identifier, table⟩ (by simp))
  | select h => exact yields_select _ _ h hitems
  | insert h => exact yields_insert _ _ h hitems

theorem yields_statement : Yields Token.WellShaped SpellsStatement Statement.WellShaped := by
  intro phrase statement hspells hitems
  cases hspells with
  | plain h => exact yields_bare _ _ h hitems
  | semicolon h => exact yields_bare _ _ h (List.forall_mem_append.mp hitems).1

/-- A text spells what its tokens spell. -/
theorem Statement.ofSql_of_tokenize {sql : String} {tokens : List Token}
    (h : Token.tokenize sql = .ok tokens) : ofSql sql = ofTokens tokens := by
  unfold ofSql
  rw [h]
  rfl

theorem Statement.ofSql_of_lexError {sql : String} {fault : LexError}
    (h : Token.tokenize sql = .error fault) : ofSql sql = .error (.lexical fault) := by
  unfold ofSql
  rw [h]
  rfl

theorem Statement.ofSql_eq_ok_iff {sql : String} {statement : Statement} :
    ofSql sql = .ok statement ↔
      ∃ tokens, Token.tokenize sql = .ok tokens ∧ ofTokens tokens = .ok statement := by
  cases hsql : Token.tokenize sql with
  | error fault => simp [ofSql_of_lexError hsql]
  | ok tokens => simp [ofSql_of_tokenize hsql]

theorem eq_ok_of_toOption {ε α : Type} {result : Except ε α} {a : α}
    (h : result.toOption = some a) : result = .ok a := by
  cases result with
  | error error => simp [Except.toOption] at h
  | ok found => simpa [Except.toOption] using h

/-- The statement of a given text can be computed. -/
theorem Statement.ofSql_eq_ok_of_toOption {sql : String} {statement : Statement}
    (h : (ofSql sql).toOption = some statement) : ofSql sql = .ok statement :=
  eq_ok_of_toOption h

/-- The statement of a text is spelled by well-shaped tokens. -/
theorem Statement.exists_spelling_of_ofSql {sql : String} {statement : Statement}
    (h : ofSql sql = .ok statement) :
    ∃ tokens, SpellsStatement tokens statement ∧ ∀ token ∈ tokens, token.WellShaped := by
  obtain ⟨tokens, htokens, hstatement⟩ := ofSql_eq_ok_iff.mp h
  exact ⟨tokens, ofTokens_eq_ok_iff.mp hstatement, Token.wellShaped_of_tokenize htokens⟩

/-- Every statement of a text is well shaped. -/
theorem Statement.wellShaped_of_ofSql {sql : String} {statement : Statement}
    (h : ofSql sql = .ok statement) : statement.WellShaped := by
  obtain ⟨tokens, hspells, hshaped⟩ := exists_spelling_of_ofSql h
  exact yields_statement _ _ hspells hshaped

end CqlCompiler
