import CqlCompiler.Error
import CqlCompiler.Parsing
import CqlCompiler.Statement
import CqlCompiler.Text.Dotted
import CqlCompiler.Token.Lexer

/-!
# Reading a statement off its tokens

One function per phrase of the grammar:

    statement  = (create | drop | select | insert) [";"]
    create     = CREATE TABLE [IF not EXISTS] name "(" element {"," element} [","] ")"
    element    = column | PRIMARY KEY "(" name {"," name} ")"
    column     = name type ["(" number {"," number} ")"] {constraint}
    constraint = not null | null | default value | PRIMARY KEY
    drop       = DROP TABLE [IF EXISTS] name
    select     = SELECT name {"," name} FROM name [WHERE condition {AND condition}]
                 and at most one each of LIMIT number and ORDER BY name [asc | desc]
    condition  = name "=" value
    insert     = INSERT INTO name "(" name {"," name} ")" VALUES "(" value {"," value} ")"
    value      = "?" | literal | number ["." number] | name

Words in upper case are keyword tokens, words in lower case may have any case.
A table has at least one column, a default is not `"?"`, and a row has as many
values as columns.
-/

namespace CqlCompiler

/-- A parser of tokens. -/
abbrev TokenParser := Parser Token CompileError

/-- A part of the definition of a table. -/
inductive TableElement where
  /-- A column, and whether the key is said to have it. -/
  | column (column : Column) (inKey : Bool)
  /-- The columns of the key. -/
  | primaryKey (names : List String)
  deriving DecidableEq, Repr

/-- A remark on a column after its type. -/
inductive ColumnClause where
  | nullable (allowed : Bool)
  | default (value : Value)
  | primaryKey
  deriving DecidableEq, Repr

namespace TokenParser

open CqlCompiler.Parser

variable {α : Type}

/-! ## Single tokens -/

/-- Fails because something else stands at the front. -/
def unexpected (expected : Expectation) : TokenParser α := do
  throw (.unexpected expected (.ofHead (← get)))

/-- Takes a token of a class, and of one value if that is given. -/
def expect (kind : TokenKind) (text : Option String) : TokenParser Token := do
  match ← takeIf? fun token => token.kind == kind && text.all (token.value == ·) with
  | some token => return token
  | none => unexpected (.token kind text)

/-- Takes exactly this keyword. -/
def keyword (text : String) : TokenParser Unit := do
  let _ ← expect .keyword (some text)

/-- Takes exactly this symbol. -/
def symbol (text : String) : TokenParser Unit := do
  let _ ← expect .symbol (some text)

/-- Takes an identifier. -/
def name : TokenParser String := do
  return (← expect .identifier none).value

/-- Takes a number. -/
def number : TokenParser String := do
  return (← expect .number none).value

/-- Takes the keyword if it is at the front, and says whether it was. -/
def skipKeyword (text : String) : TokenParser Bool :=
  skipIf (·.isKeyword text)

/-- Takes the symbol if it is at the front, and says whether it was. -/
def skipSymbol (text : String) : TokenParser Bool :=
  skipIf (·.isSymbol text)

/-- Takes the word if it is at the front in any case, and says whether it was. -/
def skipWord (text : String) : TokenParser Bool :=
  skipIf (·.isWord text)

/-- Takes this word in any case. -/
def word (text : String) : TokenParser Unit := do
  unless ← skipWord text do unexpected (.word text)

/-- Whether the keyword is at the front. -/
def atKeyword (text : String) : TokenParser Bool := do
  return (← peek?).any (·.isKeyword text)

/-- Whether the symbol is at the front. -/
def atSymbol (text : String) : TokenParser Bool := do
  return (← peek?).any (·.isSymbol text)

/-- One name, and one more after each comma. -/
def names : TokenParser (List String) :=
  sepBy1 name (skipSymbol ",")

/-- The phrase between two parentheses. -/
def parenthesised (phrase : TokenParser α) : TokenParser α := do
  symbol "("
  let result ← phrase
  symbol ")"
  return result

/-! ## Values -/

/-- The value that a single token spells. -/
def valueOfToken (token : Token) : Except CompileError Value :=
  match token.kind with
  | .literal => .ok (.string token.value)
  | .number =>
    match Text.Numeral.signed? token.value with
    | some number => .ok (.int number)
    | none => .error (.unexpected .integer (.number token.value))
  | .identifier =>
    if Text.equalIgnoringCase token.value "true" then .ok (.bool true)
    else if Text.equalIgnoringCase token.value "false" then .ok (.bool false)
    else .ok (.identifier token.value)
  | .symbol =>
    if token.value = "?" then .ok .placeholder else .error (.unexpected .value (.token token))
  | .keyword => .error (.unexpected .value (.token token))

/-- Takes a number with a fraction, which is three tokens, if one is at the
front. -/
def decimal? : TokenParser (Option Value) := do
  match ← get with
  | whole :: dot :: fraction :: rest =>
    if whole.kind = .number ∧ dot.isSymbol "." ∧ fraction.kind = .number then
      set rest
      return some (.decimal (whole.value ++ "." ++ fraction.value))
    else
      return none
  | _ => return none

/-- Takes a value. -/
def value : TokenParser Value := do
  match ← decimal? with
  | some decimal => return decimal
  | none =>
    match ← get with
    | [] => unexpected .value
    | token :: rest =>
      let constant ← valueOfToken token
      set rest
      return constant

/-- Takes the value of a column default. -/
def defaultValue : TokenParser Value := do
  if ← atSymbol "?" then unexpected .defaultValue else value

/-! ## Tables -/

/-- Takes the remark on a column at the front, if there is one. -/
def columnClause? : TokenParser (Option ColumnClause) := do
  if ← skipWord "NOT" then
    word "NULL"
    return some (.nullable false)
  else if ← skipWord "NULL" then
    return some (.nullable true)
  else if ← skipWord "DEFAULT" then
    return some (.default (← defaultValue))
  else if ← skipKeyword "PRIMARY" then
    keyword "KEY"
    return some .primaryKey
  else
    return none

/-- Takes the sizes after a type, which have no counterpart in CQL. -/
def sizes : TokenParser Unit := do
  if ← skipSymbol "(" then
    let _ ← sepBy1 number (skipSymbol ",")
    symbol ")"

/-- What the remarks on a column say in all: of two remarks on the same matter
the later one holds. -/
def constraintsOf (clauses : List ColumnClause) : Constraints :=
  clauses.foldl (fun constraints clause =>
    match clause with
    | .nullable allowed => { constraints with nullable := allowed }
    | .default value => { constraints with default := some value }
    | .primaryKey => constraints) {}

/-- Takes the definition of a column. -/
def column : TokenParser TableElement := do
  let columnName ← name
  let typeName ← name
  sizes
  let clauses ← many columnClause?
  return .column ⟨columnName, .ofName typeName, constraintsOf clauses⟩
    (clauses.contains .primaryKey)

/-- Takes a column or a key. -/
def element : TokenParser TableElement := do
  if ← atKeyword "PRIMARY" then
    keyword "PRIMARY"
    keyword "KEY"
    return .primaryKey (← parenthesised names)
  else
    column

/-- Takes the elements of a table up to its closing parenthesis.  A comma may
follow the last one. -/
def elements : TokenParser (List TableElement) := do
  if ← atSymbol ")" then
    return []
  let first ← element
  let others ← many do
    if ← skipSymbol "," then
      if ← atSymbol ")" then return none else some <$> element
    else
      return none
  return first :: others

/-- The columns among the elements, in order. -/
def columnsOf (elements : List TableElement) : List Column :=
  elements.filterMap fun
    | .column column _ => some column
    | .primaryKey _ => none

/-- The key that the elements define: a key clause replaces what was said
before it, a column that is said to be in the key is added at the end. -/
def keyOf (elements : List TableElement) : List String :=
  elements.foldl (fun key element =>
    match element with
    | .column column inKey => if inKey then key ++ [column.name] else key
    | .primaryKey names => names) []

/-- Takes a statement that makes a table. -/
def createTable : TokenParser CreateTable := do
  keyword "CREATE"
  keyword "TABLE"
  let ifNotExists ← skipKeyword "IF"
  if ifNotExists then
    word "NOT"
    keyword "EXISTS"
  let table ← name
  symbol "("
  let parts ← elements
  if (columnsOf parts).isEmpty then
    unexpected .columnDefinition
  symbol ")"
  return { table, ifNotExists, columns := columnsOf parts, primaryKey := keyOf parts }

/-- Takes a statement that removes a table. -/
def dropTable : TokenParser DropTable := do
  keyword "DROP"
  keyword "TABLE"
  let ifExists ← skipKeyword "IF"
  if ifExists then
    keyword "EXISTS"
  return { table := ← name, ifExists }

/-! ## Queries and rows -/

/-- Takes the name of a column, of which the qualifier is dropped. -/
def columnName : TokenParser String := do
  return Text.unqualified (← name)

/-- Takes a condition. -/
def condition : TokenParser Condition := do
  let column ← columnName
  symbol "="
  return { column, value := ← value }

/-- Takes the conditions of a query, if there are any. -/
def conditions : TokenParser (List Condition) := do
  if ← skipKeyword "WHERE" then sepBy1 condition (skipKeyword "AND") else return []

/-- Takes the row count of a query, if there is one. -/
def limit? : TokenParser (Option UInt64) := do
  if ← skipKeyword "LIMIT" then
    let text ← number
    match Text.Numeral.unsigned? text with
    | some count => return some count
    | none => throw (.unexpected .rowCount (.number text))
  else
    return none

/-- Takes the direction of a sort, which is ascending if nothing is said. -/
def direction : TokenParser Direction := do
  if ← skipWord "DESC" then
    return .descending
  else
    let _ ← skipWord "ASC"
    return .ascending

/-- Takes the order of a query, if there is one. -/
def order? : TokenParser (Option RowOrder) := do
  if ← skipKeyword "ORDER" then
    keyword "BY"
    return some { column := ← columnName, direction := ← direction }
  else
    return none

/-- Takes a query.  The row count may stand before or after the order. -/
def select : TokenParser Select := do
  keyword "SELECT"
  let projection := Projection.ofNames (← sepBy1 columnName (skipSymbol ","))
  keyword "FROM"
  let table ← name
  let conditions ← conditions
  let early ← limit?
  let order ← order?
  let limit ← if early.isSome then pure early else limit?
  return { projection, table, conditions, limit, order }

/-- Takes a statement that adds a row. -/
def insert : TokenParser Insert := do
  keyword "INSERT"
  keyword "INTO"
  let table ← name
  let columns ← parenthesised names
  keyword "VALUES"
  let values ← parenthesised (sepBy1 value (skipSymbol ","))
  if columns.length ≠ values.length then
    throw (.unexpected (.valueCount columns.length) (.valueCount values.length))
  return { table, columns, values }

/-! ## Statements -/

/-- Takes a statement.  The first token decides which one it has to be. -/
def statement : TokenParser Statement := do
  match ← peek? with
  | none => throw (.unsupported "end of input")
  | some first =>
    if first.isKeyword "CREATE" then .createTable <$> createTable
    else if first.isKeyword "DROP" then .dropTable <$> dropTable
    else if first.isKeyword "SELECT" then .select <$> select
    else if first.isKeyword "INSERT" then .insert <$> insert
    else throw (.unsupported first.value)

/-- Takes an optional semicolon, after which nothing may stand. -/
def ending : TokenParser Unit := do
  let _ ← skipSymbol ";"
  unless (← get).isEmpty do unexpected .endOfInput

/-- Takes a statement that is all there is. -/
def wholeStatement : TokenParser Statement := do
  let result ← statement
  ending
  return result

end TokenParser

namespace Statement

/-- The statement that the tokens spell. -/
def ofTokens (tokens : List Token) : Except CompileError Statement :=
  TokenParser.wholeStatement.run' tokens

/-- The statement that a SQL text spells. -/
def ofSql (sql : String) : Except CompileError Statement := do
  ofTokens (← (Token.tokenize sql).mapError .lexical)

end Statement

end CqlCompiler
