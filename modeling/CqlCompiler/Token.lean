import CqlCompiler.Text.Case

/-!
# Tokens

The pieces that a SQL text is cut into.  The value of a keyword is in upper
case, the value of a literal is the text between its quotes, and every other
value is the piece as written.
-/

namespace CqlCompiler

/-- The class of a token. -/
inductive TokenKind where
  | keyword
  | identifier
  | literal
  | number
  | symbol
  deriving DecidableEq, Repr

/-- The name of the class, as messages and listings show it. -/
def TokenKind.name : TokenKind → String
  | .keyword => "keyword"
  | .identifier => "identifier"
  | .literal => "literal"
  | .number => "number"
  | .symbol => "symbol"

/-- The classes of tokens. -/
def TokenKind.all : List TokenKind :=
  [.keyword, .identifier, .literal, .number, .symbol]

/-- A piece of SQL text: its class and its value. -/
structure Token where
  kind : TokenKind
  value : String
  deriving DecidableEq, Repr

namespace Token

/-- Whether the token is exactly this keyword. -/
def isKeyword (token : Token) (keyword : String) : Bool :=
  token.kind == .keyword && token.value == keyword

/-- Whether the token is exactly this symbol. -/
def isSymbol (token : Token) (symbol : String) : Bool :=
  token.kind == .symbol && token.value == symbol

/-- Whether the token is a keyword or an identifier that spells `word` in any
case.  Words such as `NOT` and `ASC` have a meaning only in some places, so
they are identifiers. -/
def isWord (token : Token) (word : String) : Bool :=
  (token.kind == .keyword || token.kind == .identifier)
    && Text.equalIgnoringCase token.value word

/-- The token on one line of a listing. -/
def listing (token : Token) : String :=
  token.kind.name ++ ": " ++ token.value

theorem isKeyword_iff {token : Token} {keyword : String} :
    token.isKeyword keyword = true ↔ token = ⟨.keyword, keyword⟩ := by
  cases token; simp [isKeyword]

theorem isSymbol_iff {token : Token} {symbol : String} :
    token.isSymbol symbol = true ↔ token = ⟨.symbol, symbol⟩ := by
  cases token; simp [isSymbol]

end Token

end CqlCompiler
