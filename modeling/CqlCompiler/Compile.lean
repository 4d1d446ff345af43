import CqlCompiler.Statement.Cql
import CqlCompiler.Statement.Parser

/-!
# Compiling SQL to CQL

From a SQL text, or from its tokens, to the CQL text.
-/

namespace CqlCompiler

/-- The CQL text for a SQL text. -/
def compile (sql : String) : Except CompileError String :=
  (Statement.ofSql sql).map Statement.toCql

/-- The CQL text for the tokens of a SQL text. -/
def compileTokens (tokens : List Token) : Except CompileError String :=
  (Statement.ofTokens tokens).map Statement.toCql

end CqlCompiler
