import CqlCompiler.Json.Record
import CqlCompiler.Token

/-!
# Tokens in JSON

A token is a record of its class and its value.
-/

namespace CqlCompiler

/-- The class of a token in JSON. -/
def TokenKind.toJson (kind : TokenKind) : Json :=
  .str kind.name

/-- Reads the class of a token. -/
def TokenKind.ofJson? (json : Json) : Option TokenKind :=
  (json.bareVariant? .null).bind fun text => TokenKind.all.find? fun kind => kind.name == text

/-- The token in JSON. -/
def Token.toJson (token : Token) : Json :=
  .obj [("kind", token.kind.toJson), ("value", .str token.value)]

/-- Reads a token. -/
def Token.ofJson? (json : Json) : Option Token := do
  let members ← json.record? ["kind", "value"]
  let kind ← Json.field? TokenKind.ofJson? "kind" members
  let value ← Json.field? Json.str? "value" members
  return { kind, value }

end CqlCompiler
