import CqlCompiler.CommandLine.Transcript
import CqlCompiler.Json.Printer
import CqlCompiler.Settings
import CqlCompiler.Terminal
import CqlCompiler.Token.Json

/-!
# The listing of tokens

One token on a line with its place and class, and the number of tokens; or all
of them in JSON.
-/

namespace CqlCompiler.CommandLine

open Terminal

/-- How a class of tokens is shown. -/
def kindStyle : TokenKind → List Style
  | .keyword => [.bold, .cyan]
  | .identifier => [.white]
  | .literal => [.yellow]
  | .number => [.magenta]
  | .symbol => [.dimmed]

/-- A token on its line. -/
def tokenLine (colors : Bool) (index : Nat) (token : Token) : String :=
  padStart 4 (Text.Numeral.ofNat index) ++ "  "
    ++ paint colors (kindStyle token.kind) (padEnd 10 token.kind.name) ++ " " ++ token.value

/-- The listing of tokens in a format. -/
def tokenListing (colors : Bool) (format : OutputFormat) (tokens : List Token) : Transcript :=
  match format with
  | .json => Transcript.line (Json.render (.arr (tokens.map Token.toJson)))
  | .cql =>
    tokens.zipIdx.flatMap (fun (token, index) => Transcript.line (tokenLine colors index token))
      ++ Transcript.line ""
      ++ Transcript.line
        (paint colors [.cyan] (Text.Numeral.ofNat tokens.length) ++ " token(s)")

end CqlCompiler.CommandLine
