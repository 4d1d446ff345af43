/-!
# TOML values

The values of a TOML document.  Numbers with a fraction and points in time are
told apart from the others, but which ones they are makes no difference to any
setting and is not kept.
-/

namespace CqlCompiler.Toml

/-- A TOML value. -/
inductive Value where
  | string (text : String)
  | integer (number : Int)
  /-- A number with a fraction or an exponent, or no finite number. -/
  | float
  | boolean (truth : Bool)
  /-- A date, a time of day, or both. -/
  | datetime
  | array (items : List Value)
  | table (entries : List (String × Value))
  deriving Repr, Inhabited

end CqlCompiler.Toml
