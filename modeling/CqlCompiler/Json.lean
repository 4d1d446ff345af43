import CqlCompiler.Text.Numeral

/-!
# JSON values

The values that statements and tokens are exchanged as.  An object is a list of
members in the order in which they are written.  Only numbers that are written
as whole numbers have a meaning here.
-/

namespace CqlCompiler

/-- A JSON value. -/
inductive Json where
  | null
  | bool (truth : Bool)
  | int (number : Int)
  /-- A number with a fraction or an exponent, or minus zero, as written. -/
  | real (numeral : String)
  | str (text : String)
  | arr (items : List Json)
  | obj (members : List (String × Json))
  deriving Repr, Inhabited

namespace Json

/-- The member of an object with the given key. -/
def get? (key : String) : List (String × Json) → Option Json :=
  List.lookup key

/-- The truth value, if the value is one. -/
def bool? : Json → Option Bool
  | .bool truth => some truth
  | _ => none

/-- The text, if the value is one. -/
def str? : Json → Option String
  | .str text => some text
  | _ => none

/-- The items, if the value is an array. -/
def arr? : Json → Option (List Json)
  | .arr items => some items
  | _ => none

/-- The members, if the value is an object. -/
def obj? : Json → Option (List (String × Json))
  | .obj members => some members
  | _ => none

/-- The number, if the value is a whole number. -/
def int? : Json → Option Int
  | .int number => some number
  | _ => none

/-- The number, if the value is a whole number of 64 bits with a sign. -/
def int64? (json : Json) : Option Int64 :=
  json.int?.bind Text.Numeral.toInt64?

/-- The number, if the value is a whole number of 64 bits without a sign. -/
def uint64? (json : Json) : Option UInt64 :=
  json.int?.bind fun number =>
    if 0 ≤ number then Text.Numeral.toUInt64? number.toNat else none

end Json

end CqlCompiler
