import CqlCompiler.Json

/-!
# Records and alternatives in JSON

A record is an object with a member for each field; members with other keys
mean nothing.  An array with exactly one item for each field, in order, stands
for the record too.  An alternative is its name alone if it has no content, and
an object with its name as the only key otherwise.  The object may be written
for an alternative without content too, with null under the name or, inside a
statement, an empty object.
-/

namespace CqlCompiler.Json

/-- The members of a record with these fields. -/
def record? (fields : List String) : Json → Option (List (String × Json))
  | .obj members => some members
  | .arr items => if items.length = fields.length then some (fields.zip items) else none
  | _ => none

/-- The content of a field that a record must have. -/
def field? {α : Type} (decode? : Json → Option α) (key : String)
    (members : List (String × Json)) : Option α :=
  (get? key members).bind decode?

/-- The content of a field that may be absent or null. -/
def optionalField? {α : Type} (decode? : Json → Option α) (key : String)
    (members : List (String × Json)) : Option (Option α) :=
  match get? key members with
  | none => some none
  | some .null => some none
  | some json => (decode? json).map some

/-- A value that may be missing. -/
def ofOption {α : Type} (encode : α → Json) : Option α → Json
  | none => .null
  | some content => encode content

/-- A list of contents. -/
def list? {α : Type} (decode? : Json → Option α) (json : Json) : Option (List α) :=
  json.arr?.bind fun items => items.mapM decode?

/-- The name of an alternative and its content, if it has one. -/
def variant? : Json → Option (String × Option Json)
  | .str name => some (name, none)
  | .obj [(name, content)] => some (name, some content)
  | _ => none

/-- Which contents of an alternative count as none. -/
inductive NoContent where
  | null
  | nullOrEmptyObject
  deriving DecidableEq, Repr

/-- Whether a content counts as none. -/
def NoContent.allows : NoContent → Json → Bool
  | _, .null => true
  | .nullOrEmptyObject, .obj [] => true
  | _, _ => false

/-- The name of an alternative without content. -/
def bareVariant? (noContent : NoContent) (json : Json) : Option String :=
  match json.variant? with
  | some (name, none) => some name
  | some (name, some content) => if noContent.allows content then some name else none
  | none => none

/-- The kind of a record that names it in its first field, and the record. -/
def tagged? (key : String) : Json → Option (String × Json)
  | .obj members => (field? str? key members).map fun tag => (tag, .obj members)
  | .arr (.str tag :: items) => some (tag, .arr items)
  | _ => none

end CqlCompiler.Json
