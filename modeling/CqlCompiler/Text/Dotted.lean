import CqlCompiler.Text.Quoted

/-!
# Dotted names

A name such as `keyspace.table` is a sequence of segments between dots.  A
column is known by its last segment alone; a table keeps all of them, each
quoted by itself.
-/

namespace CqlCompiler.Text

/-- The pieces of a name between its dots; there is one more than dots. -/
def segments : List Char → List (List Char)
  | [] => [[]]
  | c :: rest =>
    if c = '.' then [] :: segments rest
    else match segments rest with
      | [] => [[c]]
      | segment :: more => (c :: segment) :: more

theorem segments_ne_nil (cs : List Char) : segments cs ≠ [] := by
  cases cs with
  | nil => simp [segments]
  | cons c rest =>
    rw [segments]
    split
    · simp
    · split <;> simp

/-- The name without its qualifier: what stands after the last dot. -/
def unqualified (name : String) : String :=
  String.ofList (name.toList.reverse.takeWhile (· ≠ '.')).reverse

/-- The name with each segment between double quotes. -/
def quoteIdentifier (name : String) : String :=
  ".".intercalate ((segments name.toList).map fun segment => enclosed '"' (String.ofList segment))

end CqlCompiler.Text
