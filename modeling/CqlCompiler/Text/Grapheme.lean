import CqlCompiler.Text.GraphemeClass

/-!
# User-perceived characters

A text as a sequence of extended grapheme clusters.  Whether a character joins
the cluster before it depends on its own class and on what the text before it
ends with: `Tail` keeps as much of that as the rules need.
-/

namespace CqlCompiler.Text

/-- How far a text has come towards two connected pictures. -/
inductive PictureTail where
  | none
  /-- It ends with a picture and its marks. -/
  | picture
  /-- It ends with a picture, its marks and a joiner. -/
  | joined
  deriving DecidableEq, Repr

/-- How far a text has come towards two connected consonants. -/
inductive ConjunctTail where
  | none
  /-- It ends with a consonant and its marks. -/
  | consonant
  /-- It ends with a consonant and its marks, a linker among them. -/
  | linked
  deriving DecidableEq, Repr

/-- What a text that is not empty ends with. -/
structure Tail where
  last : GraphemeClass
  /-- Whether it ends with an odd number of letters of flags. -/
  halfFlag : Bool
  picture : PictureTail
  conjunct : ConjunctTail
  deriving DecidableEq, Repr

namespace Tail

/-- What a text of one character ends with. -/
def ofChar (c : Char) : Tail where
  last := graphemeClass c
  halfFlag := graphemeClass c == .regionalIndicator
  picture := if graphemeClass c = .pictographic then .picture else .none
  conjunct := if graphemeClass c = .consonant then .consonant else .none

/-- What a text ends with after one more character. -/
def push (tail : Tail) (c : Char) : Tail where
  last := graphemeClass c
  halfFlag := graphemeClass c == .regionalIndicator && !tail.halfFlag
  picture :=
    match graphemeClass c, tail.picture with
    | .pictographic, _ => .picture
    | .extend, .picture => .picture
    | .joiner, .picture => .joined
    | _, _ => .none
  conjunct :=
    if graphemeClass c = .consonant then .consonant
    else if isConjunctLinker c then (if tail.conjunct = .none then .none else .linked)
    else if isConjunctExtend c then tail.conjunct
    else .none

/-- Whether a character of a class belongs to the cluster at the end of a
text. -/
def joins (tail : Tail) (next : GraphemeClass) : Bool :=
  match tail.last, next with
  | .carriageReturn, .lineFeed => true
  | .carriageReturn, _ | .lineFeed, _ | .control, _ => false
  | _, .carriageReturn | _, .lineFeed | _, .control => false
  | .leading, .leading | .leading, .vowel => true
  | .leading, .openSyllable | .leading, .closedSyllable => true
  | .openSyllable, .vowel | .openSyllable, .trailing => true
  | .vowel, .vowel | .vowel, .trailing => true
  | .closedSyllable, .trailing | .trailing, .trailing => true
  | _, .extend | _, .joiner | _, .spacingMark => true
  | .prepend, _ => true
  | _, .consonant => tail.conjunct == .linked
  | .joiner, .pictographic => tail.picture == .joined
  | .regionalIndicator, .regionalIndicator => tail.halfFlag
  | _, _ => false

end Tail

/-- The clusters of a text that continues a cluster, whose characters are given
from the last to the first. -/
def graphemesAfter (tail : Tail) (cluster : List Char) : List Char → List (List Char)
  | [] => [cluster.reverse]
  | c :: rest =>
    if tail.joins (graphemeClass c) then graphemesAfter (tail.push c) (c :: cluster) rest
    else cluster.reverse :: graphemesAfter (tail.push c) [c] rest

/-- The user-perceived characters of a text. -/
def graphemes : List Char → List (List Char)
  | [] => []
  | c :: rest => graphemesAfter (.ofChar c) [c] rest

/-- Nothing is lost when a text is cut into clusters. -/
theorem flatten_graphemes (cs : List Char) : (graphemes cs).flatten = cs := by
  have general (tail : Tail) (cluster rest : List Char) :
      (graphemesAfter tail cluster rest).flatten = cluster.reverse ++ rest := by
    induction rest generalizing tail cluster with
    | nil => simp [graphemesAfter]
    | cons c rest ih =>
      rw [graphemesAfter]
      split <;> simp [ih]
  cases cs with
  | nil => rfl
  | cons c rest => simp [graphemes, general]

end CqlCompiler.Text
