/-!
# Sets of characters as ranges of code points

A character property is stored as a list of closed intervals of code points in
increasing order.  The list is the definition of the property; `contains_iff` says
what membership means without the Boolean search.
-/

namespace CqlCompiler.Text

/-- Closed intervals of code points. -/
abbrev CodeRanges := List (Nat × Nat)

namespace CodeRanges

/-- Whether the code point of `c` lies in one of the intervals. -/
def contains (ranges : CodeRanges) (c : Char) : Bool :=
  ranges.any fun range => range.1 ≤ c.toNat && c.toNat ≤ range.2

theorem contains_iff {ranges : CodeRanges} {c : Char} :
    ranges.contains c = true ↔ ∃ range ∈ ranges, range.1 ≤ c.toNat ∧ c.toNat ≤ range.2 := by
  simp [contains]

end CodeRanges

end CqlCompiler.Text
