/-!
# ASCII case

Keywords and type names are compared without regard to the case of ASCII
letters; every other character stands for itself alone.  `Char.toUpper` and
`Char.toLower` of core change ASCII letters only.
-/

namespace CqlCompiler.Text

/-- The text with its ASCII letters in upper case. -/
def upper (text : String) : String :=
  String.ofList (text.toList.map Char.toUpper)

/-- The text with its ASCII letters in lower case. -/
def lower (text : String) : String :=
  String.ofList (text.toList.map Char.toLower)

/-- Whether two texts differ at most in the case of ASCII letters. -/
def equalIgnoringCase (a b : String) : Bool :=
  lower a == lower b

theorem upper_ofList (cs : List Char) :
    upper (String.ofList cs) = String.ofList (cs.map Char.toUpper) := by
  rw [upper, String.toList_ofList]

theorem equalIgnoringCase_iff {a b : String} :
    equalIgnoringCase a b = true ↔ lower a = lower b := by
  simp [equalIgnoringCase]

@[simp] theorem equalIgnoringCase_self (a : String) : equalIgnoringCase a a = true := by
  simp [equalIgnoringCase]

end CqlCompiler.Text
