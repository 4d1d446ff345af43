/-!
# Quoted text

A text between quotes, in which a quote is written twice.  String literals of
the output use the single quote, identifiers the double quote.
-/

namespace CqlCompiler.Text

/-- The characters of a quoted text between its outer quotes: each quote is
written twice, every other character once. -/
def doubled (quote : Char) (cs : List Char) : List Char :=
  cs.flatMap fun c => if c = quote then [quote, quote] else [c]

/-- The text between two quotes. -/
def enclosed (quote : Char) (text : String) : String :=
  String.ofList (quote :: (doubled quote text.toList ++ [quote]))

/-- The text as a string literal. -/
def quoteLiteral (text : String) : String :=
  enclosed '\'' text

@[simp] theorem doubled_nil (quote : Char) : doubled quote [] = [] := rfl

theorem doubled_cons (quote c : Char) (cs : List Char) :
    doubled quote (c :: cs) =
      (if c = quote then [quote, quote] else [c]) ++ doubled quote cs := rfl

end CqlCompiler.Text
