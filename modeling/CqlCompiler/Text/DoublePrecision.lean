/-!
# The range of double precision

Numbers with a fraction or an exponent are read only if they have a counterpart
of double precision.  What that counterpart is never matters here, only whether
the number is too large to have one, so whole numbers decide it exactly.
-/

namespace CqlCompiler.Text

/-- The least number that is nearer to `2 ^ 1024` than to every number of
double precision. -/
def doubleOverflow : Nat :=
  Nat.pow 2 1024 - Nat.pow 2 970

/-- Whether `mantissa * 10 ^ exponent` is too large for double precision.  The
number of digits decides all but the last order of magnitude. -/
def overflowsDouble (mantissa : Nat) (exponent : Int) : Bool :=
  if mantissa = 0 then false
  else
    let magnitude := (Nat.toDigits 10 mantissa).length + exponent
    if magnitude ≤ 308 then false
    else if 310 ≤ magnitude then true
    else if 0 ≤ exponent then doubleOverflow ≤ mantissa * Nat.pow 10 exponent.toNat
    else doubleOverflow * Nat.pow 10 (-exponent).toNat ≤ mantissa

end CqlCompiler.Text
