import CqlCompiler.Text.DoublePrecision
import CqlCompiler.Text.Numeral
import CqlCompiler.Toml.Lexical
import CqlCompiler.Toml.Text
import CqlCompiler.Toml.Value

/-!
# Numbers of TOML

Whole numbers of 64 bits, in decimal with an optional sign or in another base
without one, and numbers with a fraction or an exponent.  An underscore may
stand between two digits.
-/

namespace CqlCompiler.Toml

namespace TextParser

open CqlCompiler.Parser

/-- Takes digits; an underscore between two of them is dropped. -/
def digitRun (isDigit : Char → Bool) : TextParser (List Char) := do
  let first ← satisfy isDigit
  let others ← many do
    match ← takeIf? isDigit with
    | some digit => return some digit
    | none => if ← skipChar '_' then some <$> satisfy isDigit else return none
  return first :: others

/-- Takes decimal digits without superfluous zeros. -/
def wholeDigits : TextParser (List Char) := do
  if ← skipChar '0' then return ['0'] else digitRun Char.isDigit

/-- A whole number, if it has 64 bits. -/
def integer (number : Int) : TextParser Value :=
  if (Text.Numeral.toInt64? number).isSome then return .integer number else fail

/-- Takes the digits after the mark of a base. -/
def basedInteger (isDigit : Char → Bool) (base : Nat) : TextParser Value := do
  let digits ← digitRun isDigit
  integer (digits.foldl (fun number c => base * number + Text.ofHexDigits [c]) 0 : Nat)

/-- Takes the exponent of a number, if there is one. -/
def exponent? : TextParser (Option Int) := do
  if ← skipIf fun c => c == 'e' || c == 'E' then
    let sign ← takeIf? fun c => c == '+' || c == '-'
    let magnitude : Int := Nat.ofDigitChars 10 (← digitRun Char.isDigit) 0
    return some (if sign = some '-' then -magnitude else magnitude)
  else
    return none

/-- Takes the digits of a fraction, if there is one. -/
def fraction? : TextParser (Option (List Char)) := do
  if ← skipChar '.' then some <$> digitRun Char.isDigit else return none

/-- Takes a decimal number after its sign: its value if it is whole, `none` if
it has a fraction or an exponent. -/
def decimal (negative : Bool) : TextParser (Option Int) := do
  let whole ← wholeDigits
  let fraction ← fraction?
  let exponent ← exponent?
  if fraction.isNone ∧ exponent.isNone then
    let magnitude : Int := Nat.ofDigitChars 10 whole 0
    return some (if negative then -magnitude else magnitude)
  else
    let digits := whole ++ fraction.getD []
    let scale := exponent.getD 0 - (fraction.getD []).length
    if !negative && Text.overflowsDouble (Nat.ofDigitChars 10 digits 0) scale then fail
    return none

/-- Takes a number with an optional sign, which may be infinite or none at all;
the result is as for `decimal`. -/
def signedNumber : TextParser (Option Int) := do
  let sign ← takeIf? fun c => c == '+' || c == '-'
  if ← skipText ['i', 'n', 'f'] then
    return none
  else if ← skipText ['n', 'a', 'n'] then
    return none
  else
    decimal (sign == some '-')

/-- Takes a number. -/
def number : TextParser Value := do
  if ← skipText ['0', 'x'] then
    basedInteger Text.isHexDigit 16
  else if ← skipText ['0', 'o'] then
    basedInteger (fun c => '0' ≤ c && c ≤ '7') 8
  else if ← skipText ['0', 'b'] then
    basedInteger (fun c => c == '0' || c == '1') 2
  else
    match ← signedNumber with
    | some number => integer number
    | none => return .float

end TextParser

end CqlCompiler.Toml
