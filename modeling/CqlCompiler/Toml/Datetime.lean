import CqlCompiler.Toml.Lexical

/-!
# Points in time in TOML

A date, a time of day, or both with an optional offset from universal time.
Every part is in its range, and a day exists in its month.
-/

namespace CqlCompiler.Toml

/-- Whether the year has a leap day. -/
def isLeapYear (year : Nat) : Bool :=
  year % 4 == 0 && (year % 100 != 0 || year % 400 == 0)

/-- The number of days of a month. -/
def daysInMonth (year month : Nat) : Nat :=
  if month = 2 then (if isLeapYear year then 29 else 28)
  else if month = 4 ∨ month = 6 ∨ month = 9 ∨ month = 11 then 30
  else 31

namespace TextParser

open CqlCompiler.Parser

/-- Takes a number with exactly so many digits, between two bounds. -/
def paddedNumber (width least greatest : Nat) : TextParser Nat := do
  let input ← get
  let digits := input.take width
  let number := Nat.ofDigitChars 10 digits 0
  if digits.length = width ∧ digits.all Char.isDigit ∧ least ≤ number ∧ number ≤ greatest then
    set (input.drop width)
    return number
  else
    fail

/-- Takes a date. -/
def date : TextParser Unit := do
  let year ← paddedNumber 4 0 9999
  char '-'
  let month ← paddedNumber 2 1 12
  char '-'
  let _ ← paddedNumber 2 1 (daysInMonth year month)

/-- Takes a time of day.  The second 60 is a leap second. -/
def timeOfDay : TextParser Unit := do
  let _ ← paddedNumber 2 0 23
  char ':'
  let _ ← paddedNumber 2 0 59
  char ':'
  let _ ← paddedNumber 2 0 60
  let _ ← optional? do
    char '.'
    let _ ← satisfy Char.isDigit
    let _ ← takeWhile Char.isDigit

/-- Takes an offset from universal time. -/
def timeOffset : TextParser Unit := do
  unless ← skipIf fun c => c == 'Z' || c == 'z' do
    let _ ← satisfy fun c => c == '+' || c == '-'
    let _ ← paddedNumber 2 0 23
    char ':'
    let _ ← paddedNumber 2 0 59

/-- Takes a point in time. -/
def datetime : TextParser Unit := do
  match ← optional? date with
  | none => timeOfDay
  | some () =>
    let _ ← optional? do
      let _ ← satisfy fun c => c == 'T' || c == 't' || c == ' '
      timeOfDay
      let _ ← optional? timeOffset

end TextParser

end CqlCompiler.Toml
