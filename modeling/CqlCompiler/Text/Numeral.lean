/-!
# Decimal numerals of 64-bit integers

Reading and writing the integers that statements hold: row counts are 64-bit
words without a sign, values are 64-bit words with one.  A numeral is an
optional sign and at least one ASCII digit; leading zeros are read but never
written.  A numeral whose number does not fit is not read at all, so no digit
is ever lost.
-/

namespace CqlCompiler.Text.Numeral

/-- The number that a non-empty run of ASCII digits denotes. -/
def digits? (cs : List Char) : Option Nat :=
  if cs ≠ [] ∧ cs.all Char.isDigit then some (Nat.ofDigitChars 10 cs 0) else none

/-- The digits of a number, without superfluous zeros. -/
def ofNat (n : Nat) : String :=
  String.ofList (Nat.toDigits 10 n)

/-- The word without a sign for a number that fits into one. -/
def toUInt64? (n : Nat) : Option UInt64 :=
  if n < UInt64.size then some (UInt64.ofNat n) else none

/-- The word with a sign for a number that fits into one. -/
def toInt64? (n : Int) : Option Int64 :=
  if Int64.minValue.toInt ≤ n ∧ n ≤ Int64.maxValue.toInt then some (Int64.ofInt n) else none

/-- Reads a row count: digits after an optional plus sign. -/
def unsigned? (text : String) : Option UInt64 :=
  let magnitude? := match text.toList with
    | '+' :: cs => digits? cs
    | cs => digits? cs
  magnitude?.bind toUInt64?

/-- Reads a whole value: digits after an optional sign. -/
def signed? (text : String) : Option Int64 :=
  let number? : Option Int := match text.toList with
    | '+' :: cs => (digits? cs).map Int.ofNat
    | '-' :: cs => (digits? cs).map fun n => -(n : Int)
    | cs => (digits? cs).map Int.ofNat
  number?.bind toInt64?

/-- Writes a row count. -/
def ofUnsigned (n : UInt64) : String :=
  ofNat n.toNat

/-- Writes a whole value; only a negative one gets a sign. -/
def ofSigned (n : Int64) : String :=
  if n.toInt < 0 then "-" ++ ofNat n.toInt.natAbs else ofNat n.toInt.natAbs

/-- A written number reads back as itself. -/
theorem digits?_toDigits (n : Nat) : digits? (Nat.toDigits 10 n) = some n := by
  have hall : (Nat.toDigits 10 n).all Char.isDigit = true :=
    List.all_eq_true.mpr fun _ hc => Nat.isDigit_of_mem_toDigits (by decide) (by decide) hc
  rw [digits?, if_pos ⟨Nat.toDigits_ne_nil, hall⟩,
    Nat.ofDigitChars_toDigits (by decide) (by decide)]

end CqlCompiler.Text.Numeral
