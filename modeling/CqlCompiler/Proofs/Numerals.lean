import CqlCompiler.Text.Numeral

/-!
# What numerals denote

`DenotesCount` and `DenotesInteger` say without any reader which texts are
numerals and which number each of them denotes; there is no bound on the
number.  The readers of 64-bit words read exactly the numerals whose number is
a word: `unsigned?_eq_some_iff` and `signed?_eq_some_iff`.
-/

namespace CqlCompiler.Text.Numeral

/-- The text is the sign and at least one ASCII digit, and the digits denote
the number. -/
def Denotes (sign : List Char) (text : String) (n : Nat) : Prop :=
  ∃ digits, text.toList = sign ++ digits ∧ digits ≠ [] ∧ (∀ c ∈ digits, c.isDigit = true) ∧
    n = Nat.ofDigitChars 10 digits 0

/-- The numeral of a count has no sign or a plus sign. -/
def DenotesCount (text : String) (n : Nat) : Prop :=
  Denotes [] text n ∨ Denotes ['+'] text n

/-- The numeral of an integer is that of a count, or has a minus sign. -/
def DenotesInteger (text : String) (n : Int) : Prop :=
  (∃ count : Nat, DenotesCount text count ∧ n = count) ∨
    ∃ count : Nat, Denotes ['-'] text count ∧ n = -(count : Int)

theorem digits?_eq_some_iff {cs : List Char} {n : Nat} :
    digits? cs = some n ↔
      cs ≠ [] ∧ (∀ c ∈ cs, c.isDigit = true) ∧ n = Nat.ofDigitChars 10 cs 0 := by
  rw [digits?, Option.ite_none_right_eq_some, List.all_eq_true, Option.some.injEq, and_assoc,
    eq_comm]

theorem denotes_iff {sign : List Char} {text : String} {n : Nat} :
    Denotes sign text n ↔ ∃ digits, text.toList = sign ++ digits ∧ digits? digits = some n := by
  simp only [Denotes, digits?_eq_some_iff]

theorem denotes_singleton_iff {sign : Char} {text : String} {n : Nat} :
    Denotes [sign] text n ↔ ∃ cs, text.toList = sign :: cs ∧ digits? cs = some n := by
  simp only [denotes_iff, List.singleton_append]

theorem denotes_nil_iff {text : String} {n : Nat} :
    Denotes [] text n ↔ digits? text.toList = some n := by
  simp [denotes_iff]

theorem denotesCount_iff {text : String} {n : Nat} :
    DenotesCount text n ↔
      (match text.toList with
        | '+' :: cs => digits? cs
        | cs => digits? cs) = some n := by
  rw [DenotesCount, denotes_singleton_iff, denotes_nil_iff]
  generalize text.toList = cs
  by_cases hplus : ∃ ds, cs = '+' :: ds
  · obtain ⟨ds, rfl⟩ := hplus
    have hnone : digits? ('+' :: ds) = none := by simp [digits?]
    simp [hnone]
  · simp only [not_exists] at hplus
    simp [hplus]

theorem denotesInteger_iff {text : String} {n : Int} :
    DenotesInteger text n ↔
      (match text.toList with
        | '+' :: cs => (digits? cs).map Int.ofNat
        | '-' :: cs => (digits? cs).map fun n => -(n : Int)
        | cs => (digits? cs).map Int.ofNat) = some n := by
  simp only [DenotesInteger, denotesCount_iff, denotes_singleton_iff]
  generalize text.toList = cs
  by_cases hplus : ∃ ds, cs = '+' :: ds
  · obtain ⟨ds, rfl⟩ := hplus
    cases h : digits? ds <;> simp [h, eq_comm]
  · by_cases hminus : ∃ ds, cs = '-' :: ds
    · obtain ⟨ds, rfl⟩ := hminus
      have hnone : digits? ('-' :: ds) = none := by simp [digits?]
      cases h : digits? ds <;> simp [h, hnone, eq_comm]
    · simp only [not_exists] at hplus hminus
      cases h : digits? cs <;> simp [h, hminus, eq_comm]

/-! ## The words that are read -/

theorem toUInt64?_eq_some_iff {n : Nat} {word : UInt64} :
    toUInt64? n = some word ↔ n = word.toNat := by
  rw [toUInt64?, Option.ite_none_right_eq_some, Option.some.injEq]
  constructor
  · intro h
    obtain ⟨hlt, rfl⟩ := h
    rw [UInt64.toNat_ofNat_of_lt' hlt]
  · intro h
    subst h
    exact ⟨word.toNat_lt, UInt64.ofNat_toNat⟩

theorem toInt64?_eq_some_iff {n : Int} {word : Int64} :
    toInt64? n = some word ↔ n = word.toInt := by
  rw [toInt64?, Option.ite_none_right_eq_some, Option.some.injEq]
  constructor
  · intro h
    obtain ⟨⟨hmin, hmax⟩, rfl⟩ := h
    rw [Int64.toInt_maxValue] at hmax
    rw [Int64.toInt_ofInt_of_le hmin (by omega)]
  · intro h
    subst h
    exact ⟨⟨word.minValue_le_toInt, word.toInt_le⟩, Int64.ofInt_toInt word⟩

/-- A row count is read from exactly the numerals that denote it. -/
theorem unsigned?_eq_some_iff {text : String} {word : UInt64} :
    unsigned? text = some word ↔ DenotesCount text word.toNat := by
  rw [unsigned?, Option.bind_eq_some_iff, denotesCount_iff]
  simp only [toUInt64?_eq_some_iff]
  constructor
  · intro h
    obtain ⟨n, h, rfl⟩ := h
    exact h
  · intro h
    exact ⟨_, h, rfl⟩

/-- A whole value is read from exactly the numerals that denote it. -/
theorem signed?_eq_some_iff {text : String} {word : Int64} :
    signed? text = some word ↔ DenotesInteger text word.toInt := by
  rw [signed?, Option.bind_eq_some_iff, denotesInteger_iff]
  simp only [toInt64?_eq_some_iff]
  constructor
  · intro h
    obtain ⟨n, h, rfl⟩ := h
    exact h
  · intro h
    exact ⟨_, h, rfl⟩

end CqlCompiler.Text.Numeral
