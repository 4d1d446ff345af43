import CqlCompiler.Token.Lexer

/-!
# Classes of characters

A lexeme is decided by the class of its first character, so the classes must
not overlap.  White space has no character in common with the word characters,
although both are tables of code points: `CodeRanges.Apart` compares two tables
interval by interval.  Digits are word characters, quotes and all marks but the
dot are not.

The case of ASCII letters is outside of all this: every class has all letters or
none, so by `eq_of_toLower_eq` it has a character in both cases or in neither.
-/

namespace CqlCompiler

namespace Text

/-- Each interval of one table ends before each interval of the other begins,
or the other way round. -/
def CodeRanges.Apart (left right : CodeRanges) : Prop :=
  ∀ l ∈ left, ∀ r ∈ right, l.2 < r.1 ∨ r.2 < l.1

instance (left right : CodeRanges) : Decidable (left.Apart right) :=
  inferInstanceAs (Decidable (∀ l ∈ left, ∀ r ∈ right, l.2 < r.1 ∨ r.2 < l.1))

theorem CodeRanges.Apart.contains_eq_false {left right : CodeRanges} {c : Char}
    (h : left.Apart right) (hc : left.contains c = true) : right.contains c = false := by
  obtain ⟨l, hl, hle, hge⟩ := CodeRanges.contains_iff.mp hc
  rw [Bool.eq_false_iff]
  intro hright
  obtain ⟨r, hr, hle', hge'⟩ := CodeRanges.contains_iff.mp hright
  have := h l hl r hr
  omega

theorem whiteSpace_apart_alphanumeric : whiteSpace.Apart alphanumericAboveAscii := by
  decide +kernel

theorem isDigit_iff {c : Char} : c.isDigit = true ↔ 48 ≤ c.toNat ∧ c.toNat ≤ 57 := by
  change (decide ('0'.val ≤ c.val) && decide (c.val ≤ '9'.val)) = true ↔ _
  simp only [Bool.and_eq_true, decide_eq_true_eq, UInt32.le_iff_toNat_le]
  rfl

/-- The letters and digits of ASCII as code points. -/
theorem isAlphanum_iff {c : Char} :
    c.isAlphanum = true ↔ (65 ≤ c.toNat ∧ c.toNat ≤ 90) ∨ (97 ≤ c.toNat ∧ c.toNat ≤ 122) ∨
      (48 ≤ c.toNat ∧ c.toNat ≤ 57) := by
  change (decide ('A'.val ≤ c.val ∧ c.val ≤ 'Z'.val) ||
    (decide ('a'.val ≤ c.val) && decide (c.val ≤ 'z'.val)) || c.isDigit) = true ↔ _
  simp only [Bool.or_eq_true, Bool.and_eq_true, decide_eq_true_eq, UInt32.le_iff_toNat_le,
    isDigit_iff, or_assoc]
  rfl

/-- White space is neither alphabetic nor numeric. -/
theorem isAlphanumeric_of_isWhiteSpace {c : Char} (h : isWhiteSpace c = true) :
    isAlphanumeric c = false := by
  rw [isAlphanumeric]
  split
  · rename_i hascii
    rw [Bool.eq_false_iff, ne_eq, isAlphanum_iff]
    obtain ⟨range, hrange, hle, hge⟩ := CodeRanges.contains_iff.mp h
    simp only [whiteSpace, List.mem_cons, List.not_mem_nil, or_false] at hrange
    rcases hrange with rfl | rfl | rfl | rfl | rfl | rfl | rfl | rfl | rfl | rfl <;>
      simp only at hle hge <;> omega
  · exact whiteSpace_apart_alphanumeric.contains_eq_false h

/-! ## Letters in two cases -/

theorem isAlpha_iff {c : Char} :
    c.isAlpha = true ↔ (65 ≤ c.toNat ∧ c.toNat ≤ 90) ∨ (97 ≤ c.toNat ∧ c.toNat ≤ 122) := by
  change (decide ('A'.val ≤ c.val ∧ c.val ≤ 'Z'.val) ||
    (decide ('a'.val ≤ c.val) && decide (c.val ≤ 'z'.val))) = true ↔ _
  simp only [Bool.or_eq_true, Bool.and_eq_true, decide_eq_true_eq, UInt32.le_iff_toNat_le]
  rfl

theorem toNat_toLower (c : Char) :
    c.toLower.toNat = if 65 ≤ c.toNat ∧ c.toNat ≤ 90 then c.toNat + 32 else c.toNat := by
  unfold Char.toLower
  have hbounds : (c.val ≥ 'A'.val ∧ c.val ≤ 'Z'.val) ↔ (65 ≤ c.toNat ∧ c.toNat ≤ 90) := by
    simp only [ge_iff_le, UInt32.le_iff_toNat_le]
    rfl
  by_cases h : 65 ≤ c.toNat ∧ c.toNat ≤ 90
  · rw [dif_pos (hbounds.mpr h), if_pos h]
    show (c.val + 32).toNat = c.val.toNat + 32
    have hval : c.val.toNat ≤ 90 := h.2
    rw [UInt32.toNat_add, show (32 : UInt32).toNat = 32 from rfl]
    omega
  · rw [dif_neg (mt hbounds.mp h), if_neg h]

/-- Characters that differ in their case are letters. -/
theorem eq_or_isAlpha_of_toLower_eq {c d : Char} (h : c.toLower = d.toLower) :
    c = d ∨ (c.isAlpha = true ∧ d.isAlpha = true) := by
  have hlower := congrArg Char.toNat h
  rw [toNat_toLower, toNat_toLower] at hlower
  rw [← Char.toNat_inj, isAlpha_iff, isAlpha_iff]
  split at hlower <;> split at hlower <;> omega

/-- What is the same for all letters does not depend on their case. -/
theorem eq_of_toLower_eq {α : Type} {p : Char → α} {a : α} {c d : Char}
    (hp : ∀ c, c.isAlpha = true → p c = a) (h : c.toLower = d.toLower) : p c = p d := by
  rcases eq_or_isAlpha_of_toLower_eq h with rfl | ⟨hc, hd⟩
  · rfl
  · rw [hp c hc, hp d hd]

end Text

namespace Token

open CqlCompiler.Text

theorem isWordChar_of_isWhiteSpace {c : Char} (h : isWhiteSpace c = true) :
    isWordChar c = false := by
  have hmarks : c ≠ '_' ∧ c ≠ '.' ∧ c ≠ '*' := by
    refine ⟨?_, ?_, ?_⟩ <;> rintro rfl <;> revert h <;> decide
  simp [isWordChar, isAlphanumeric_of_isWhiteSpace h, hmarks]

theorem isWordChar_of_isDigit {c : Char} (h : c.isDigit = true) : isWordChar c = true := by
  have hascii : c.toNat < 0x80 := by
    have := isDigit_iff.mp h
    omega
  simp [isWordChar, isAlphanumeric_of_ascii hascii, Char.isAlphanum, h]

theorem isQuote_iff {c : Char} : isQuote c = true ↔ c = '\'' ∨ c = '"' := by
  simp [isQuote]

theorem ne_backslash_of_isQuote {c : Char} (h : isQuote c = true) : c ≠ '\\' := by
  rcases isQuote_iff.mp h with rfl | rfl <;> decide

theorem isWordChar_of_isQuote {c : Char} (h : isQuote c = true) : isWordChar c = false := by
  rcases isQuote_iff.mp h with rfl | rfl <;> decide

theorem isAlpha_of_isQuote {c : Char} (h : isQuote c = true) : c.isAlpha = false := by
  rcases isQuote_iff.mp h with rfl | rfl <;> decide

/-- A mark belongs to no other class; only the dot is a word character too. -/
theorem classes_of_mem_marks {c : Char} (h : c ∈ marks) :
    isWhiteSpace c = false ∧ isQuote c = false ∧ c.isDigit = false ∧
      (c = '.' ∨ isWordChar c = false) ∧ c ≠ '/' ∧ c ≠ '-' := by
  simp only [marks, List.mem_cons, List.not_mem_nil, or_false] at h
  rcases h with rfl | rfl | rfl | rfl | rfl | rfl | rfl <;> decide

theorem isAlpha_of_mem_marks {c : Char} (h : c ∈ marks) : c.isAlpha = false := by
  simp only [marks, List.mem_cons, List.not_mem_nil, or_false] at h
  rcases h with rfl | rfl | rfl | rfl | rfl | rfl | rfl <;> decide

theorem isWordChar_of_isAlpha {c : Char} (h : c.isAlpha = true) : isWordChar c = true := by
  have hascii : c.toNat < 0x80 := by
    have := isAlpha_iff.mp h
    omega
  simp [isWordChar, isAlphanumeric_of_ascii hascii, Char.isAlphanum, h]

theorem isWhiteSpace_of_isWordChar {c : Char} (h : isWordChar c = true) :
    isWhiteSpace c = false := by
  rw [Bool.eq_false_iff]
  intro hspace
  simp [isWordChar_of_isWhiteSpace hspace] at h

end Token

end CqlCompiler
