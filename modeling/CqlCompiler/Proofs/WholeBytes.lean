import CqlCompiler.Proofs.Blobs
import CqlCompiler.Proofs.Injection
import Mathlib.Algebra.Ring.Parity

/-!
# Which blob literals are whole bytes

Two hexadecimal digits are a byte, so a blob literal with an odd number of
digits holds no bytes.  A text that is written byte by byte always gives whole
bytes.  A text that already is a run of digits is written as it is, and then the
number of its digits decides.

* `exists_bytes_iff` : digits are whole bytes exactly if their number is even.
* `even_length_blobDigits_iff` : the literal of a text is whole bytes unless the
  text is an odd number of digits.
* `defaultFor_isWhole_iff` : the same of the default of a blob column, which
  depends on nothing else.  A truth value and a number with a fraction are
  never digits.
-/

namespace CqlCompiler.Text

/-! ## Digits and bytes -/

theorem even_length_of_bytesOfHexDigits? {digits : List Char} {bytes : List UInt8}
    (h : bytesOfHexDigits? digits = some bytes) : Even digits.length := by
  fun_induction bytesOfHexDigits? digits generalizing bytes with
  | case1 => exact Even.zero
  | case2 => cases h
  | case3 high low rest _ ih =>
    obtain ⟨tail, htail, -⟩ := Option.map_eq_some_iff.mp h
    have hrest : Even rest.length := ih htail
    rw [Nat.even_iff] at hrest ⊢
    simp only [List.length_cons]
    omega
  | case4 => cases h

theorem exists_bytes_of_even_length {digits : List Char} (h : Even digits.length)
    (hall : ∀ c ∈ digits, isHexDigit c = true) :
    ∃ bytes, bytesOfHexDigits? digits = some bytes := by
  fun_induction bytesOfHexDigits? digits with
  | case1 => exact ⟨[], rfl⟩
  | case2 c =>
    rw [List.length_singleton] at h
    exact absurd h (by decide)
  | case3 high low rest _ ih =>
    have hrest : Even rest.length := by
      rw [Nat.even_iff] at h ⊢
      simp only [List.length_cons] at h
      omega
    obtain ⟨bytes, hbytes⟩ := ih hrest fun c hc => hall c (by simp [hc])
    exact ⟨_, by rw [hbytes]; rfl⟩
  | case4 high low rest hhex => exact absurd ⟨hall high (by simp), hall low (by simp)⟩ hhex

/-- Hexadecimal digits are whole bytes exactly if their number is even. -/
theorem exists_bytes_iff {digits : List Char} (hall : ∀ c ∈ digits, isHexDigit c = true) :
    (∃ bytes, bytesOfHexDigits? digits = some bytes) ↔ Even digits.length :=
  ⟨fun ⟨_, hbytes⟩ => even_length_of_bytesOfHexDigits? hbytes,
    fun h => exists_bytes_of_even_length h hall⟩

/-! ## Texts that are digits -/

/-- The text is a run of hexadecimal digits, of which one is left over when they
are taken two by two. -/
def SpellsHalfByte (text : String) : Prop :=
  ∃ digits, SpellsHexDigits text digits ∧ Odd digits.length

theorem even_length_blobDigits_iff {text : String} :
    Even (blobDigits text.toList).length ↔ ¬ SpellsHalfByte text := by
  by_cases hspells : ∃ digits, SpellsHexDigits text digits
  · obtain ⟨digits, hdigits⟩ := hspells
    rw [← Nat.not_odd_iff_even, not_iff_not]
    constructor
    · intro hodd
      rw [blobDigits_of_spellsHexDigits hdigits] at hodd
      exact ⟨digits, hdigits, hodd⟩
    · intro ⟨digits', hdigits', hodd⟩
      rw [blobDigits_of_spellsHexDigits hdigits']
      exact hodd
  · have heven : Even (blobDigits text.toList).length := by
      rw [blobDigits_of_not_spellsHexDigits hspells]
      exact even_length_of_bytesOfHexDigits? (bytesOfHexDigits?_utf8Digits text)
    have hwhole : ¬ SpellsHalfByte text := fun ⟨digits, hdigits, _⟩ => hspells ⟨digits, hdigits⟩
    exact iff_of_true heven hwhole

/-- Beside hexadecimal digits such a text has the letter of its mark only. -/
theorem SpellsHexDigits.isHexDigit_or {text : String} {digits : List Char}
    (h : SpellsHexDigits text digits) {c : Char} (hc : c ∈ text.toList) :
    isHexDigit c = true ∨ c = 'x' ∨ c = 'X' := by
  obtain ⟨mark, hmark, rfl⟩ := h.marked
  rw [String.toList_append, String.toList_ofList, List.mem_append] at hc
  rcases hc with hc | hc
  · simp only [List.mem_cons, List.not_mem_nil, or_false] at hmark
    rcases hmark with rfl | rfl | rfl
    · simp at hc
    · obtain rfl | rfl : c = '0' ∨ c = 'x' := by simpa using hc
      · exact .inl (by decide)
      · exact .inr (.inl rfl)
    · obtain rfl | rfl : c = '0' ∨ c = 'X' := by simpa using hc
      · exact .inl (by decide)
      · exact .inr (.inr rfl)
  · exact .inl (h.all c hc)

/-- One other character is enough for a text to be written byte by byte. -/
theorem not_spellsHalfByte_of_mem {text : String} {c : Char} (hc : c ∈ text.toList)
    (hother : ¬ (isHexDigit c = true ∨ c = 'x' ∨ c = 'X')) : ¬ SpellsHalfByte text :=
  fun ⟨_, hdigits, _⟩ => hother (hdigits.isHexDigit_or hc)

end CqlCompiler.Text

namespace CqlCompiler

open CqlCompiler.Text

/-! ## Defaults -/

theorem Value.not_spellsHalfByte_boolWord (truth : Bool) : ¬ SpellsHalfByte (boolWord truth) := by
  cases truth with
  | false => exact not_spellsHalfByte_of_mem (c := 's') (by decide) (by decide)
  | true => exact not_spellsHalfByte_of_mem (c := 'r') (by decide) (by decide)

theorem not_spellsHalfByte_decimal (whole fraction : String) :
    ¬ SpellsHalfByte (whole ++ "." ++ fraction) :=
  not_spellsHalfByte_of_mem (c := '.') (by simp) (by decide)

/-- The default of a blob column that is a constant.

* It is the mark and hexadecimal digits.
* The digits are whole bytes exactly if their number is even, and it is even
  exactly if the text of the constant is not an odd number of digits.
* So a truth value and a number with a fraction are whole bytes; a string or an
  integer need not be. -/
theorem defaultFor_isWhole_iff {value : Value} {type : ColumnType}
    (hvalue : value.isVerbatim = false) (htype : type ∈ [ColumnType.binary, ColumnType.blob]) :
    ∃ digits, value.defaultFor type = "0x" ++ String.ofList digits ∧
      (∀ c ∈ digits, isHexDigit c = true) ∧
      ((∃ bytes, bytesOfHexDigits? digits = some bytes) ↔ Even digits.length) ∧
      (Even digits.length ↔ ¬ SpellsHalfByte value.bareText) ∧
      (∀ truth, value = .bool truth → Even digits.length) ∧
      ∀ whole fraction, value = .decimal (whole ++ "." ++ fraction) → Even digits.length := by
  have hall : ∀ c ∈ blobDigits value.bareText.toList, isHexDigit c = true :=
    fun _ => isHexDigit_of_mem_blobDigits
  refine ⟨blobDigits value.bareText.toList, ?_, hall, exists_bytes_iff hall,
    even_length_blobDigits_iff, ?_, ?_⟩
  · rw [Value.defaultFor_eq_blobLiteral hvalue htype, blobLiteral_eq]
  · rintro truth rfl
    exact even_length_blobDigits_iff.mpr (Value.not_spellsHalfByte_boolWord truth)
  · rintro whole fraction rfl
    exact even_length_blobDigits_iff.mpr (not_spellsHalfByte_decimal whole fraction)

/-- A string of three digits and an integer of one, which are no whole bytes. -/
theorem defaultFor_isWhole_iff_of_odd_digits :
    compile "CREATE TABLE t (a blob DEFAULT 'abc', b binary DEFAULT 5)" =
        .ok "CREATE TABLE \"t\" (\n  a blob DEFAULT 0xabc,\n  b blob DEFAULT 0x5\n);" ∧
      (∃ digits, (Value.string "abc").defaultFor .blob = "0x" ++ String.ofList digits ∧
        ¬ Even digits.length ∧ ¬ ∃ bytes, bytesOfHexDigits? digits = some bytes) ∧
      ∃ digits, (Value.int 5).defaultFor .binary = "0x" ++ String.ofList digits ∧
        ¬ Even digits.length ∧ ¬ ∃ bytes, bytesOfHexDigits? digits = some bytes := by
  have hsql : Statement.ofSql "CREATE TABLE t (a blob DEFAULT 'abc', b binary DEFAULT 5)" =
      .ok (.createTable ⟨"t", false, [⟨"a", .blob, ⟨true, some (.string "abc")⟩⟩,
        ⟨"b", .binary, ⟨true, some (.int 5)⟩⟩], []⟩) :=
    Statement.ofSql_eq_ok_of_toOption (by decide +kernel)
  have hstring : SpellsHalfByte "abc" :=
    ⟨['a', 'b', 'c'],
      spellsHexDigits_iff.mpr ⟨by decide, by decide, List.all_eq_true.mp (by decide)⟩, by decide⟩
  have hint : SpellsHalfByte (Value.int 5).bareText :=
    ⟨['5'], spellsHexDigits_iff.mpr ⟨by decide, by decide, List.all_eq_true.mp (by decide)⟩,
      by decide⟩
  refine ⟨?_, ?_, ?_⟩
  · rw [compile_eq_ok hsql]
    exact congrArg Except.ok (by decide +kernel)
  · obtain ⟨digits, hdigits, -, hbytes, heven, -⟩ :=
      @defaultFor_isWhole_iff (.string "abc") .blob rfl (by simp)
    have hodd : ¬ Even digits.length := fun h => heven.mp h hstring
    exact ⟨digits, hdigits, hodd, mt hbytes.mp hodd⟩
  · obtain ⟨digits, hdigits, -, hbytes, heven, -⟩ :=
      @defaultFor_isWhole_iff (.int 5) .binary rfl (by simp)
    have hodd : ¬ Even digits.length := fun h => heven.mp h hint
    exact ⟨digits, hdigits, hodd, mt hbytes.mp hodd⟩

end CqlCompiler
