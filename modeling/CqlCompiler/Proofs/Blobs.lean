import CqlCompiler.Value

/-!
# What a blob literal holds

A blob literal is made from any text.  Digits stay as they are, and every other
text goes in byte by byte, so a reader of the literal gets back the digits or
the bytes.

* `bytesOfHexDigits?` reads bytes back, two digits at a time.
* `SpellsHexDigits` says which texts are digits already.
* `blobLiteral_faithful` : a literal has at least one digit, holds what the text
  says, and is its own literal.

The empty text has no digits and is left out everywhere.
-/

namespace CqlCompiler.Text

/-! ## Bytes -/

/-- The bytes that hexadecimal digits spell, two by two, the high half first. -/
def bytesOfHexDigits? : List Char → Option (List UInt8)
  | [] => some []
  | [_] => none
  | high :: low :: rest =>
    if isHexDigit high ∧ isHexDigit low then
      (bytesOfHexDigits? rest).map (UInt8.ofNat (ofHexDigits [high, low]) :: ·)
    else none

theorem isHexDigit_digitChar : ∀ half < 16, isHexDigit (Nat.digitChar half) = true := by
  decide

theorem ofHexDigits_digitChar : ∀ half < 16, ofHexDigits [Nat.digitChar half] = half := by
  decide

theorem ofHexDigits_pair (high low : Char) :
    ofHexDigits [high, low] = 16 * ofHexDigits [high] + ofHexDigits [low] := by
  simp [ofHexDigits]

theorem isHexDigit_of_mem_byteDigits {byte : UInt8} {c : Char} (h : c ∈ byteDigits byte) :
    isHexDigit c = true := by
  have hlt := byte.toNat_lt
  simp only [byteDigits, List.mem_cons, List.not_mem_nil, or_false] at h
  rcases h with rfl | rfl
  · exact isHexDigit_digitChar _ (by omega)
  · exact isHexDigit_digitChar _ (by omega)

/-- The two halves of a byte make up the byte. -/
theorem ofHexDigits_byteDigits (byte : UInt8) : ofHexDigits (byteDigits byte) = byte.toNat := by
  have hlt := byte.toNat_lt
  rw [byteDigits, ofHexDigits_pair, ofHexDigits_digitChar _ (by omega),
    ofHexDigits_digitChar _ (by omega), Nat.div_add_mod]

theorem bytesOfHexDigits?_byteDigits_append (byte : UInt8) (digits : List Char) :
    bytesOfHexDigits? (byteDigits byte ++ digits) =
      (bytesOfHexDigits? digits).map (byte :: ·) := by
  have hbyte := ofHexDigits_byteDigits byte
  have hdigit : ∀ c ∈ byteDigits byte, isHexDigit c = true := fun _ =>
    isHexDigit_of_mem_byteDigits
  obtain ⟨high, low, hpair⟩ : ∃ high low, byteDigits byte = [high, low] := ⟨_, _, rfl⟩
  rw [hpair] at hbyte hdigit ⊢
  rw [List.cons_append, List.cons_append, List.nil_append, bytesOfHexDigits?,
    if_pos ⟨hdigit high (by simp), hdigit low (by simp)⟩, hbyte, UInt8.ofNat_toNat]

/-- Bytes that are written in digits can be read back. -/
theorem bytesOfHexDigits?_flatMap_byteDigits (bytes : List UInt8) :
    bytesOfHexDigits? (bytes.flatMap byteDigits) = some bytes := by
  induction bytes with
  | nil => rfl
  | cons byte bytes ih =>
    rw [List.flatMap_cons, bytesOfHexDigits?_byteDigits_append, ih]
    rfl

theorem bytesOfHexDigits?_utf8Digits (text : String) :
    bytesOfHexDigits? (utf8Digits text.toList) = some text.toUTF8.data.toList := by
  have hbytes : text.toUTF8.data.toList = text.toList.flatMap String.utf8EncodeChar := by
    rw [String.toUTF8, ← String.utf8Encode_toList, List.utf8Encode, List.data_toByteArray]
  rw [utf8Digits, bytesOfHexDigits?_flatMap_byteDigits, hbytes]

/-! ## Digits -/

/-- The text is a run of hexadecimal digits, after one mark or none. -/
structure SpellsHexDigits (text : String) (digits : List Char) : Prop where
  ne_nil : digits ≠ []
  all : ∀ c ∈ digits, isHexDigit c = true
  marked : ∃ mark ∈ ["", "0x", "0X"], text = mark ++ String.ofList digits

theorem withoutHexMark_of_all {digits : List Char} (h : ∀ c ∈ digits, isHexDigit c = true) :
    withoutHexMark digits = digits := by
  have hmark : isHexDigit 'x' = false ∧ isHexDigit 'X' = false := by decide
  fun_cases withoutHexMark digits with
  | case1 rest => simp [hmark] at h
  | case2 rest => simp [hmark] at h
  | case3 => rfl

theorem exists_mark_of_withoutHexMark (cs : List Char) :
    ∃ mark ∈ ["", "0x", "0X"], cs = mark.toList ++ withoutHexMark cs := by
  fun_cases withoutHexMark cs with
  | case1 rest => exact ⟨"0x", by simp, rfl⟩
  | case2 rest => exact ⟨"0X", by simp, rfl⟩
  | case3 => exact ⟨"", by simp, rfl⟩

/-- Taking the mark away finds the digits, since a mark is never digits itself. -/
theorem spellsHexDigits_iff {text : String} {digits : List Char} :
    SpellsHexDigits text digits ↔
      withoutHexMark text.toList = digits ∧ digits ≠ [] ∧ ∀ c ∈ digits, isHexDigit c = true := by
  constructor
  · intro h
    obtain ⟨mark, hmark, rfl⟩ := h.marked
    refine ⟨?_, h.ne_nil, h.all⟩
    rw [String.toList_append, String.toList_ofList]
    simp only [List.mem_cons, List.not_mem_nil, or_false] at hmark
    rcases hmark with rfl | rfl | rfl
    · exact withoutHexMark_of_all h.all
    · rfl
    · rfl
  · intro ⟨hdigits, hne, hall⟩
    obtain ⟨mark, hmark, htext⟩ := exists_mark_of_withoutHexMark text.toList
    refine ⟨hne, hall, mark, hmark, String.toList_injective ?_⟩
    rw [htext, hdigits, String.toList_append, String.toList_ofList]

theorem blobDigits_of_spellsHexDigits {text : String} {digits : List Char}
    (h : SpellsHexDigits text digits) : blobDigits text.toList = digits := by
  obtain ⟨hdigits, hne, hall⟩ := spellsHexDigits_iff.mp h
  simp only [blobDigits, hdigits]
  rw [if_pos ⟨hne, List.all_eq_true.mpr hall⟩]

theorem blobDigits_of_not_spellsHexDigits {text : String}
    (h : ¬∃ digits, SpellsHexDigits text digits) :
    blobDigits text.toList = utf8Digits text.toList := by
  simp only [blobDigits]
  refine if_neg fun hdigits => h ⟨_, spellsHexDigits_iff.mpr ⟨rfl, hdigits.1, ?_⟩⟩
  exact List.all_eq_true.mp hdigits.2

theorem isHexDigit_of_mem_blobDigits {text : String} {c : Char}
    (h : c ∈ blobDigits text.toList) : isHexDigit c = true := by
  by_cases hspells : ∃ digits, SpellsHexDigits text digits
  · obtain ⟨digits, hspells⟩ := hspells
    rw [blobDigits_of_spellsHexDigits hspells] at h
    exact hspells.all c h
  · rw [blobDigits_of_not_spellsHexDigits hspells] at h
    obtain ⟨byte, -, hbyte⟩ := List.mem_flatMap.mp h
    exact isHexDigit_of_mem_byteDigits hbyte

theorem blobDigits_ne_nil {text : String} (h : text ≠ "") : blobDigits text.toList ≠ [] := by
  by_cases hspells : ∃ digits, SpellsHexDigits text digits
  · obtain ⟨digits, hspells⟩ := hspells
    rw [blobDigits_of_spellsHexDigits hspells]
    exact hspells.ne_nil
  · rw [blobDigits_of_not_spellsHexDigits hspells]
    intro hnil
    have hbytes := bytesOfHexDigits?_utf8Digits text
    rw [hnil] at hbytes
    have hempty : text.toUTF8.data.toList = [] := (Option.some.inj hbytes).symm
    refine h (String.toByteArray_inj.mp (ByteArray.ext ?_))
    exact Array.toList_eq_nil_iff.mp hempty

/-! ## Literals -/

theorem blobLiteral_eq (text : String) :
    blobLiteral text = "0x" ++ String.ofList (blobDigits text.toList) := by
  apply String.toList_injective
  simp [blobLiteral]

/-- A literal spells its own digits, which is why it is taken for digits again. -/
theorem spellsHexDigits_blobLiteral {text : String} (h : text ≠ "") :
    SpellsHexDigits (blobLiteral text) (blobDigits text.toList) where
  ne_nil := blobDigits_ne_nil h
  all := fun _ => isHexDigit_of_mem_blobDigits
  marked := ⟨"0x", by simp, blobLiteral_eq text⟩

theorem blobLiteral_of_spellsHexDigits {text : String} {digits : List Char}
    (h : SpellsHexDigits text digits) : blobLiteral text = "0x" ++ String.ofList digits := by
  rw [blobLiteral_eq, blobDigits_of_spellsHexDigits h]

end CqlCompiler.Text

namespace CqlCompiler

open CqlCompiler.Text

theorem Value.defaultFor_eq_blobLiteral {value : Value} {type : ColumnType}
    (hvalue : value.isVerbatim = false) (htype : type ∈ [ColumnType.binary, ColumnType.blob]) :
    value.defaultFor type = blobLiteral value.bareText := by
  rw [defaultFor, hvalue]
  simp only [List.mem_cons, List.not_mem_nil, or_false] at htype
  rcases htype with rfl | rfl <;> rfl

/-- The blob literal of a text that is not empty, as the default of a column.

* It is the mark and at least one hexadecimal digit.
* Of a text that is digits already, with or without a mark, it has exactly those.
* Of every other text its digits are the UTF-8 bytes, the mark included.
* It is its own literal.
* It is what the default of a blob column is written as, whatever the constant. -/
theorem blobLiteral_faithful {text : String} (h : text ≠ "") :
    (∃ digits, digits ≠ [] ∧ (∀ c ∈ digits, isHexDigit c = true) ∧
      blobLiteral text = "0x" ++ String.ofList digits ∧
      ((¬∃ spelled, SpellsHexDigits text spelled) →
        bytesOfHexDigits? digits = some text.toUTF8.data.toList)) ∧
    (∀ digits, SpellsHexDigits text digits → blobLiteral text = "0x" ++ String.ofList digits) ∧
    blobLiteral (blobLiteral text) = blobLiteral text ∧
    ∀ (value : Value) (type : ColumnType), value.isVerbatim = false → value.bareText = text →
      type ∈ [ColumnType.binary, ColumnType.blob] → value.defaultFor type = blobLiteral text := by
  refine ⟨⟨blobDigits text.toList, ?_⟩, ?_, ?_, ?_⟩
  · refine ⟨blobDigits_ne_nil h, fun _ => isHexDigit_of_mem_blobDigits, blobLiteral_eq text, ?_⟩
    intro hother
    rw [blobDigits_of_not_spellsHexDigits hother]
    exact bytesOfHexDigits?_utf8Digits text
  · exact fun digits => blobLiteral_of_spellsHexDigits
  · rw [blobLiteral_of_spellsHexDigits (spellsHexDigits_blobLiteral h), ← blobLiteral_eq]
  · rintro value type hvalue rfl htype
    exact Value.defaultFor_eq_blobLiteral hvalue htype

/-- A mark before something that is no digit belongs to the text. -/
theorem blobLiteral_faithful_of_marked_text :
    (¬∃ spelled, SpellsHexDigits "0xgé" spelled) ∧
      (Value.string "0xgé").defaultFor .blob = "0x307867c3a9" ∧
      blobLiteral "0x307867c3a9" = "0x307867c3a9" ∧
      ∃ digits, "0x307867c3a9" = "0x" ++ String.ofList digits ∧
        bytesOfHexDigits? digits = some [0x30, 0x78, 0x67, 0xc3, 0xa9] := by
  have hother : ¬∃ spelled, SpellsHexDigits "0xgé" spelled := by
    rintro ⟨spelled, hspelled⟩
    obtain ⟨rfl, -, hall⟩ := spellsHexDigits_iff.mp hspelled
    exact absurd (hall 'g' (by decide)) (by decide)
  have hliteral : blobLiteral "0xgé" = "0x307867c3a9" := by decide
  have hbytes : "0xgé".toUTF8.data.toList = [0x30, 0x78, 0x67, 0xc3, 0xa9] := by decide
  obtain ⟨⟨digits, -, -, hdigits, hread⟩, -, hstable, hdefault⟩ :=
    @blobLiteral_faithful "0xgé" (by decide)
  rw [hliteral] at hdigits hstable
  refine ⟨hother, ?_, hstable, digits, hdigits, (hread hother).trans (congrArg some hbytes)⟩
  rw [hdefault (.string "0xgé") .blob rfl rfl (by simp), hliteral]

end CqlCompiler
