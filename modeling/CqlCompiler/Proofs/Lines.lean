import CqlCompiler.Proofs.Rendering
import CqlCompiler.Proofs.Unterminated

/-!
# Texts of several lines

If a text can be cut into tokens, then a newline after it ends whatever it ends
in: no gap and no lexeme goes on in the next line, and nothing of the text is
remembered there.  So the tokens of two texts with a newline between them are
those of the one and those of the other, and what is left open in the second
one is left open as many bytes later.

There are two groups.

* Longer texts.  `IsGap.append_line` and `SpellsToken.append_line` say that gaps
  and lexemes stay what they are if a line ends after the text that follows
  them.
* Whole texts.  `scan_append_line` is about characters,
  `tokenize_append_newline` about bytes, and `tokenize_at_line_boundary` adds
  that lines without tokens may be put in between.
-/

namespace CqlCompiler

open CqlCompiler.Parser

namespace Token

/-! ## Longer texts -/

theorem IsGap.append_line {gap after rest : List Char} (h : IsGap gap after)
    (hrest : LineEnds rest) : IsGap gap (after ++ rest) := by
  induction h with
  | nil after => exact .nil _
  | space hspace _ ih => exact .space hspace ih
  | block hbody _ ih => exact .block hbody ih
  | line hbody hends _ ih =>
    -- a line comment at the end of the text now ends at the newline
    have hends' := (notAt_ne_newline_iff.mpr hends).append (notAt_of_lineEnds rfl hrest)
    rw [List.append_assoc] at hends'
    exact .line hbody (notAt_ne_newline_iff.mp hends') ih

theorem IsRun.append_line {p : Char → Bool} {run after rest : List Char} (h : IsRun p run after)
    (hp : p '\n' = false) (hrest : LineEnds rest) : IsRun p run (after ++ rest) :=
  ⟨h.ne_nil, h.all, h.ends.append (notAt_of_lineEnds hp hrest)⟩

theorem IsWordRun.append_line {run after rest : List Char} (h : IsWordRun run after)
    (hrest : LineEnds rest) : IsWordRun run (after ++ rest) :=
  ⟨h.toIsRun.append_line (by decide) hrest, h.begins⟩

theorem SpellsToken.append_line {lexeme after rest : List Char} {token : Token}
    (h : SpellsToken lexeme after token) (hrest : LineEnds rest) :
    SpellsToken lexeme (after ++ rest) token := by
  cases h with
  | mark _ hmark => exact .mark _ hmark
  | number hdigits => exact .number (hdigits.append_line (by decide) hrest)
  | keyword hword hkeyword => exact .keyword (hword.append_line hrest) hkeyword
  | identifier hword hkeyword => exact .identifier (hword.append_line hrest) hkeyword
  | literal _ hquote hbody => exact .literal _ hquote hbody
  | other hspace hquote hmark hword hblock hline =>
    exact .other hspace hquote hmark hword (not_opens_append_line hblock (by decide) hrest)
      (not_opens_append_line hline (by decide) hrest)

/-! ## Whole texts -/

theorem scan_append_line {text rest : List Char} {tokens : List Token} (h : CutsInto text tokens)
    (hrest : LineEnds rest) : scan (text ++ rest) = (scan rest).map (tokens ++ ·) := by
  induction h with
  | @nil gap hgap =>
    have hscan : scan (gap ++ rest) = scan rest := (hgap.append_line hrest).scan_append
    rw [hscan]
    cases scan rest <;> rfl
  | @cons gap lexeme text token tokens hgap htoken _ ih =>
    have hgap' := hgap.append_line hrest
    rw [List.append_assoc] at hgap'
    rw [List.append_assoc, List.append_assoc, (htoken.append_line hrest).scan_append hgap', ih]
    cases scan rest <;> rfl

theorem scan_newline (text : List Char) : scan ('\n' :: text) = scan text :=
  IsGap.scan_append (.space (by decide) (.nil text))

end Token

/-- The error of a text that has so many more bytes before it. -/
def LexError.shifted (bytes : Nat) : LexError → LexError
  | .unterminatedString quote position => .unterminatedString quote (position + bytes)
  | .unterminatedComment position => .unterminatedComment (position + bytes)

theorem LexError.shifted_shifted (first second : Nat) (fault : LexError) :
    (fault.shifted first).shifted second = fault.shifted (first + second) := by
  cases fault <;> simp [shifted, Nat.add_assoc]

namespace Token

/-- The opening mark of a construct stands as many bytes later as a text before
it has. -/
theorem Unclosed.toError_append_left {unclosed : Unclosed} {text : List Char}
    (h : scan text = .error unclosed) (front : List Char) :
    unclosed.toError (front ++ text) =
      (unclosed.toError text).shifted (Text.byteLength front) := by
  obtain ⟨-, before, -, rfl, -⟩ := exists_cut_of_scan_eq_error h
  rw [← List.append_assoc, toError_append, toError_append, Text.byteLength_append, Nat.add_comm]
  cases unclosed <;> rfl

theorem tokenize_append_newline {left : String} {tokens : List Token}
    (h : tokenize left = .ok tokens) (right : String) :
    tokenize (left ++ "\n" ++ right) =
      ((tokenize right).map (tokens ++ ·)).mapError (·.shifted (left.utf8ByteSize + 1)) := by
  have hcut := cutsInto_of_scan (tokenize_eq_ok_iff_scan.mp h)
  have htext : (left ++ "\n" ++ right).toList = left.toList ++ ['\n'] ++ right.toList := by
    rw [String.toList_append, String.toList_append]
    rfl
  have hscan : scan (left.toList ++ ['\n'] ++ right.toList) =
      (scan right.toList).map (tokens ++ ·) := by
    rw [List.append_assoc, scan_append_line hcut (List.prefix_append ['\n'] right.toList)]
    exact congrArg _ (scan_newline right.toList)
  have hbytes : Text.byteLength (left.toList ++ ['\n']) = left.utf8ByteSize + 1 := by
    rw [Text.byteLength_append, Text.byteLength_toList]
    rfl
  unfold tokenize
  rw [htext, hscan]
  cases hright : scan right.toList with
  | ok more => rfl
  | error unclosed =>
    have hshifted := unclosed.toError_append_left hright (left.toList ++ ['\n'])
    rw [hbytes] at hshifted
    exact congrArg Except.error hshifted

/-- At the end of a line of a text, if the lines up to there can be cut into
tokens, the rest of the text is cut as if it stood alone, and lines without
tokens can be put in. -/
theorem tokenize_at_line_boundary {left : String} {tokens : List Token}
    (h : tokenize left = .ok tokens) (right : String) :
    tokenize (left ++ "\n" ++ right) =
      ((tokenize right).map (tokens ++ ·)).mapError (·.shifted (left.utf8ByteSize + 1)) ∧
    ∀ blank, tokenize blank = .ok [] →
      tokenize (left ++ "\n" ++ blank ++ "\n" ++ right) =
        (tokenize (left ++ "\n" ++ right)).mapError (·.shifted (blank.utf8ByteSize + 1)) := by
  refine ⟨tokenize_append_newline h right, ?_⟩
  intro blank hblank
  have hleft : tokenize (left ++ "\n" ++ blank) = .ok tokens := by
    rw [tokenize_append_newline h, hblank]
    exact congrArg Except.ok (List.append_nil tokens)
  have hbytes : (left ++ "\n" ++ blank).utf8ByteSize + 1 =
      left.utf8ByteSize + 1 + (blank.utf8ByteSize + 1) := by
    rw [String.utf8ByteSize_append, String.utf8ByteSize_append]
    exact Nat.add_assoc _ _ _
  rw [tokenize_append_newline hleft, tokenize_append_newline h, hbytes]
  cases tokenize right with
  | ok more => rfl
  | error fault => exact congrArg Except.error (fault.shifted_shifted _ _).symm

theorem tokenize_at_line_boundary_of_comments :
    tokenize "é-- '" = .ok [⟨.identifier, "é"⟩] ∧ tokenize "/* ' */--" = .ok [] ∧
      tokenize "é-- '\n-'ü" = .error (.unterminatedString '\'' 8) ∧
      tokenize "é-- '\n/* ' */--\n-'ü" = .error (.unterminatedString '\'' 18) := by
  have hleft : tokenize "é-- '" = .ok [⟨.identifier, "é"⟩] := by decide +kernel
  have hblank : tokenize "/* ' */--" = .ok [] := by decide +kernel
  have hright : tokenize "-'ü" = .error (.unterminatedString '\'' 1) := by decide +kernel
  obtain ⟨hboundary, hinserted⟩ := tokenize_at_line_boundary hleft "-'ü"
  rw [hright] at hboundary
  have hlines := hinserted "/* ' */--" hblank
  rw [hboundary] at hlines
  exact ⟨hleft, hblank, hboundary, hlines⟩

end Token

end CqlCompiler
