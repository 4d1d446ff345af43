import CqlCompiler.Proofs.Respelling
import CqlCompiler.Proofs.RoundTrip
import Mathlib

/-!
# Letters in another case

The case of the ASCII letters of a text changes neither how the text is cut into
tokens nor which statement it is.  Keywords are in upper case whatever the text,
a word that only some places know is known in any case, and the name of a type
has no case; every other word keeps the case that it has in the text.

There are two groups.

* Texts.  A change of case is made letter by letter, so it commutes with each
  step of the lexer: with a gap in `skipGap_map`, with a lexeme in `lexeme_map`
  and with all of the text in `scan_map`.  What it never does is to make a quote,
  a mark or an end of a comment, since those are no letters.
* Statements.  The tokens of the changed text are respelled, so
  `Statement.ofTokens_respell` says what becomes of the statement.
  `ofSql_upper` is the result.
-/

namespace CqlCompiler

open CqlCompiler.Parser CqlCompiler.Token

/-! ## Classes of characters -/

namespace CaseChange

variable (change : CaseChange)

/-- Only letters have another case. -/
theorem letter_of_isAlpha_eq_false {c : Char} (h : c.isAlpha = false) : change.letter c = c :=
  (change.letter_eq_iff h c).mpr rfl

theorem isWordChar_letter (c : Char) : isWordChar (change.letter c) = isWordChar c :=
  change.apply_letter (fun _ => isWordChar_of_isAlpha) c

theorem isWhiteSpace_letter (c : Char) :
    Text.isWhiteSpace (change.letter c) = Text.isWhiteSpace c :=
  change.apply_letter (fun _ h => isWhiteSpace_of_isWordChar (isWordChar_of_isAlpha h)) c

theorem isDigit_letter (c : Char) : (change.letter c).isDigit = c.isDigit := by
  refine change.apply_letter (p := Char.isDigit) (a := false) (fun c h => ?_) c
  have hletter := Text.isAlpha_iff.mp h
  rw [Bool.eq_false_iff, ne_eq, Text.isDigit_iff]
  omega

/-- A letter of either case is one byte. -/
theorem utf8Size_letter (c : Char) : (change.letter c).utf8Size = c.utf8Size := by
  refine change.apply_letter (p := Char.utf8Size) (a := 1) (fun c h => ?_) c
  have hletter := Text.isAlpha_iff.mp h
  rw [Char.utf8Size_eq_one_iff, UInt32.le_iff_toNat_le]
  show c.toNat ≤ 127
  omega

theorem letter_of_isWordChar_eq_false {c : Char} (h : isWordChar c = false) :
    change.letter c = c := by
  apply change.letter_of_isAlpha_eq_false
  rw [Bool.eq_false_iff]
  intro hletter
  simp [isWordChar_of_isAlpha hletter] at h

theorem letter_of_isDigit {c : Char} (h : c.isDigit = true) : change.letter c = c := by
  apply change.letter_of_isAlpha_eq_false
  have hdigit := Text.isDigit_iff.mp h
  rw [Bool.eq_false_iff, ne_eq, Text.isAlpha_iff]
  omega

theorem letter_of_isQuote {c : Char} (h : isQuote c = true) : change.letter c = c :=
  change.letter_of_isWordChar_eq_false (isWordChar_of_isQuote h)

theorem isQuote_letter (c : Char) : isQuote (change.letter c) = isQuote c := by
  refine change.apply_letter (p := isQuote) (a := false) (fun c h => ?_) c
  rw [Bool.eq_false_iff]
  intro hquote
  simp [isAlpha_of_isQuote hquote] at h

theorem letter_of_mem_marks {c : Char} (h : c ∈ marks) : change.letter c = c :=
  change.letter_of_isAlpha_eq_false (isAlpha_of_mem_marks h)

theorem mem_marks_letter (c : Char) : change.letter c ∈ marks ↔ c ∈ marks := by
  constructor
  · intro h
    rwa [← (change.letter_eq_iff (isAlpha_of_mem_marks h) c).mp rfl] at h
  · intro h
    rwa [change.letter_of_mem_marks h]

/-! ## Texts -/

theorem takeWhile_map {p : Char → Bool} (hp : ∀ c, p (change.letter c) = p c) (cs : List Char) :
    (cs.map change.letter).takeWhile p = (cs.takeWhile p).map change.letter := by
  rw [List.takeWhile_map, show p ∘ change.letter = p from funext hp]

theorem dropWhile_map {p : Char → Bool} (hp : ∀ c, p (change.letter c) = p c) (cs : List Char) :
    (cs.map change.letter).dropWhile p = (cs.dropWhile p).map change.letter := by
  rw [List.dropWhile_map, show p ∘ change.letter = p from funext hp]

/-- A mark of two characters is at the front in both cases or in neither. -/
theorem map_eq_cons_cons {first second : Char} (hfirst : first.isAlpha = false)
    (hsecond : second.isAlpha = false) {c : Char} {cs tail : List Char}
    (hc : change.letter c = first) (hcs : cs.map change.letter = second :: tail) :
    c = first ∧ ∃ rest, cs = second :: rest := by
  obtain ⟨d, rest, rfl, hd, -⟩ := List.map_eq_cons_iff.mp hcs
  rw [(change.letter_eq_iff hsecond d).mp hd]
  exact ⟨(change.letter_eq_iff hfirst c).mp hc, rest, rfl⟩

theorem afterComment?_map (cs : List Char) :
    afterComment? (cs.map change.letter) = (afterComment? cs).map (List.map change.letter) := by
  fun_induction afterComment? cs with
  | case1 => rfl
  | case2 rest =>
    have hstar : change.letter '*' = '*' := change.letter_of_isAlpha_eq_false (by decide)
    have hslash : change.letter '/' = '/' := change.letter_of_isAlpha_eq_false (by decide)
    rw [List.map_cons, List.map_cons, hstar, hslash]
    rfl
  | case3 c rest hopen ih =>
    rw [List.map_cons, afterComment?.eq_3]
    · exact ih
    · intro tail hc hrest
      obtain ⟨rfl, rest, rfl⟩ := change.map_eq_cons_cons (by decide) (by decide) hc hrest
      exact hopen rest rfl rfl

end CaseChange

/-- The construct in the other case. -/
def Token.Unclosed.recase (change : CaseChange) : Unclosed → Unclosed
  | .literal quote rest => .literal quote (rest.map change.letter)
  | .comment rest => .comment (rest.map change.letter)

namespace CaseChange

variable (change : CaseChange)

theorem skipGap_map (cs : List Char) :
    skipGap (cs.map change.letter) =
      ((skipGap cs).mapError (Unclosed.recase change)).map (List.map change.letter) := by
  have hslash : change.letter '/' = '/' := change.letter_of_isAlpha_eq_false (by decide)
  have hstar : change.letter '*' = '*' := change.letter_of_isAlpha_eq_false (by decide)
  have hdash : change.letter '-' = '-' := change.letter_of_isAlpha_eq_false (by decide)
  fun_induction skipGap cs with
  | case1 =>
    rw [List.map_nil, skipGap.eq_1]
    rfl
  | case2 body rest hbody ih =>
    have hclosed : afterComment? (body.map change.letter) = some (rest.map change.letter) := by
      rw [afterComment?_map, hbody]
      rfl
    rw [List.map_cons, List.map_cons, hslash, hstar, skipGap_block hclosed, ih]
  | case3 body hbody =>
    have hopen : afterComment? (body.map change.letter) = none := by
      rw [afterComment?_map, hbody]
      rfl
    rw [List.map_cons, List.map_cons, hslash, hstar, skipGap_unclosed hopen]
    show _ = Except.error (Unclosed.comment (List.map change.letter ('/' :: '*' :: body)))
    rw [List.map_cons, List.map_cons, hslash, hstar]
  | case4 body ih =>
    have hline (c : Char) : decide (change.letter c ≠ '\n') = decide (c ≠ '\n') := by
      simp only [ne_eq, change.letter_eq_iff (show '\n'.isAlpha = false from rfl)]
    rw [List.map_cons, List.map_cons, hdash, skipGap.eq_3, change.dropWhile_map hline, ih]
  | case5 c rest hblock hline hspace ih =>
    rw [List.map_cons, skipGap_space ((change.isWhiteSpace_letter c).trans hspace), ih]
  | case6 c rest hblock hline hspace =>
    rw [List.map_cons, skipGap.eq_4, if_neg]
    · rfl
    · rw [change.isWhiteSpace_letter]
      exact hspace
    · intro body hc hrest
      obtain ⟨rfl, body, rfl⟩ := change.map_eq_cons_cons (by decide) (by decide) hc hrest
      exact hblock body rfl rfl
    · intro body hc hrest
      obtain ⟨rfl, body, rfl⟩ := change.map_eq_cons_cons (by decide) (by decide) hc hrest
      exact hline body rfl rfl

theorem skipGap_map_eq_cons {c : Char} {cs rest : List Char} (h : skipGap cs = .ok (c :: rest)) :
    skipGap (cs.map change.letter) = .ok (change.letter c :: rest.map change.letter) := by
  rw [change.skipGap_map, h]
  rfl

/-- What stands in another case between two quotes is read in that case. -/
theorem literalBody?_map {quote : Char} (hquote : isQuote quote = true) (cs : List Char) :
    literalBody? quote (cs.map change.letter) =
      (literalBody? quote cs).map (Prod.map (List.map change.letter) (List.map change.letter)) := by
  have hfixed := change.letter_of_isQuote hquote
  have hbackslash : change.letter '\\' = '\\' := change.letter_of_isAlpha_eq_false (by decide)
  have hquote_iff (c : Char) : change.letter c = quote ↔ c = quote :=
    change.letter_eq_iff (isAlpha_of_isQuote hquote) c
  have hquote_ne := ne_backslash_of_isQuote hquote
  fun_induction literalBody? quote cs with
  | case1 => rfl
  | case2 rest =>
    rw [List.map_cons, hfixed, literalBody?_close]
    rfl
  | case3 c hc =>
    have hplain : change.letter c ≠ quote := mt (hquote_iff c).mp hc
    rw [List.map_singleton, literalBody?_plain hplain (by simp)]
    rfl
  | case4 c d rest hc hescape ih =>
    obtain ⟨rfl, rfl⟩ := hescape
    rw [List.map_cons, List.map_cons, hbackslash, hfixed, literalBody?_escaped hquote_ne, ih,
      Option.map_map, Option.map_map]
    congr 1
    funext found
    simp [Prod.map, hfixed]
  | case5 c hc d rest hescape ih =>
    have hplain : change.letter c ≠ quote := mt (hquote_iff c).mp hc
    have hnext : change.letter c = '\\' → ¬ [quote] <+: (d :: rest).map change.letter := by
      intro hletter hbegins
      rw [List.map_cons, List.cons_prefix_cons] at hbegins
      have hd := (hquote_iff d).mp hbegins.1.symm
      exact hescape ⟨(change.letter_eq_iff (by decide) c).mp hletter, hd⟩
    rw [List.map_cons, literalBody?_plain hplain hnext, ih, Option.map_map, Option.map_map]
    rfl

/-- A change of case as a respelling: literals change as words do. -/
def toRespelling : Respelling :=
  { change with contents := change.text }

theorem upper_text (word : String) : Text.upper (change.text word) = Text.upper word := by
  rw [Text.upper, toList_text, List.map_map, Text.upper]
  congr 1
  refine List.map_congr_left fun c _ => ?_
  show (change.letter c).toUpper = c.toUpper
  rw [← Char.toUpper_toLower_eq_toUpper, change.toLower_letter, Char.toUpper_toLower_eq_toUpper]

/-- A keyword is in upper case whatever the text, another word is as written. -/
theorem ofWord_text (word : String) :
    ofWord (change.text word) = (ofWord word).respell change.toRespelling := by
  unfold ofWord
  rw [change.upper_text]
  by_cases hkeyword : Text.upper word ∈ keywords
  · rw [if_pos hkeyword, if_pos hkeyword]
    rfl
  · rw [if_neg hkeyword, if_neg hkeyword]
    rfl

theorem map_letter_of_isDigit {digits : List Char} (h : ∀ c ∈ digits, c.isDigit = true) :
    digits.map change.letter = digits :=
  (List.map_congr_left fun c hc => change.letter_of_isDigit (h c hc)).trans (List.map_id digits)

theorem text_ofList (cs : List Char) :
    change.text (String.ofList cs) = String.ofList (cs.map change.letter) := by
  rw [text, String.toList_ofList]

theorem lexeme_map (c : Char) (rest : List Char) :
    lexeme (change.letter c) (rest.map change.letter) =
      ((lexeme c rest).mapError (Unclosed.recase change)).map
        (Prod.map (Token.respell change.toRespelling) (List.map change.letter)) := by
  unfold lexeme
  by_cases hquote : isQuote c = true
  · rw [change.letter_of_isQuote hquote, if_pos hquote, if_pos hquote,
      change.literalBody?_map hquote]
    cases literalBody? c rest with
    | none =>
      show _ = Except.error (Unclosed.literal c (List.map change.letter (c :: rest)))
      rw [List.map_cons, change.letter_of_isQuote hquote]
      rfl
    | some found =>
      show Except.ok (_, _) = Except.ok (Token.mk .literal (change.text (String.ofList found.1)), _)
      rw [change.text_ofList]
  rw [change.isQuote_letter, if_neg hquote, if_neg hquote]
  by_cases hmark : c ∈ marks
  · rw [change.letter_of_mem_marks hmark, if_pos hmark, if_pos hmark]
    rfl
  rw [if_neg hmark, if_neg (mt (change.mem_marks_letter c).mp hmark), change.isDigit_letter]
  by_cases hdigit : c.isDigit = true
  · rw [if_pos hdigit, if_pos hdigit, change.letter_of_isDigit hdigit,
      change.takeWhile_map change.isDigit_letter, change.dropWhile_map change.isDigit_letter,
      change.map_letter_of_isDigit all_takeWhile]
    rfl
  rw [if_neg hdigit, if_neg hdigit, change.isWordChar_letter]
  by_cases hword : isWordChar c = true
  · rw [if_pos hword, if_pos hword, change.takeWhile_map change.isWordChar_letter,
      change.dropWhile_map change.isWordChar_letter, ← List.map_cons, ← change.text_ofList,
      change.ofWord_text]
    rfl
  · rw [if_neg hword, if_neg hword, change.letter_of_isWordChar_eq_false (by simpa using hword)]
    rfl

/-- The tokens of a text in another case are the tokens of the text, respelled.
A construct that is never closed stays open. -/
theorem scan_map (cs : List Char) :
    scan (cs.map change.letter) =
      ((scan cs).mapError (Unclosed.recase change)).map
        (List.map (Token.respell change.toRespelling)) := by
  fun_induction scan cs with
  | case1 cs unclosed hgap =>
    rw [scan_eq, change.skipGap_map, hgap]
    rfl
  | case2 cs hgap =>
    rw [scan_eq, change.skipGap_map, hgap]
    rfl
  | case3 cs c rest hgap unclosed hlexeme =>
    rw [scan_eq, change.skipGap_map_eq_cons hgap]
    dsimp only
    rw [change.lexeme_map, hlexeme]
    rfl
  | case4 cs c rest hgap token after hlexeme ih =>
    have hlexeme' : lexeme (change.letter c) (rest.map change.letter) =
        .ok (token.respell change.toRespelling, after.map change.letter) := by
      rw [change.lexeme_map, hlexeme]
      rfl
    rw [scan_eq, change.skipGap_map_eq_cons hgap]
    dsimp only
    rw [hlexeme']
    dsimp only
    rw [ih]
    cases scan after <;> rfl

theorem byteLength_map (cs : List Char) :
    Text.byteLength (cs.map change.letter) = Text.byteLength cs := by
  induction cs with
  | nil => rfl
  | cons c cs ih => rw [List.map_cons, Text.byteLength_cons, Text.byteLength_cons, ih,
      change.utf8Size_letter]

theorem toError_recase (cs : List Char) (unclosed : Unclosed) :
    (unclosed.recase change).toError (cs.map change.letter) = unclosed.toError cs := by
  cases unclosed with
  | literal quote rest => simp only [Unclosed.recase, Unclosed.toError, change.byteLength_map]
  | comment rest => simp only [Unclosed.recase, Unclosed.toError, change.byteLength_map]

theorem tokenize_text (sql : String) :
    tokenize (change.text sql) =
      (tokenize sql).map (List.map (Token.respell change.toRespelling)) := by
  unfold tokenize
  rw [toList_text, change.scan_map]
  cases scan sql.toList with
  | error unclosed => exact congrArg Except.error (change.toError_recase sql.toList unclosed)
  | ok tokens => rfl

end CaseChange

/-! ## Statements -/

/-- A text in another case is the same statement, respelled, or fails for a
cause of the same kind. -/
theorem CaseChange.ofSql_text (change : CaseChange) (sql : String) :
    (∃ statement, Statement.ofSql sql = .ok statement ∧
      Statement.ofSql (change.text sql) = .ok (statement.respell change.toRespelling)) ∨
    ∃ cause cause', Statement.ofSql sql = .error cause ∧
      Statement.ofSql (change.text sql) = .error cause' ∧
      ((∃ fault, cause = .lexical fault ∧ cause' = .lexical fault) ∨ cause.Alike cause') := by
  have htext := change.tokenize_text sql
  cases hsql : tokenize sql with
  | error fault =>
    rw [hsql] at htext
    exact .inr ⟨_, _, Statement.ofSql_of_lexError hsql, Statement.ofSql_of_lexError htext,
      .inl ⟨fault, rfl, rfl⟩⟩
  | ok tokens =>
    rw [hsql] at htext
    rw [Statement.ofSql_of_tokenize hsql, Statement.ofSql_of_tokenize htext]
    rcases Statement.ofTokens_respell change.toRespelling tokens with
      hok | ⟨cause, cause', hcause, hcause', halike⟩
    · exact .inl hok
    · exact .inr ⟨cause, cause', hcause, hcause', .inr halike⟩

/-- All letters in upper case. -/
def CaseChange.upper : CaseChange :=
  ⟨Char.toUpper, Char.toLower_toUpper_eq_toLower⟩

/-- Every word and literal in upper case. -/
def Respelling.upper : Respelling :=
  CaseChange.upper.toRespelling

/-- A token of a text has one spelling in upper case, be it a word or not. -/
theorem Token.WellShaped.respell_upper {token : Token} (h : token.WellShaped) :
    token.respell .upper = ⟨token.kind, Text.upper token.value⟩ := by
  have hsymbol {c : Char} (hletter : CaseChange.upper.letter c = c) :
      Text.upper (String.singleton c) = String.singleton c := by
    rw [Text.upper, String.toList_singleton, List.map_singleton]
    exact congrArg String.singleton hletter
  cases h with
  | keyword hkeyword =>
    obtain ⟨-, hupper⟩ := isWordRun_of_mem_keywords hkeyword (notAt_nil _)
    exact congrArg (Token.mk .keyword) hupper.symm
  | identifier => rfl
  | literal => rfl
  | @number text hdigits =>
    have hupper : Text.upper text = text := by
      rw [Text.upper]
      show String.ofList (text.toList.map CaseChange.upper.letter) = text
      rw [CaseChange.upper.map_letter_of_isDigit hdigits.chars, String.ofList_toList]
    exact congrArg (Token.mk .number) hupper.symm
  | mark hmark =>
    exact congrArg (Token.mk .symbol) (hsymbol (CaseChange.upper.letter_of_mem_marks hmark)).symm
  | other _ _ hword =>
    exact congrArg (Token.mk .symbol)
      (hsymbol (CaseChange.upper.letter_of_isWordChar_eq_false hword)).symm

theorem Token.tokenize_upper (sql : String) :
    tokenize (Text.upper sql) =
      (tokenize sql).map (List.map fun token => ⟨token.kind, Text.upper token.value⟩) := by
  refine (CaseChange.upper.tokenize_text sql).trans ?_
  cases hsql : tokenize sql with
  | error fault => rfl
  | ok tokens =>
    have hshaped := wellShaped_of_tokenize hsql
    exact congrArg Except.ok
      (List.map_congr_left fun token htoken => (hshaped token htoken).respell_upper)

/-- The case of ASCII letters changes no token but in the case of its value, and
no statement but in the case of its names, words and strings.  A text that is no
statement is none in upper case either, for a cause of the same kind. -/
theorem ofSql_upper (sql : String) :
    tokenize (Text.upper sql) =
      (tokenize sql).map (List.map fun token => ⟨token.kind, Text.upper token.value⟩) ∧
    ((∃ statement, Statement.ofSql sql = .ok statement ∧
        Statement.ofSql (Text.upper sql) = .ok (statement.respell .upper)) ∨
      ∃ cause cause', Statement.ofSql sql = .error cause ∧
        Statement.ofSql (Text.upper sql) = .error cause' ∧
        ((∃ fault, cause = .lexical fault ∧ cause' = .lexical fault) ∨ cause.Alike cause')) :=
  ⟨tokenize_upper sql, CaseChange.upper.ofSql_text sql⟩

end CqlCompiler
