import CqlCompiler.Proofs.Characters
import CqlCompiler.Proofs.Parsing

/-!
# How a text is cut into tokens

`CutsInto text tokens` says that the text is a row of lexemes, one per token,
with a gap before each of them and one at the end.  Nothing of the text is left
out and nothing is used twice.  The relation is declarative: it does not say in
which order kinds of lexemes are tried.  What makes the cut unique is that gaps
and lexemes may look at the text after them: a number is not cut before a
digit, a word not before a word character, and a line comment not before the
end of its line.

There are three groups.

* Gaps.  `skipGap_eq_ok_iff` says that a gap is skipped to its very end.
* Lexemes.  `literalBody?_eq_some_iff` says where a literal ends,
  `spellsToken_of_lexeme` and `SpellsToken.lexeme_eq` which token a lexeme
  stands for.
* Whole texts.  `tokenize_eq_ok_iff_cutsInto` puts the two together.
-/

namespace CqlCompiler.Token

open CqlCompiler.Parser CqlCompiler.Text

/-! ## Gaps and lexemes as relations -/

/-- White space and comments, which end where the text `after` begins.  A line
comment goes up to its newline, which is white space again, or to the end of
the text. -/
inductive IsGap : List Char → List Char → Prop where
  | nil (after : List Char) : IsGap [] after
  | space {c : Char} {gap after : List Char} (hspace : isWhiteSpace c = true)
      (hgap : IsGap gap after) : IsGap (c :: gap) after
  | block {body gap after : List Char} (hbody : ¬ ['*', '/'] <:+: body)
      (hgap : IsGap gap after) : IsGap ('/' :: '*' :: (body ++ '*' :: '/' :: gap)) after
  | line {body gap after : List Char} (hbody : '\n' ∉ body)
      (hends : gap ++ after = [] ∨ ['\n'] <+: gap ++ after)
      (hgap : IsGap gap after) : IsGap ('-' :: '-' :: (body ++ gap)) after

/-- The characters between two quotes, and the text that they stand for.  A
backslash before the quote is not itself part of the text, so a backslash that
is cannot stand before the closing quote. -/
inductive SpellsBody (quote : Char) : List Char → List Char → Prop where
  | nil : SpellsBody quote [] []
  | escaped {written body : List Char} (hbody : SpellsBody quote written body) :
      SpellsBody quote ('\\' :: quote :: written) (quote :: body)
  | plain {c : Char} {written body : List Char} (hc : c ≠ quote)
      (hbackslash : c = '\\' → ¬ [quote] <+: written ++ [quote])
      (hbody : SpellsBody quote written body) :
      SpellsBody quote (c :: written) (c :: body)

/-- Characters of one class, of which no more follow. -/
structure IsRun (p : Char → Bool) (run after : List Char) : Prop where
  ne_nil : run ≠ []
  all : ∀ c ∈ run, p c = true
  ends : NotAt p after

/-- A run of word characters that neither a dot nor a digit begins. -/
structure IsWordRun (run after : List Char) : Prop extends IsRun isWordChar run after where
  begins : NotAt (fun c => c == '.' || c.isDigit) run

/-- A lexeme, the text after it, and the token that the lexeme stands for. -/
inductive SpellsToken : List Char → List Char → Token → Prop where
  | mark {c : Char} (after : List Char) (hmark : c ∈ ['(', ')', '?', ',', ';', '=', '.']) :
      SpellsToken [c] after ⟨.symbol, String.singleton c⟩
  | number {digits after : List Char} (hdigits : IsRun Char.isDigit digits after) :
      SpellsToken digits after ⟨.number, String.ofList digits⟩
  | keyword {word after : List Char} (hword : IsWordRun word after)
      (hkeyword : String.ofList (word.map Char.toUpper) ∈ keywords) :
      SpellsToken word after ⟨.keyword, String.ofList (word.map Char.toUpper)⟩
  | identifier {word after : List Char} (hword : IsWordRun word after)
      (hkeyword : String.ofList (word.map Char.toUpper) ∉ keywords) :
      SpellsToken word after ⟨.identifier, String.ofList word⟩
  | literal {quote : Char} {written body : List Char} (after : List Char)
      (hquote : quote = '\'' ∨ quote = '"') (hbody : SpellsBody quote written body) :
      SpellsToken (quote :: (written ++ [quote])) after ⟨.literal, String.ofList body⟩
  | other {c : Char} {after : List Char} (hspace : isWhiteSpace c = false)
      (hquote : c ≠ '\'' ∧ c ≠ '"') (hmark : c ∉ ['(', ')', '?', ',', ';', '=', '.'])
      (hword : isWordChar c = false)
      (hblock : ¬ ['/', '*'] <+: c :: after) (hline : ¬ ['-', '-'] <+: c :: after) :
      SpellsToken [c] after ⟨.symbol, String.singleton c⟩

/-- A text and its tokens: a gap and a lexeme for each of them, and a gap at
the end. -/
inductive CutsInto : List Char → List Token → Prop where
  | nil {gap : List Char} (hgap : IsGap gap []) : CutsInto gap []
  | cons {gap lexeme text : List Char} {token : Token} {tokens : List Token}
      (hgap : IsGap gap (lexeme ++ text)) (hlexeme : SpellsToken lexeme text token)
      (htext : CutsInto text tokens) :
      CutsInto (gap ++ (lexeme ++ text)) (token :: tokens)

/-! ## Skipping a gap -/

theorem afterComment?_append {body rest : List Char} (hbody : ¬ ['*', '/'] <:+: body) :
    afterComment? (body ++ '*' :: '/' :: rest) = some rest := by
  induction body with
  | nil => rfl
  | cons c body ih =>
    have htail : ¬ ['*', '/'] <:+: body := by
      intro hwithin
      exact hbody (hwithin.trans (List.suffix_cons c body).isInfix)
    -- the closing mark cannot straddle the end of the body: a body ends before a star
    have hearly : ∀ tail, c = '*' → body ++ '*' :: '/' :: rest = '/' :: tail → False := by
      intro tail hc htext
      cases body with
      | nil => simp at htext
      | cons d body =>
        obtain ⟨rfl, -⟩ := List.cons.inj htext
        subst hc
        exact hbody ⟨[], body, rfl⟩
    rw [List.cons_append, afterComment?.eq_3 _ _ hearly]
    exact ih htail

theorem exists_body_of_afterComment? {cs rest : List Char} (h : afterComment? cs = some rest) :
    ∃ body, cs = body ++ '*' :: '/' :: rest ∧ ¬ ['*', '/'] <:+: body := by
  fun_induction afterComment? cs with
  | case1 => simp at h
  | case2 tail =>
    obtain rfl := Option.some.inj h
    exact ⟨[], rfl, by simp⟩
  | case3 c tail hearly ih =>
    obtain ⟨body, rfl, hbody⟩ := ih h
    refine ⟨c :: body, rfl, ?_⟩
    intro hwithin
    rcases List.infix_cons_iff.mp hwithin with hbegins | hwithin
    · obtain ⟨hc, d, hd⟩ := List.cons_prefix_cons.mp hbegins
      exact hearly (d ++ '*' :: '/' :: rest) hc.symm (by rw [← hd]; rfl)
    · exact hbody hwithin

/-- A text at which no gap begins. -/
structure BeginsNoGap (text : List Char) : Prop where
  space : NotAt isWhiteSpace text
  block : ¬ ['/', '*'] <+: text
  line : ¬ ['-', '-'] <+: text

theorem skipGap_of_beginsNoGap {text : List Char} (h : BeginsNoGap text) :
    skipGap text = .ok text := by
  obtain ⟨hspace, hblock, hline⟩ := h
  fun_cases skipGap text with
  | case1 => rfl
  | case2 body => exact absurd ⟨body, rfl⟩ hblock
  | case3 body => exact absurd ⟨body, rfl⟩ hblock
  | case4 body => exact absurd ⟨body, rfl⟩ hline
  | case5 c rest _ _ hc => simp [hc] at hspace
  | case6 c rest => rfl

theorem notAt_dropWhile (p : Char → Bool) (text : List Char) : NotAt p (text.dropWhile p) := by
  intro c hc
  have hhead := List.head?_dropWhile_not p text
  rw [Option.mem_def.mp hc] at hhead
  exact hhead

theorem all_takeWhile {p : Char → Bool} {text : List Char} : ∀ c ∈ text.takeWhile p, p c = true :=
  List.all_eq_true.mp List.all_takeWhile

/-- Where a class ends is where its characters are dropped to. -/
theorem dropWhile_append_of_notAt {p : Char → Bool} {run after : List Char}
    (hrun : ∀ c ∈ run, p c = true) (hafter : NotAt p after) :
    (run ++ after).dropWhile p = after := by
  rw [List.dropWhile_append_of_pos hrun]
  cases after with
  | nil => rfl
  | cons c after => simp_all

theorem takeWhile_append_of_notAt {p : Char → Bool} {run after : List Char}
    (hrun : ∀ c ∈ run, p c = true) (hafter : NotAt p after) :
    (run ++ after).takeWhile p = run := by
  rw [List.takeWhile_append_of_pos hrun]
  cases after with
  | nil => simp
  | cons c after => simp_all

/-- A line ends at the end of the text or at a newline. -/
theorem notAt_ne_newline_iff {text : List Char} :
    NotAt (· ≠ '\n') text ↔ text = [] ∨ ['\n'] <+: text := by
  cases text with
  | nil => simp
  | cons c text =>
    rw [notAt_cons, List.cons_prefix_cons, eq_comm (a := '\n')]
    simp

theorem forall_ne_newline_iff {body : List Char} :
    (∀ c ∈ body, decide (c ≠ '\n') = true) ↔ '\n' ∉ body := by
  simp only [decide_eq_true_eq]
  exact ⟨fun h hmem => h _ hmem rfl, fun h c hc hnewline => h (hnewline ▸ hc)⟩

theorem skipGap_space {c : Char} {text : List Char} (hspace : isWhiteSpace c = true) :
    skipGap (c :: text) = skipGap text := by
  have hslash : c ≠ '/' := by rintro rfl; revert hspace; decide
  have hdash : c ≠ '-' := by rintro rfl; revert hspace; decide
  rw [skipGap.eq_4 c text (fun _ hc => absurd hc hslash) (fun _ hc => absurd hc hdash),
    if_pos hspace]

theorem skipGap_block {body text : List Char} (h : afterComment? body = some text) :
    skipGap ('/' :: '*' :: body) = skipGap text := by
  rw [skipGap.eq_2]
  split
  · rename_i text' htext
    rw [Option.some.inj (h.symm.trans htext)]
  · rename_i hnone
    rw [h] at hnone
    contradiction

theorem skipGap_unclosed {body : List Char} (h : afterComment? body = none) :
    skipGap ('/' :: '*' :: body) = .error (.comment ('/' :: '*' :: body)) := by
  rw [skipGap.eq_2]
  split
  · rename_i text htext
    rw [h] at htext
    contradiction
  · rfl

/-- What is left of a text after a gap is what is left of the text after the gap. -/
theorem IsGap.skipGap_eq {gap after : List Char} (hgap : IsGap gap after) :
    skipGap (gap ++ after) = skipGap after := by
  induction hgap with
  | nil => rfl
  | space hspace _ ih =>
    rw [List.cons_append, skipGap_space hspace]
    exact ih
  | @block body gap after hbody _ ih =>
    have hclosed : afterComment? (body ++ '*' :: '/' :: (gap ++ after)) = some (gap ++ after) :=
      afterComment?_append hbody
    rw [List.cons_append, List.cons_append, List.append_assoc]
    exact (skipGap_block hclosed).trans ih
  | @line body gap after hbody hends _ ih =>
    rw [List.cons_append, List.cons_append, List.append_assoc, skipGap.eq_3,
      dropWhile_append_of_notAt (forall_ne_newline_iff.mpr hbody)
        (notAt_ne_newline_iff.mpr hends)]
    exact ih

theorem skipGap_append {gap after : List Char} (hgap : IsGap gap after)
    (hafter : BeginsNoGap after) : skipGap (gap ++ after) = .ok after :=
  hgap.skipGap_eq.trans (skipGap_of_beginsNoGap hafter)

/-- Every text has a gap at its head that ends where no gap begins, or where a
block comment begins that is never closed. -/
theorem exists_gap (cs : List Char) :
    ∃ gap rest, cs = gap ++ rest ∧ IsGap gap rest ∧
      (BeginsNoGap rest ∨ ∃ body, rest = '/' :: '*' :: body ∧ afterComment? body = none) := by
  fun_induction skipGap cs with
  | case1 => exact ⟨[], [], rfl, .nil _, .inl ⟨by simp, by simp, by simp⟩⟩
  | case2 body text hclosed ih =>
    obtain ⟨gap, rest, rfl, hgap, hrest⟩ := ih
    obtain ⟨body, rfl, hbody⟩ := exists_body_of_afterComment? hclosed
    exact ⟨_, rest, by simp, .block hbody hgap, hrest⟩
  | case3 body hunclosed => exact ⟨[], _, rfl, .nil _, .inr ⟨body, rfl, hunclosed⟩⟩
  | case4 text ih =>
    obtain ⟨gap, rest, htext, hgap, hrest⟩ := ih
    have hends := notAt_ne_newline_iff.mp (notAt_dropWhile (· ≠ '\n') text)
    rw [htext] at hends
    refine ⟨'-' :: '-' :: (text.takeWhile (· ≠ '\n') ++ gap), rest, ?_,
      .line (forall_ne_newline_iff.mp all_takeWhile) hends hgap, hrest⟩
    rw [List.cons_append, List.cons_append, List.append_assoc, ← htext,
      List.takeWhile_append_dropWhile]
  | case5 c text _ _ hspace ih =>
    obtain ⟨gap, rest, rfl, hgap, hrest⟩ := ih
    exact ⟨c :: gap, rest, rfl, .space hspace hgap, hrest⟩
  | case6 c text hblock hline hspace =>
    refine ⟨[], _, rfl, .nil _, .inl ⟨by simpa using hspace, ?_, ?_⟩⟩
    · intro hopens
      obtain ⟨body, hbody⟩ := hopens
      obtain ⟨rfl, rfl⟩ := List.cons.inj hbody
      exact hblock body rfl rfl
    · intro hopens
      obtain ⟨body, hbody⟩ := hopens
      obtain ⟨rfl, rfl⟩ := List.cons.inj hbody
      exact hline body rfl rfl

theorem exists_gap_of_skipGap {cs rest : List Char} (h : skipGap cs = .ok rest) :
    BeginsNoGap rest ∧ ∃ gap, cs = gap ++ rest ∧ IsGap gap rest := by
  obtain ⟨gap, rest', rfl, hgap, hrest | ⟨body, rfl, hunclosed⟩⟩ := exists_gap cs
  · rw [skipGap_append hgap hrest] at h
    obtain rfl := Except.ok.inj h
    exact ⟨hrest, gap, rfl, hgap⟩
  · rw [hgap.skipGap_eq, skipGap_unclosed hunclosed] at h
    cases h

/-- A gap is skipped as far as it goes, and no further. -/
theorem skipGap_eq_ok_iff {cs rest : List Char} :
    skipGap cs = .ok rest ↔ BeginsNoGap rest ∧ ∃ gap, cs = gap ++ rest ∧ IsGap gap rest := by
  constructor
  · exact exists_gap_of_skipGap
  · intro ⟨hrest, gap, hcs, hgap⟩
    rw [hcs]
    exact skipGap_append hgap hrest

/-! ## Reading a lexeme -/

theorem literalBody?_close (quote : Char) (after : List Char) :
    literalBody? quote (quote :: after) = some ([], after) := by
  rw [literalBody?.eq_def]
  simp

theorem literalBody?_escaped {quote : Char} (hquote : quote ≠ '\\') (text : List Char) :
    literalBody? quote ('\\' :: quote :: text) =
      (literalBody? quote text).map fun (body, after) => (quote :: body, after) := by
  rw [literalBody?.eq_def]
  simp [hquote.symm]

theorem literalBody?_plain {quote c : Char} {text : List Char} (hc : c ≠ quote)
    (hbackslash : c = '\\' → ¬ [quote] <+: text) :
    literalBody? quote (c :: text) =
      (literalBody? quote text).map fun (body, after) => (c :: body, after) := by
  rw [literalBody?.eq_def]
  cases text with
  | nil => simp [hc, literalBody?]
  | cons d text =>
    have hescape : ¬ (c = '\\' ∧ d = quote) := by
      intro ⟨hc, hd⟩
      exact hbackslash hc ⟨text, by rw [hd]; rfl⟩
    simp only [if_neg hc, if_neg hescape]

theorem literalBody?_append {quote : Char} {written body : List Char}
    (hbody : SpellsBody quote written body) (hquote : quote ≠ '\\') (after : List Char) :
    literalBody? quote (written ++ quote :: after) = some (body, after) := by
  induction hbody with
  | nil => exact literalBody?_close quote after
  | escaped _ ih =>
    rw [List.cons_append, List.cons_append, literalBody?_escaped hquote, ih]
    rfl
  | @plain c written body hc hbackslash _ ih =>
    have hbackslash' : c = '\\' → ¬ [quote] <+: written ++ quote :: after := by
      intro hc hbegins
      apply hbackslash hc
      cases written with
      | nil => exact List.prefix_rfl
      | cons d written => simpa [List.cons_prefix_cons] using hbegins
    rw [List.cons_append, literalBody?_plain hc hbackslash', ih]
    rfl

theorem exists_written_of_literalBody? {quote : Char} {cs body after : List Char}
    (h : literalBody? quote cs = some (body, after)) :
    ∃ written, cs = written ++ quote :: after ∧ SpellsBody quote written body := by
  fun_induction literalBody? quote cs generalizing body with
  | case1 => simp at h
  | case2 rest =>
    obtain ⟨rfl, rfl⟩ := Prod.mk.inj (Option.some.inj h)
    exact ⟨[], rfl, .nil⟩
  | case3 => simp at h
  | case4 c d rest _ hescape ih =>
    obtain ⟨rfl, rfl⟩ := hescape
    obtain ⟨⟨body', after'⟩, hrest, heq⟩ := Option.map_eq_some_iff.mp h
    obtain ⟨rfl, rfl⟩ := Prod.mk.inj heq
    obtain ⟨written, rfl, hbody⟩ := ih hrest
    exact ⟨_, rfl, .escaped hbody⟩
  | case5 c hc d rest hescape ih =>
    obtain ⟨⟨body', after'⟩, hrest, heq⟩ := Option.map_eq_some_iff.mp h
    obtain ⟨rfl, rfl⟩ := Prod.mk.inj heq
    obtain ⟨written, hwritten, hbody⟩ := ih hrest
    refine ⟨c :: written, by rw [hwritten]; rfl, .plain hc ?_ hbody⟩
    intro hbackslash hbegins
    apply hescape
    refine ⟨hbackslash, ?_⟩
    cases written with
    | nil => exact (List.cons.inj hwritten).1
    | cons e written =>
      rw [(List.cons.inj hwritten).1]
      exact (List.cons_prefix_cons.mp hbegins).1.symm

/-- A literal is read up to the first quote that no backslash stands before. -/
theorem literalBody?_eq_some_iff {quote : Char} (hquote : quote ≠ '\\')
    {cs body after : List Char} :
    literalBody? quote cs = some (body, after) ↔
      ∃ written, cs = written ++ quote :: after ∧ SpellsBody quote written body := by
  constructor
  · exact exists_written_of_literalBody?
  · intro ⟨written, hcs, hbody⟩
    rw [hcs]
    exact literalBody?_append hbody hquote after

theorem isRun_takeWhile {p : Char → Bool} {c : Char} (hc : p c = true) (rest : List Char) :
    IsRun p (c :: rest.takeWhile p) (rest.dropWhile p) := by
  refine ⟨by simp, ?_, notAt_dropWhile p rest⟩
  intro d hd
  rcases List.mem_cons.mp hd with rfl | hd
  · exact hc
  · exact all_takeWhile d hd

theorem spellsToken_ofWord {word after : List Char} (hword : IsWordRun word after) :
    SpellsToken word after (ofWord (String.ofList word)) := by
  rw [ofWord, Text.upper_ofList]
  split
  · exact .keyword hword ‹_›
  · exact .identifier hword ‹_›

theorem spellsToken_of_lexeme {c : Char} {rest after : List Char} {token : Token}
    (hgap : BeginsNoGap (c :: rest)) (h : lexeme c rest = .ok (token, after)) :
    ∃ written, c :: rest = written ++ after ∧ SpellsToken written after token := by
  unfold lexeme at h
  by_cases hquote : isQuote c = true
  · rw [if_pos hquote] at h
    split at h
    · rename_i body after' hbody
      obtain ⟨rfl, rfl⟩ := Prod.mk.inj (Except.ok.inj h)
      obtain ⟨written, rfl, hwritten⟩ :=
        (literalBody?_eq_some_iff (ne_backslash_of_isQuote hquote)).mp hbody
      exact ⟨c :: (written ++ [c]), by simp, .literal _ (isQuote_iff.mp hquote) hwritten⟩
    · simp at h
  rw [if_neg hquote] at h
  by_cases hmark : c ∈ marks
  · rw [if_pos hmark] at h
    obtain ⟨rfl, rfl⟩ := Prod.mk.inj (Except.ok.inj h)
    exact ⟨[c], rfl, .mark _ hmark⟩
  rw [if_neg hmark] at h
  by_cases hdigit : c.isDigit = true
  · rw [if_pos hdigit] at h
    obtain ⟨rfl, rfl⟩ := Prod.mk.inj (Except.ok.inj h)
    exact ⟨_, by simp, .number (isRun_takeWhile hdigit rest)⟩
  rw [if_neg hdigit] at h
  by_cases hword : isWordChar c = true
  · rw [if_pos hword] at h
    obtain ⟨rfl, rfl⟩ := Prod.mk.inj (Except.ok.inj h)
    have hdot : c ≠ '.' := by rintro rfl; simp [marks] at hmark
    have hrun : IsWordRun (c :: rest.takeWhile isWordChar) (rest.dropWhile isWordChar) :=
      ⟨isRun_takeWhile hword rest, by simpa [hdot] using hdigit⟩
    exact ⟨c :: rest.takeWhile isWordChar, by simp, spellsToken_ofWord hrun⟩
  rw [if_neg hword] at h
  obtain ⟨rfl, rfl⟩ := Prod.mk.inj (Except.ok.inj h)
  obtain ⟨hspace, hblock, hline⟩ := hgap
  have hquotes : c ≠ '\'' ∧ c ≠ '"' := not_or.mp (mt isQuote_iff.mpr hquote)
  exact ⟨[c], rfl, .other (by simpa using hspace) hquotes hmark (by simpa using hword) hblock hline⟩

theorem beginsNoGap_cons {c : Char} {text : List Char} (hspace : isWhiteSpace c = false)
    (hslash : c ≠ '/') (hdash : c ≠ '-') : BeginsNoGap (c :: text) := by
  refine ⟨by simpa using hspace, ?_, ?_⟩
  · intro hbegins
    exact hslash (List.cons_prefix_cons.mp hbegins).1.symm
  · intro hbegins
    exact hdash (List.cons_prefix_cons.mp hbegins).1.symm

theorem beginsNoGap_of_isWordChar {c : Char} {text : List Char} (h : isWordChar c = true) :
    BeginsNoGap (c :: text) := by
  refine beginsNoGap_cons (isWhiteSpace_of_isWordChar h) ?_ ?_
  · intro h
    subst h
    revert h
    decide
  · intro h
    subst h
    revert h
    decide

/-- No lexeme begins where a gap could. -/
theorem SpellsToken.beginsNoGap {written after : List Char} {token : Token}
    (h : SpellsToken written after token) : BeginsNoGap (written ++ after) := by
  have hrun {p : Char → Bool} {run : List Char} (hp : ∀ c, p c = true → isWordChar c = true)
      (hrun : IsRun p run after) : BeginsNoGap (run ++ after) := by
    obtain ⟨c, run, rfl⟩ := List.exists_cons_of_ne_nil hrun.ne_nil
    exact beginsNoGap_of_isWordChar (hp c (hrun.all c (by simp)))
  cases h with
  | @mark c _ hmark =>
    obtain ⟨hspace, -, -, -, hslash, hdash⟩ := classes_of_mem_marks hmark
    exact beginsNoGap_cons hspace hslash hdash
  | number hdigits => exact hrun (fun _ => isWordChar_of_isDigit) hdigits
  | keyword hword => exact hrun (fun _ => id) hword.toIsRun
  | identifier hword => exact hrun (fun _ => id) hword.toIsRun
  | literal _ hquote =>
    rcases hquote with rfl | rfl
    · exact beginsNoGap_cons (by decide) (by decide) (by decide)
    · exact beginsNoGap_cons (by decide) (by decide) (by decide)
  | other hspace _ _ _ hblock hline => exact ⟨by simpa using hspace, hblock, hline⟩

theorem lexeme_literal {quote : Char} {written body : List Char}
    (hquote : quote = '\'' ∨ quote = '"') (hbody : SpellsBody quote written body)
    (after : List Char) :
    lexeme quote (written ++ quote :: after) = .ok (⟨.literal, String.ofList body⟩, after) := by
  have hisQuote := isQuote_iff.mpr hquote
  have hread : literalBody? quote (written ++ quote :: after) = some (body, after) :=
    (literalBody?_eq_some_iff (ne_backslash_of_isQuote hisQuote)).mpr ⟨written, rfl, hbody⟩
  unfold lexeme
  rw [if_pos hisQuote, hread]

theorem lexeme_mark {c : Char} (hmark : c ∈ marks) (after : List Char) :
    lexeme c after = .ok (⟨.symbol, String.singleton c⟩, after) := by
  obtain ⟨-, hquote, -⟩ := classes_of_mem_marks hmark
  unfold lexeme
  rw [if_neg (Bool.eq_false_iff.mp hquote), if_pos hmark]
  rfl

theorem lexeme_number {c : Char} {run after : List Char}
    (hrun : IsRun Char.isDigit (c :: run) after) :
    lexeme c (run ++ after) = .ok (⟨.number, String.ofList (c :: run)⟩, after) := by
  obtain ⟨hdigit, hdigits⟩ := List.forall_mem_cons.mp hrun.all
  have hword := isWordChar_of_isDigit hdigit
  have hquote : ¬ isQuote c = true := by
    intro hquote
    simp [isWordChar_of_isQuote hquote] at hword
  have hmark : c ∉ marks := by
    intro hmark
    obtain ⟨-, -, hnot, -⟩ := classes_of_mem_marks hmark
    simp [hnot] at hdigit
  unfold lexeme
  rw [if_neg hquote, if_neg hmark, if_pos hdigit, takeWhile_append_of_notAt hdigits hrun.ends,
    dropWhile_append_of_notAt hdigits hrun.ends]

theorem lexeme_word {c : Char} {run after : List Char} (hrun : IsWordRun (c :: run) after) :
    lexeme c (run ++ after) = .ok (ofWord (String.ofList (c :: run)), after) := by
  obtain ⟨hword, hwords⟩ := List.forall_mem_cons.mp hrun.all
  obtain ⟨hdot, hdigit⟩ : c ≠ '.' ∧ ¬ c.isDigit = true := by simpa using hrun.begins
  have hquote : ¬ isQuote c = true := by
    intro hquote
    simp [isWordChar_of_isQuote hquote] at hword
  have hmark : c ∉ marks := by
    intro hmark
    obtain ⟨-, -, -, hc | hc, -⟩ := classes_of_mem_marks hmark
    · exact hdot hc
    · simp [hc] at hword
  unfold lexeme
  rw [if_neg hquote, if_neg hmark, if_neg hdigit, if_pos hword,
    takeWhile_append_of_notAt hwords hrun.ends, dropWhile_append_of_notAt hwords hrun.ends]

theorem lexeme_other {c : Char} (hquote : c ≠ '\'' ∧ c ≠ '"') (hmark : c ∉ marks)
    (hword : isWordChar c = false) (after : List Char) :
    lexeme c after = .ok (⟨.symbol, String.singleton c⟩, after) := by
  have hquote' : ¬ isQuote c = true := mt isQuote_iff.mp (not_or.mpr hquote)
  have hdigit : ¬ c.isDigit = true := by
    intro hdigit
    simp [isWordChar_of_isDigit hdigit] at hword
  unfold lexeme
  rw [if_neg hquote', if_neg hmark, if_neg hdigit, if_neg (by simp [hword])]
  rfl

/-- The first character of a lexeme decides what is read, and all of the lexeme is. -/
theorem SpellsToken.lexeme_eq {written after : List Char} {token : Token}
    (h : SpellsToken written after token) :
    ∃ c rest, written ++ after = c :: rest ∧ lexeme c rest = .ok (token, after) := by
  cases h with
  | @mark c _ hmark => exact ⟨c, after, rfl, lexeme_mark hmark after⟩
  | number hdigits =>
    obtain ⟨c, run, rfl⟩ := List.exists_cons_of_ne_nil hdigits.ne_nil
    exact ⟨c, run ++ after, rfl, lexeme_number hdigits⟩
  | keyword hword hkeyword =>
    obtain ⟨c, run, rfl⟩ := List.exists_cons_of_ne_nil hword.ne_nil
    refine ⟨c, run ++ after, rfl, ?_⟩
    rw [lexeme_word hword, ofWord, Text.upper_ofList, if_pos hkeyword]
  | identifier hword hkeyword =>
    obtain ⟨c, run, rfl⟩ := List.exists_cons_of_ne_nil hword.ne_nil
    refine ⟨c, run ++ after, rfl, ?_⟩
    rw [lexeme_word hword, ofWord, Text.upper_ofList, if_neg hkeyword]
  | @literal quote written _ _ hquote hbody =>
    refine ⟨quote, written ++ quote :: after, by simp, lexeme_literal hquote hbody after⟩
  | @other c _ _ hquote hmark hword =>
    exact ⟨c, after, rfl, lexeme_other hquote hmark hword after⟩

/-! ## Whole texts -/

theorem cutsInto_of_scan {cs : List Char} {tokens : List Token} (h : scan cs = .ok tokens) :
    CutsInto cs tokens := by
  fun_induction scan cs generalizing tokens with
  | case1 => simp at h
  | case2 cs hskip =>
    obtain rfl := Except.ok.inj h
    obtain ⟨-, gap, rfl, hgap⟩ := skipGap_eq_ok_iff.mp hskip
    rw [List.append_nil]
    exact .nil hgap
  | case3 => simp at h
  | case4 cs c rest hskip token text hlexeme ih =>
    obtain ⟨hrest, gap, rfl, hgap⟩ := skipGap_eq_ok_iff.mp hskip
    obtain ⟨written, hwritten, htoken⟩ := spellsToken_of_lexeme hrest hlexeme
    cases hscan : scan text with
    | error unclosed => simp [hscan, Except.map] at h
    | ok tail =>
      rw [hscan] at h
      obtain rfl := Except.ok.inj h
      rw [hwritten] at hgap ⊢
      exact .cons hgap htoken (ih hscan)

/-- A gap has no tokens. -/
theorem IsGap.scan_append {gap after : List Char} (hgap : IsGap gap after) :
    scan (gap ++ after) = scan after := by
  rw [scan_eq, hgap.skipGap_eq, ← scan_eq]

/-- A gap and a lexeme have one token, and the text after them has the others. -/
theorem SpellsToken.scan_append {gap lexeme text : List Char} {token : Token}
    (htoken : SpellsToken lexeme text token) (hgap : IsGap gap (lexeme ++ text)) :
    scan (gap ++ (lexeme ++ text)) = (scan text).map (token :: ·) := by
  have hskip := skipGap_append hgap htoken.beginsNoGap
  obtain ⟨c, rest, hlexeme, hread⟩ := htoken.lexeme_eq
  rw [scan_eq, hskip, hlexeme]
  simp only [hread]

theorem scan_of_cutsInto {cs : List Char} {tokens : List Token} (h : CutsInto cs tokens) :
    scan cs = .ok tokens := by
  induction h with
  | @nil gap hgap =>
    have hscan : scan (gap ++ []) = scan [] := hgap.scan_append
    rw [List.append_nil] at hscan
    rw [hscan, scan_eq, skipGap]
  | cons hgap htoken _ ih =>
    rw [htoken.scan_append hgap, ih]
    rfl

theorem tokenize_eq_ok_iff_scan {sql : String} {tokens : List Token} :
    tokenize sql = .ok tokens ↔ scan sql.toList = .ok tokens := by
  unfold tokenize
  cases scan sql.toList with
  | error unclosed => exact iff_of_false nofun nofun
  | ok found =>
    change (Except.ok found : Except LexError _) = _ ↔ _
    rw [Except.ok.injEq, Except.ok.injEq]

/-- A text has the tokens that it can be cut into. -/
theorem tokenize_eq_ok_iff_cutsInto (sql : String) (tokens : List Token) :
    tokenize sql = .ok tokens ↔ CutsInto sql.toList tokens := by
  rw [tokenize_eq_ok_iff_scan]
  exact ⟨cutsInto_of_scan, scan_of_cutsInto⟩

example : (tokenize "select Name").toOption =
    some [⟨.keyword, "SELECT"⟩, ⟨.identifier, "Name"⟩] := by
  decide +kernel

end CqlCompiler.Token
