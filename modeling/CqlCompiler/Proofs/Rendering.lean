import CqlCompiler.Proofs.RoundTrip

/-!
# Tokens as text

A list of tokens is written as text with one token on each line: a literal
between quotes, every other token as its value.  Cutting that text gives the
tokens back if each of them has the shape of a token of a text, so this shape
says exactly which token lists texts have.

There are two groups.

* Single tokens.  `lexes_written` says that a written token is cut off whole
  before the end of its line.  The end of the line matters to words and numbers,
  which could go on, and to the signs `/` and `-`, which could open a comment.
* Lists.  `tokenize_rendered` puts the lines together, and
  `tokenize_image_iff_wellShaped` is the result.
-/

namespace CqlCompiler.Token

open CqlCompiler.Parser

/-- One of the two quotes that a literal may stand between. -/
inductive Quote where
  | single
  | double
  deriving DecidableEq, Repr

/-- The character of the quote. -/
def Quote.mark : Quote → Char
  | .single => '\''
  | .double => '"'

theorem Quote.mark_eq_or (quote : Quote) : quote.mark = '\'' ∨ quote.mark = '"' := by
  cases quote with
  | single => exact .inl rfl
  | double => exact .inr rfl

/-- The token as text, with the quotes for a literal. -/
def written (token : Token) (quote : Quote) : List Char :=
  if token.kind = .literal then
    quote.mark :: (escaped quote.mark token.value.toList ++ [quote.mark])
  else
    token.value.toList

/-- The tokens as text, one on each line. -/
def rendered (pieces : List (Token × Quote)) : String :=
  String.ofList (pieces.flatMap fun piece => piece.1.written piece.2 ++ ['\n'])

/-! ## Single tokens -/

/-- The end of a line follows. -/
abbrev LineEnds (rest : List Char) : Prop :=
  ['\n'] <+: rest

theorem notAt_of_lineEnds {p : Char → Bool} (hp : p '\n' = false) {rest : List Char}
    (h : LineEnds rest) : NotAt p rest := by
  obtain ⟨tail, rfl⟩ := h
  exact (notAt_cons ..).mpr hp

theorem wordEnds_of_lineEnds {rest : List Char} (h : LineEnds rest) : WordEnds rest :=
  notAt_of_lineEnds (by decide) h

/-- A newline does not complete the opening mark of a comment. -/
theorem not_opens_append_line {first second c : Char} {after rest : List Char}
    (h : ¬ [first, second] <+: c :: after) (hsecond : second ≠ '\n') (hrest : LineEnds rest) :
    ¬ [first, second] <+: c :: (after ++ rest) := by
  intro hopens
  obtain ⟨hfirst, hbegins⟩ := List.cons_prefix_cons.mp hopens
  cases after with
  | nil =>
    obtain ⟨tail, rfl⟩ := hrest
    exact hsecond (List.cons_prefix_cons.mp hbegins).1
  | cons d after =>
    have hd := (List.cons_prefix_cons.mp hbegins).1
    exact h ⟨after, by rw [hfirst, hd]; rfl⟩

theorem lexes_escaped {text : String} (h : IsQuotable text) (quote : Quote) :
    Lexes Anything (quote.mark :: (escaped quote.mark text.toList ++ [quote.mark]))
      [⟨.literal, text⟩] := by
  apply lexes_of_spellsToken
  intro rest _
  have hquote := quote.mark_eq_or
  have hbody := spellsBody_escaped (ne_backslash_of_isQuote (isQuote_iff.mpr hquote)) h
  have htoken := SpellsToken.literal rest hquote hbody
  rwa [String.ofList_toList] at htoken

/-- A sign of its own is no beginning of a comment at the end of a line. -/
theorem lexes_other {c : Char} (hspace : Text.isWhiteSpace c = false)
    (hquote : isQuote c = false) (hword : isWordChar c = false) :
    Lexes LineEnds [c] [⟨.symbol, String.singleton c⟩] := by
  apply lexes_of_spellsToken
  intro rest hrest
  by_cases hmark : c ∈ marks
  · exact .mark rest hmark
  have hquotes : c ≠ '\'' ∧ c ≠ '"' := not_or.mp (mt isQuote_iff.mpr (by simp [hquote]))
  have hopens {first second : Char} (hsecond : second ≠ '\n') :
      ¬ [first, second] <+: c :: rest := by
    have halone : ¬ [first, second] <+: [c] := by simp
    exact not_opens_append_line halone hsecond hrest
  exact .other hspace hquotes hmark hword (hopens (by decide)) (hopens (by decide))

theorem written_symbol (c : Char) (quote : Quote) :
    (⟨.symbol, String.singleton c⟩ : Token).written quote = [c] :=
  String.toList_singleton c

theorem lexes_written {token : Token} (h : token.WellShaped) (quote : Quote) :
    Lexes LineEnds (token.written quote) [token] := by
  cases h with
  | keyword hkeyword => exact (lexes_keyword hkeyword).mono fun _ => wordEnds_of_lineEnds
  | identifier hname => exact (lexes_name hname).mono fun _ => wordEnds_of_lineEnds
  | literal htext => exact (lexes_escaped htext quote).mono fun _ _ => trivial
  | number hdigits =>
    exact (lexes_number hdigits).mono fun _ hrest =>
      notAt_isDigit_of_wordEnds (wordEnds_of_lineEnds hrest)
  | mark hmark =>
    rw [written_symbol]
    exact (lexes_mark hmark).mono fun _ _ => trivial
  | other hspace hquote hword =>
    rw [written_symbol]
    exact lexes_other hspace hquote hword

/-! ## Lists -/

theorem lexes_rendered {pieces : List (Token × Quote)}
    (h : ∀ piece ∈ pieces, piece.1.WellShaped) :
    Lexes Anything (pieces.flatMap fun piece => piece.1.written piece.2 ++ ['\n'])
      (pieces.map Prod.fst) := by
  induction pieces with
  | nil => exact lexes_nil _
  | cons piece pieces ih =>
    obtain ⟨hpiece, hpieces⟩ := List.forall_mem_cons.mp h
    have hline := (lexes_written hpiece piece.2).append (lexes_space (c := '\n') (by decide))
      fun rest _ => List.prefix_append ['\n'] rest
    rw [List.flatMap_cons]
    exact hline.append (ih hpieces) fun _ _ => trivial

/-- Well-shaped tokens are what their text is cut into, whichever quotes their
literals get. -/
theorem tokenize_rendered {pieces : List (Token × Quote)}
    (h : ∀ piece ∈ pieces, piece.1.WellShaped) :
    tokenize (rendered pieces) = .ok (pieces.map Prod.fst) := by
  apply tokenize_of_lexes
  rw [rendered, String.toList_ofList]
  exact lexes_rendered h

/-- The token lists of texts. -/
theorem exists_tokenize_eq_iff {tokens : List Token} :
    (∃ sql, tokenize sql = .ok tokens) ↔ ∀ token ∈ tokens, token.WellShaped := by
  constructor
  · intro ⟨sql, hsql⟩
    exact wellShaped_of_tokenize hsql
  · intro h
    have hpieces : ∀ piece ∈ tokens.map (·, Quote.single), piece.1.WellShaped := by
      intro piece hpiece
      obtain ⟨token, htoken, rfl⟩ := List.mem_map.mp hpiece
      exact h token htoken
    refine ⟨_, (tokenize_rendered hpieces).trans ?_⟩
    rw [List.map_map]
    exact congrArg Except.ok (List.map_id tokens)

/-- The strings that a literal of some text denotes. -/
theorem exists_literal_iff {text : String} :
    (∃ sql tokens, tokenize sql = .ok tokens ∧ ⟨.literal, text⟩ ∈ tokens) ↔ IsQuotable text := by
  constructor
  · intro ⟨sql, tokens, hsql, hmem⟩
    cases wellShaped_of_tokenize hsql _ hmem with
    | literal htext => exact htext
  · intro htext
    have hshaped : ∀ token ∈ [(⟨.literal, text⟩ : Token)], token.WellShaped := by
      simpa using WellShaped.literal htext
    obtain ⟨sql, hsql⟩ := exists_tokenize_eq_iff.mpr hshaped
    exact ⟨sql, _, hsql, List.mem_singleton_self _⟩

/-- The token lists of texts are the lists of well-shaped tokens, and each of
them is what its own text is cut into, whichever quote each literal gets.  So
the strings that no literal denotes are those that end in a backslash. -/
theorem tokenize_image_iff_wellShaped :
    (∀ tokens : List Token,
      (∃ sql, tokenize sql = .ok tokens) ↔ ∀ token ∈ tokens, token.WellShaped) ∧
    (∀ pieces : List (Token × Quote), (∀ piece ∈ pieces, piece.1.WellShaped) →
      tokenize (rendered pieces) = .ok (pieces.map Prod.fst)) ∧
    ∀ text : String,
      (¬ ∃ sql tokens, tokenize sql = .ok tokens ∧ ⟨.literal, text⟩ ∈ tokens) ↔
        text.toList.getLast? = some '\\' := by
  refine ⟨fun _ => exists_tokenize_eq_iff, fun _ => tokenize_rendered, fun text => ?_⟩
  rw [exists_literal_iff, IsQuotable, ne_eq, Classical.not_not]

theorem tokenize_rendered_of_backslashes :
    rendered [(⟨.literal, "\\'\\\"x"⟩, .single), (⟨.literal, "\\'\\\"x"⟩, .double),
        (⟨.symbol, "-"⟩, .single), (⟨.symbol, "-"⟩, .single), (⟨.identifier, "*.é"⟩, .single)] =
      "'\\\\'\\\"x'\n\"\\'\\\\\"x\"\n-\n-\n*.é\n" ∧
    tokenize "'\\\\'\\\"x'\n\"\\'\\\\\"x\"\n-\n-\n*.é\n" =
      .ok [⟨.literal, "\\'\\\"x"⟩, ⟨.literal, "\\'\\\"x"⟩, ⟨.symbol, "-"⟩, ⟨.symbol, "-"⟩,
        ⟨.identifier, "*.é"⟩] := by
  have hliteral : WellShaped ⟨.literal, "\\'\\\"x"⟩ := .literal (by unfold IsQuotable; decide)
  have hdash : WellShaped ⟨.symbol, "-"⟩ :=
    .other (c := '-') (by decide) (by decide) (by decide)
  have hname : WellShaped ⟨.identifier, "*.é"⟩ := .identifier (by decide +kernel)
  have htext : rendered [(⟨.literal, "\\'\\\"x"⟩, .single), (⟨.literal, "\\'\\\"x"⟩, .double),
        (⟨.symbol, "-"⟩, .single), (⟨.symbol, "-"⟩, .single), (⟨.identifier, "*.é"⟩, .single)] =
      "'\\\\'\\\"x'\n\"\\'\\\\\"x\"\n-\n-\n*.é\n" := by
    decide +kernel
  refine ⟨htext, ?_⟩
  rw [← htext]
  apply tokenize_image_iff_wellShaped.2.1
  simp only [List.forall_mem_cons]
  exact ⟨hliteral, hliteral, hdash, hdash, hname, by simp⟩

end CqlCompiler.Token
