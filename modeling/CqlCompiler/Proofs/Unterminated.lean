import CqlCompiler.Proofs.Lexemes
import Mathlib.Control.Monad.Basic

/-!
# Texts that are left open

A text that is not cut into tokens ends within a literal or a block comment.
What stands before the opening mark of that construct is a text of its own with
its own tokens, and the error counts its bytes.

There are three groups.

* Shorter texts.  A gap or a lexeme that ends where a text begins also ends
  where any beginning of that text begins (`IsGap.of_append`,
  `SpellsToken.of_append`): to look at less can only remove an obstacle.
* Constructs.  `onlyEscaped_of_literalBody?` and `not_infix_of_afterComment?`
  say of the whole remaining text what the two scans find step by step.
* Whole texts.  `exists_cut_of_scan_eq_error` is about characters,
  `exists_unclosed_of_tokenize_eq_error` about bytes.
-/

namespace CqlCompiler.Token

open CqlCompiler.Parser

/-! ## Shorter texts -/

/-- A text that goes on with something else has the same beginning. -/
theorem notAt_of_append {p : Char → Bool} {text tail : List Char} (h : NotAt p (text ++ tail)) :
    NotAt p text := by
  cases text with
  | nil => exact notAt_nil p
  | cons c text => simpa using h

theorem IsGap.of_append {gap after tail : List Char} (h : IsGap gap (after ++ tail)) :
    IsGap gap after := by
  generalize htext : after ++ tail = text at h
  induction h with
  | nil => exact .nil after
  | space hspace _ ih => exact .space hspace (ih htext)
  | block hbody _ ih => exact .block hbody (ih htext)
  | @line body gap text hbody hends _ ih =>
    subst htext
    rw [← List.append_assoc] at hends
    have hends' := notAt_of_append (notAt_ne_newline_iff.mpr hends)
    exact .line hbody (notAt_ne_newline_iff.mp hends') (ih rfl)

/-- A gap is a gap at the end of a text too. -/
theorem IsGap.at_end {gap after : List Char} (h : IsGap gap after) : IsGap gap [] := by
  have hbefore : IsGap gap ([] ++ after) := h
  exact hbefore.of_append

theorem IsRun.of_append {p : Char → Bool} {run after tail : List Char}
    (h : IsRun p run (after ++ tail)) : IsRun p run after :=
  ⟨h.ne_nil, h.all, notAt_of_append h.ends⟩

theorem IsWordRun.of_append {run after tail : List Char} (h : IsWordRun run (after ++ tail)) :
    IsWordRun run after :=
  ⟨h.toIsRun.of_append, h.begins⟩

theorem SpellsToken.of_append {lexeme after tail : List Char} {token : Token}
    (h : SpellsToken lexeme (after ++ tail) token) : SpellsToken lexeme after token := by
  cases h with
  | mark _ hmark => exact .mark after hmark
  | number hdigits => exact .number hdigits.of_append
  | keyword hword hkeyword => exact .keyword hword.of_append hkeyword
  | identifier hword hkeyword => exact .identifier hword.of_append hkeyword
  | literal _ hquote hbody => exact .literal after hquote hbody
  | @other c _ hspace hquote hmark hword hblock hline =>
    have hopens {mark : List Char} (hmark : ¬ mark <+: c :: (after ++ tail)) :
        ¬ mark <+: c :: after :=
      fun hbegins => hmark (hbegins.trans (List.prefix_append (c :: after) tail))
    exact .other hspace hquote hmark hword (hopens hblock) (hopens hline)

/-! ## Constructs -/

/-- Each quote of the text has a backslash right before it in the text. -/
def OnlyEscaped (quote : Char) (text : List Char) : Prop :=
  ∀ before after, text = before ++ quote :: after → before.getLast? = some '\\'

theorem onlyEscaped_nil (quote : Char) : OnlyEscaped quote [] := by
  intro before after h
  simp at h

/-- A character in front that is no quote adds no quote. -/
theorem OnlyEscaped.cons {quote c : Char} {text : List Char} (hc : c ≠ quote)
    (h : OnlyEscaped quote text) : OnlyEscaped quote (c :: text) := by
  intro before after htext
  cases before with
  | nil => exact absurd (List.cons.inj htext).1 hc
  | cons d before =>
    have hlast := h before after (List.cons.inj htext).2
    simp [List.getLast?_cons, hlast]

theorem OnlyEscaped.escaped {quote : Char} {text : List Char} (hquote : quote ≠ '\\')
    (h : OnlyEscaped quote text) : OnlyEscaped quote ('\\' :: quote :: text) := by
  intro before after htext
  match before, htext with
  | [], htext => exact absurd (List.cons.inj htext).1.symm hquote
  | [c], htext =>
    obtain ⟨rfl, -⟩ := List.cons.inj htext
    rfl
  | c :: d :: before, htext =>
    have hlast := h before after (List.cons.inj (List.cons.inj htext).2).2
    simp [List.getLast?_cons, hlast]

theorem onlyEscaped_of_literalBody? {quote : Char} (hquote : quote ≠ '\\') {text : List Char}
    (h : literalBody? quote text = none) : OnlyEscaped quote text := by
  fun_induction literalBody? quote text with
  | case1 => exact onlyEscaped_nil quote
  | case2 => simp at h
  | case3 c hc => exact (onlyEscaped_nil quote).cons hc
  | case4 c _ d rest hescape ih =>
    obtain ⟨rfl, rfl⟩ := hescape
    exact (ih (Option.map_eq_none_iff.mp h)).escaped hquote
  | case5 c hc d rest _ ih => exact (ih (Option.map_eq_none_iff.mp h)).cons hc

theorem not_infix_of_afterComment? {text : List Char} (h : afterComment? text = none) :
    ¬ ['*', '/'] <:+: text := by
  fun_induction afterComment? text with
  | case1 => simp
  | case2 => simp at h
  | case3 c rest hearly ih =>
    intro hwithin
    rcases List.infix_cons_iff.mp hwithin with hbegins | hwithin
    · obtain ⟨hc, tail, htail⟩ := List.cons_prefix_cons.mp hbegins
      exact hearly tail hc.symm htail.symm
    · exact ih h hwithin

/-- The text from the opening mark of the construct on. -/
def Unclosed.text : Unclosed → List Char
  | .literal _ rest => rest
  | .comment rest => rest

/-- The text begins with the opening mark of the construct, and no closing mark
stands after it. -/
inductive Unclosed.StaysOpen : Unclosed → Prop where
  | literal {quote : Char} {body : List Char} (hquote : quote = '\'' ∨ quote = '"')
      (hbody : OnlyEscaped quote body) : StaysOpen (.literal quote (quote :: body))
  | comment {body : List Char} (hbody : ¬ ['*', '/'] <:+: body) :
      StaysOpen (.comment ('/' :: '*' :: body))

theorem exists_gap_of_skipGap_eq_error {cs : List Char} {unclosed : Unclosed}
    (h : skipGap cs = .error unclosed) :
    unclosed.StaysOpen ∧ ∃ gap, cs = gap ++ unclosed.text ∧ IsGap gap unclosed.text := by
  obtain ⟨gap, rest, rfl, hgap, hrest | ⟨body, rfl, hunclosed⟩⟩ := exists_gap cs
  · rw [skipGap_append hgap hrest] at h
    cases h
  · rw [hgap.skipGap_eq, skipGap_unclosed hunclosed] at h
    obtain rfl := Except.error.inj h
    exact ⟨.comment (not_infix_of_afterComment? hunclosed), gap, rfl, hgap⟩

/-- Only a literal is left open by a lexeme. -/
theorem staysOpen_of_lexeme_eq_error {c : Char} {rest : List Char} {unclosed : Unclosed}
    (h : lexeme c rest = .error unclosed) : unclosed.StaysOpen ∧ unclosed.text = c :: rest := by
  unfold lexeme at h
  by_cases hquote : isQuote c = true
  · rw [if_pos hquote] at h
    split at h
    · simp at h
    · rename_i hbody
      obtain rfl := Except.error.inj h
      have hescaped := onlyEscaped_of_literalBody? (ne_backslash_of_isQuote hquote) hbody
      exact ⟨.literal (isQuote_iff.mp hquote) hescaped, rfl⟩
  · rw [if_neg hquote] at h
    split_ifs at h

/-! ## Whole texts -/

/-- The text before the construct that is left open is cut into tokens by
itself. -/
theorem exists_cut_of_scan_eq_error {cs : List Char} {unclosed : Unclosed}
    (h : scan cs = .error unclosed) :
    unclosed.StaysOpen ∧
      ∃ before tokens, cs = before ++ unclosed.text ∧ CutsInto before tokens := by
  fun_induction scan cs with
  | case1 cs fault hskip =>
    obtain rfl := Except.error.inj h
    obtain ⟨hopen, gap, rfl, hgap⟩ := exists_gap_of_skipGap_eq_error hskip
    exact ⟨hopen, gap, [], rfl, .nil hgap.at_end⟩
  | case2 => simp at h
  | case3 cs c rest hskip fault hlexeme =>
    obtain rfl := Except.error.inj h
    obtain ⟨hopen, htext⟩ := staysOpen_of_lexeme_eq_error hlexeme
    obtain ⟨-, gap, rfl, hgap⟩ := skipGap_eq_ok_iff.mp hskip
    exact ⟨hopen, gap, [], by rw [htext], .nil hgap.at_end⟩
  | case4 cs c rest hskip token text hlexeme ih =>
    obtain ⟨hrest, gap, rfl, hgap⟩ := skipGap_eq_ok_iff.mp hskip
    obtain ⟨written, hwritten, htoken⟩ := spellsToken_of_lexeme hrest hlexeme
    cases hscan : scan text with
    | ok tail => simp [hscan, Except.map] at h
    | error fault =>
      rw [hscan] at h
      obtain rfl := Except.error.inj h
      obtain ⟨hopen, before, tokens, rfl, hcut⟩ := ih hscan
      rw [hwritten, ← List.append_assoc] at hgap
      refine ⟨hopen, gap ++ (written ++ before), token :: tokens, ?_,
        .cons hgap.of_append htoken.of_append hcut⟩
      rw [hwritten]
      simp

/-- The error for a construct whose opening mark has so many bytes before it. -/
def Unclosed.errorAt (position : Nat) : Unclosed → LexError
  | .literal quote _ => .unterminatedString quote position
  | .comment _ => .unterminatedComment position

theorem Unclosed.toError_append (unclosed : Unclosed) (before : List Char) :
    unclosed.toError (before ++ unclosed.text) = unclosed.errorAt (Text.byteLength before) := by
  cases unclosed <;> simp [toError, errorAt, text, Text.byteLength_append]

theorem tokenize_eq_error_iff_scan {sql : String} {fault : LexError} :
    tokenize sql = .error fault ↔
      ∃ unclosed, scan sql.toList = .error unclosed ∧ fault = unclosed.toError sql.toList := by
  unfold tokenize
  cases scan sql.toList with
  | ok tokens => exact iff_of_false nofun nofun
  | error unclosed =>
    change (Except.error (unclosed.toError sql.toList) : Except LexError _) = _ ↔ _
    simp [eq_comm]

/-- A text that is not cut into tokens has a literal or a block comment that is
never closed, and the error names it and the bytes before it.  These bytes are
a text with tokens. -/
theorem exists_unclosed_of_tokenize_eq_error {sql : String} {fault : LexError}
    (h : tokenize sql = .error fault) :
    ∃ before after, sql = before ++ after ∧ before.utf8ByteSize < sql.utf8ByteSize ∧
      (∃ tokens, tokenize before = .ok tokens) ∧
      ((∃ quote body, fault = .unterminatedString quote before.utf8ByteSize ∧
          (quote = '\'' ∨ quote = '"') ∧ after.toList = quote :: body ∧ OnlyEscaped quote body) ∨
        ∃ body, fault = .unterminatedComment before.utf8ByteSize ∧
          after.toList = '/' :: '*' :: body ∧ ¬ ['*', '/'] <:+: body) := by
  obtain ⟨unclosed, hscan, rfl⟩ := tokenize_eq_error_iff_scan.mp h
  obtain ⟨hopen, before, tokens, hsql, hcut⟩ := exists_cut_of_scan_eq_error hscan
  have hbytes : Text.byteLength before = (String.ofList before).utf8ByteSize :=
    Text.byteLength_eq_utf8ByteSize before
  have hfault : unclosed.toError sql.toList =
      unclosed.errorAt (String.ofList before).utf8ByteSize := by
    rw [hsql, Unclosed.toError_append, hbytes]
  have hsplit : sql = String.ofList before ++ String.ofList unclosed.text := by
    apply String.toList_injective
    simp [hsql]
  have htokens : tokenize (String.ofList before) = .ok tokens := by
    rw [tokenize_eq_ok_iff_scan, String.toList_ofList]
    exact scan_of_cutsInto hcut
  have hnonempty : 0 < (String.ofList unclosed.text).utf8ByteSize := by
    rw [← Text.byteLength_eq_utf8ByteSize]
    cases hopen <;> exact Nat.add_pos_left (Char.utf8Size_pos _) _
  refine ⟨String.ofList before, String.ofList unclosed.text, hsplit, ?_, ⟨tokens, htokens⟩, ?_⟩
  · conv => rhs; rw [hsplit, String.utf8ByteSize_append]
    omega
  · rw [hfault, String.toList_ofList]
    cases hopen with
    | @literal quote body hquote hbody => exact .inl ⟨quote, body, rfl, hquote, rfl, hbody⟩
    | @comment body hbody => exact .inr ⟨body, rfl, rfl, hbody⟩

theorem exists_unclosed_of_tokenize_eq_error_of_marks_in_gaps :
    (tokenize "é /* ' */ 'a\\'" = .error (.unterminatedString '\'' 11) ∧
      ∃ before after, "é /* ' */ 'a\\'" = before ++ after ∧ before.utf8ByteSize = 11 ∧
        (∃ tokens, tokenize before = .ok tokens) ∧
        ∃ body, after.toList = '\'' :: body ∧ OnlyEscaped '\'' body) ∧
    (tokenize "é--/*\n/*/" = .error (.unterminatedComment 7) ∧
      ∃ before after, "é--/*\n/*/" = before ++ after ∧ before.utf8ByteSize = 7 ∧
        (∃ tokens, tokenize before = .ok tokens) ∧
        ∃ body, after.toList = '/' :: '*' :: body ∧ ¬ ['*', '/'] <:+: body) := by
  have hliteral : tokenize "é /* ' */ 'a\\'" = .error (.unterminatedString '\'' 11) := by
    decide +kernel
  have hcomment : tokenize "é--/*\n/*/" = .error (.unterminatedComment 7) := by
    decide +kernel
  refine ⟨⟨hliteral, ?_⟩, hcomment, ?_⟩
  · obtain ⟨before, after, htext, -, htokens, ⟨quote, body, hfault, -, hafter, hbody⟩ |
      ⟨body, hfault, -⟩⟩ := exists_unclosed_of_tokenize_eq_error hliteral
    · obtain ⟨rfl, hbytes⟩ := LexError.unterminatedString.inj hfault
      exact ⟨before, after, htext, hbytes.symm, htokens, body, hafter, hbody⟩
    · cases hfault
  · obtain ⟨before, after, htext, -, htokens, ⟨quote, body, hfault, -⟩ |
      ⟨body, hfault, hafter, hbody⟩⟩ := exists_unclosed_of_tokenize_eq_error hcomment
    · cases hfault
    · have hbytes := LexError.unterminatedComment.inj hfault
      exact ⟨before, after, htext, hbytes.symm, htokens, body, hafter, hbody⟩

end CqlCompiler.Token
