import CqlCompiler.Proofs.Progress.Loops
import CqlCompiler.Proofs.Unterminated

/-!
# Progress of the lexer

The lexer has two loops: one skips a gap, comment by comment, and one cuts a
text into tokens.  Each round of either takes something off the text, also if
what it takes is not closed further on.

There are three groups.

* Rounds, in the form in which a loop does them, and the functions that are
  loops of such rounds.
* The two loops.  `gap_loop` and `lexemes_loop` say that they come to their end.
* Positions.  `IsRestOf` is a rest of a text that begins between two of its
  characters, and `lexer_progress` is the result.
-/

namespace CqlCompiler.Token

open CqlCompiler.Parser

/-! ## Rounds -/

/-- One round of the gap before a lexeme: white space, and then a comment if
there is one.  Only a comment is followed by another round. -/
def gapRound : LoopRound Char Unclosed Unit := fun _ text =>
  match text.dropWhile Text.isWhiteSpace with
  | '/' :: '*' :: body =>
    match afterComment? body with
    | some rest => .ok (((), true), rest)
    | none => .error (.comment ('/' :: '*' :: body))
  | '-' :: '-' :: body => .ok (((), true), body.dropWhile (· ≠ '\n'))
  | rest => .ok (((), false), rest)

/-- One round of the tokens: a lexeme and the gap after it, if the text is not
at its end. -/
def lexemeRound : LoopRound Char Unclosed (List Token) := fun tokens text =>
  match text with
  | [] => .ok ((tokens, false), [])
  | c :: rest =>
    match lexeme c rest with
    | .error unclosed => .error unclosed
    | .ok (token, after) => (skipGap after).map ((tokens ++ [token], true), ·)

/-- The gap at the front of a text. -/
def gap : Parser Char Unclosed Unit := fun text =>
  (skipGap text).map ((), ·)

/-- The tokens of a text without a gap at its front, after those that there are
already. -/
def lexemes (tokens : List Token) : Parser Char Unclosed (List Token) := fun text =>
  match text with
  | [] => .ok (tokens, [])
  | c :: rest =>
    match lexeme c rest with
    | .error unclosed => .error unclosed
    | .ok (token, after) => (scan after).map fun others => (tokens ++ token :: others, [])

/-! ## The two loops -/

theorem afterComment?_suffix {cs rest : List Char} (h : afterComment? cs = some rest) :
    rest <:+ cs := by
  obtain ⟨body, rfl, -⟩ := exists_body_of_afterComment? h
  exact ⟨body ++ ['*', '/'], by simp⟩

theorem skipGap_suffix {cs rest : List Char} (h : skipGap cs = .ok rest) : rest <:+ cs := by
  obtain ⟨-, gap, rfl, -⟩ := exists_gap_of_skipGap h
  exact List.suffix_append gap rest

theorem literalBody?_suffix {quote : Char} {cs body after : List Char}
    (h : literalBody? quote cs = some (body, after)) : after <:+ cs := by
  obtain ⟨written, rfl, -⟩ := exists_written_of_literalBody? h
  exact (List.suffix_cons quote after).trans (List.suffix_append written _)

theorem lexeme_suffix {c : Char} {rest after : List Char} {token : Token}
    (h : lexeme c rest = .ok (token, after)) : after <:+ rest := by
  unfold lexeme at h
  split_ifs at h
  · split at h
    · rename_i body after' hbody
      obtain ⟨-, rfl⟩ := Prod.mk.inj (Except.ok.inj h)
      exact literalBody?_suffix hbody
    · cases h
  all_goals
    obtain ⟨-, rfl⟩ := Prod.mk.inj (Except.ok.inj h)
  · exact List.suffix_rfl
  · exact List.dropWhile_suffix _
  · exact List.dropWhile_suffix _
  · exact List.suffix_rfl

theorem skipGap_dropWhile (text : List Char) :
    skipGap (text.dropWhile Text.isWhiteSpace) = skipGap text := by
  induction text with
  | nil => rfl
  | cons c text ih =>
    by_cases hspace : Text.isWhiteSpace c = true
    · rw [List.dropWhile_cons_of_pos hspace, ih, skipGap_space hspace]
    · rw [List.dropWhile_cons_of_neg hspace]

theorem gapRound_progresses : Progresses gapRound := by
  intro _ text _ rest h
  have hfront : text.dropWhile Text.isWhiteSpace <:+ text := List.dropWhile_suffix _
  refine Shorter.of_suffix ?_ hfront
  unfold gapRound at h
  split at h
  · rename_i body htext
    rw [htext]
    split at h
    · rename_i rest' hclosed
      obtain ⟨-, rfl⟩ := Prod.mk.inj (Except.ok.inj h)
      have hbody : rest' <:+ '*' :: body :=
        (afterComment?_suffix hclosed).trans (List.suffix_cons '*' body)
      exact shorter_cons hbody '/'
    · cases h
  · rename_i body htext
    rw [htext]
    obtain ⟨-, rfl⟩ := Prod.mk.inj (Except.ok.inj h)
    have hbody : body.dropWhile (· ≠ '\n') <:+ '-' :: body :=
      (List.dropWhile_suffix _).trans (List.suffix_cons '-' body)
    exact shorter_cons hbody '-'
  · cases h

theorem gap_unfolds : Unfolds gapRound (fun _ => gap) := by
  intro _
  funext text
  show (skipGap text).map ((), ·) = (gapRound () text).bind _
  rw [← skipGap_dropWhile text]
  unfold gapRound
  split
  · rename_i body htext
    rw [htext]
    cases hclosed : afterComment? body with
    | some rest =>
      rw [skipGap_block hclosed]
      rfl
    | none =>
      rw [skipGap_unclosed hclosed]
      rfl
  · rename_i body htext
    rw [htext, skipGap.eq_3]
    rfl
  · rename_i hblock hline
    have hspace : NotAt Text.isWhiteSpace (text.dropWhile Text.isWhiteSpace) :=
      notAt_dropWhile _ _
    have hfront : BeginsNoGap (text.dropWhile Text.isWhiteSpace) := by
      refine ⟨hspace, ?_, ?_⟩
      · rintro ⟨body, h⟩
        exact hblock body h.symm
      · rintro ⟨body, h⟩
        exact hline body h.symm
    rw [skipGap_of_beginsNoGap hfront]
    rfl

/-- Every round of a gap takes a comment, so the gap comes to its end. -/
theorem gap_loop : Loop gapRound (fun _ => gap) :=
  .of_unfolds gapRound_progresses gap_unfolds

theorem lexemeRound_progresses : Progresses lexemeRound := by
  intro tokens text _ rest h
  unfold lexemeRound at h
  cases text with
  | nil => cases h
  | cons c text =>
    cases hlexeme : lexeme c text with
    | error unclosed => simp [hlexeme] at h
    | ok pair =>
      obtain ⟨token, after⟩ := pair
      simp only [hlexeme] at h
      cases hgap : skipGap after with
      | error unclosed => simp [hgap, Except.map] at h
      | ok rest' =>
        rw [hgap] at h
        obtain ⟨-, rfl⟩ := Prod.mk.inj (Except.ok.inj h)
        exact shorter_cons ((skipGap_suffix hgap).trans (lexeme_suffix hlexeme)) c

/-- The tokens of a text are those after its first gap. -/
theorem scan_eq_lexemes (tokens : List Token) (text : List Char) :
    (scan text).map (fun others => (tokens ++ others, [])) =
      (skipGap text).bind (lexemes tokens) := by
  rw [scan_eq]
  cases skipGap text with
  | error unclosed => rfl
  | ok rest =>
    cases rest with
    | nil => simp [Except.map, Except.bind, lexemes]
    | cons c rest =>
      simp only [Except.bind, lexemes]
      cases lexeme c rest with
      | error unclosed => rfl
      | ok pair =>
        obtain ⟨token, after⟩ := pair
        dsimp only
        cases scan after <;> rfl

theorem lexemes_unfolds : Unfolds lexemeRound lexemes := by
  intro tokens
  funext text
  cases text with
  | nil => rfl
  | cons c text =>
    show lexemes tokens (c :: text) = (lexemeRound tokens (c :: text)).bind _
    simp only [lexemes, lexemeRound]
    cases lexeme c text with
    | error unclosed => rfl
    | ok pair =>
      obtain ⟨token, after⟩ := pair
      have hothers := scan_eq_lexemes (tokens ++ [token]) after
      simp only [List.append_assoc, List.singleton_append] at hothers
      dsimp only
      rw [hothers]
      cases skipGap after <;> rfl

/-- Every round of the tokens takes a lexeme, so the tokens come to their end. -/
theorem lexemes_loop : Loop lexemeRound lexemes :=
  .of_unfolds lexemeRound_progresses lexemes_unfolds

/-! ## Positions -/

/-- A text goes on with this rest after one of its characters.  So the rest has
no more bytes than the text, and the difference is the position of the rest. -/
def IsRestOf (sql : String) (rest : List Char) : Prop :=
  ∃ before : String, sql = before ++ String.ofList rest ∧
    before.utf8ByteSize + Text.byteLength rest = sql.utf8ByteSize

theorem isRestOf_of_suffix {sql : String} {rest : List Char} (h : rest <:+ sql.toList) :
    IsRestOf sql rest := by
  obtain ⟨front, hfront⟩ := h
  have hsql : sql = String.ofList front ++ String.ofList rest := by
    rw [← String.ofList_append, hfront, String.ofList_toList]
  refine ⟨String.ofList front, hsql, ?_⟩
  rw [← Text.byteLength_eq_utf8ByteSize, ← Text.byteLength_append, hfront, Text.byteLength_toList]

theorem IsRestOf.suffix {sql : String} {rest : List Char} (h : IsRestOf sql rest) :
    rest <:+ sql.toList := by
  obtain ⟨before, hsql, -⟩ := h
  rw [hsql, String.toList_append, String.toList_ofList]
  exact List.suffix_append _ rest

theorem IsRestOf.of_shorter {sql : String} {rest next : List Char} (h : IsRestOf sql rest)
    (hnext : Shorter next rest) : IsRestOf sql next :=
  isRestOf_of_suffix (hnext.1.trans h.suffix)

/-- How the lexer gets through a text. -/
structure Progress (sql : String) : Prop where
  /-- Each round of a gap that another one follows leaves a shorter rest. -/
  gapRound : ∀ {rest next}, IsRestOf sql rest → gapRound () rest = .ok (((), true), next) →
    IsRestOf sql next ∧ Shorter next rest
  /-- Each round of the tokens leaves a shorter rest. -/
  lexemeRound : ∀ {tokens tokens' rest next}, IsRestOf sql rest →
    lexemeRound tokens rest = .ok ((tokens', true), next) → IsRestOf sql next ∧ Shorter next rest
  /-- Every gap is skipped in finitely many rounds. -/
  gapRun : ∀ rest, LoopRun Token.gapRound () rest ((skipGap rest).map ((), ·))
  /-- After the first gap the text is cut in finitely many rounds. -/
  lexemeRun : ∀ {rest}, skipGap sql.toList = .ok rest →
    LoopRun Token.lexemeRound [] rest ((scan sql.toList).map (·, []))
  /-- If the first gap is left open, nothing else is looked at. -/
  firstGap : ∀ {unclosed}, skipGap sql.toList = .error unclosed →
    scan sql.toList = .error unclosed
  /-- What is left open is a rest of the text too. -/
  unclosed : ∀ {unclosed}, scan sql.toList = .error unclosed → IsRestOf sql unclosed.text

theorem lexer_progress (sql : String) : Progress sql := by
  constructor
  case gapRound =>
    intro rest next hrest hround
    have hshorter := gapRound_progresses _ _ _ _ hround
    exact ⟨hrest.of_shorter hshorter, hshorter⟩
  case lexemeRound =>
    intro tokens tokens' rest next hrest hround
    have hshorter := lexemeRound_progresses _ _ _ _ hround
    exact ⟨hrest.of_shorter hshorter, hshorter⟩
  case gapRun => exact gap_loop.run ()
  case lexemeRun =>
    intro rest hgap
    have hscan : (scan sql.toList).map (·, []) = lexemes [] rest := by
      have hlexemes := scan_eq_lexemes [] sql.toList
      rw [hgap] at hlexemes
      exact hlexemes
    rw [hscan]
    exact lexemes_loop.run [] rest
  case firstGap =>
    intro unclosed hgap
    rw [scan_eq, hgap]
  case unclosed =>
    intro unclosed hscan
    obtain ⟨-, before, -, hsql, -⟩ := exists_cut_of_scan_eq_error hscan
    exact isRestOf_of_suffix ⟨before, hsql.symm⟩

end CqlCompiler.Token
