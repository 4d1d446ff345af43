import CqlCompiler.Error
import CqlCompiler.Text.Alphanumeric
import CqlCompiler.Text.Bytes
import CqlCompiler.Text.WhiteSpace

/-!
# Cutting a text into tokens

A text is a sequence of lexemes with gaps between them.  A gap is any mixture
of white space, block comments and line comments; it may be empty.  The lexeme
at the head of a text is decided by its first character: a quote opens a
literal, the characters `()?,;=.` are symbols, an ASCII digit begins a number,
a word character begins a word, and every other character is a symbol of its
own, left for the grammar to refuse.

The functions work on the remaining text and know no positions.  A construct
that is never closed is reported with the text from its opening mark on, and
`tokenize` alone turns that text into a byte position.

`length_skipGap_le` and `length_lexeme_le` say that no step gives back more
text than it got, which is why `scan` ends.
-/

namespace CqlCompiler.Token

/-! ## Gaps -/

/-- A construct that the text ends within, with the text from its opening mark
on. -/
inductive Unclosed where
  | literal (quote : Char) (rest : List Char)
  | comment (rest : List Char)
  deriving DecidableEq, Repr

/-- The text after the first closing mark of a block comment. -/
def afterComment? : List Char → Option (List Char)
  | [] => none
  | '*' :: '/' :: rest => some rest
  | _ :: rest => afterComment? rest

theorem length_afterComment?_lt {cs rest : List Char} (h : afterComment? cs = some rest) :
    rest.length < cs.length := by
  fun_induction afterComment? cs with
  | case1 => simp at h
  | case2 tail =>
    simp only [Option.some.injEq] at h
    subst h
    simp only [List.length_cons]
    omega
  | case3 c tail _ ih =>
    have := ih h
    simp only [List.length_cons]
    omega

/-- The text after the gap at its head.  A line comment ends before its
newline, which is white space again. -/
def skipGap : List Char → Except Unclosed (List Char)
  | [] => .ok []
  | '/' :: '*' :: body =>
    match _hend : afterComment? body with
    | some rest => skipGap rest
    | none => .error (.comment ('/' :: '*' :: body))
  | '-' :: '-' :: body => skipGap (body.dropWhile (· ≠ '\n'))
  | c :: rest => if Text.isWhiteSpace c then skipGap rest else .ok (c :: rest)
termination_by cs => cs.length
decreasing_by
  · have := length_afterComment?_lt _hend
    simp only [List.length_cons]
    omega
  · have := (List.dropWhile_sublist (· ≠ '\n') (l := body)).length_le
    simp only [List.length_cons]
    omega
  · simp

theorem length_skipGap_le {cs rest : List Char} (h : skipGap cs = .ok rest) :
    rest.length ≤ cs.length := by
  fun_induction skipGap cs with
  | case1 => simp_all
  | case2 body rest' hbody ih =>
    have := ih h
    have := length_afterComment?_lt hbody
    simp only [List.length_cons]
    omega
  | case3 => simp at h
  | case4 body ih =>
    have := ih h
    have := (List.dropWhile_sublist (· ≠ '\n') (l := body)).length_le
    simp only [List.length_cons]
    omega
  | case5 c tail _ _ _ ih =>
    have := ih h
    simp only [List.length_cons]
    omega
  | case6 => simp_all

/-! ## Lexemes -/

/-- The words with a meaning of their own wherever they stand. -/
def keywords : List String :=
  ["CREATE", "TABLE", "ALTER", "DROP", "SELECT", "INSERT", "INTO", "VALUES", "UPDATE", "DELETE",
   "PRIMARY", "KEY", "USING", "WITH", "FROM", "WHERE", "LIMIT", "ORDER", "BY", "AND", "OR", "IF",
   "EXISTS"]

/-- The marks that are a token by themselves, also where a word could begin. -/
def marks : List Char :=
  ['(', ')', '?', ',', ';', '=', '.']

/-- Whether `c` opens and closes a literal. -/
def isQuote (c : Char) : Bool :=
  c == '\'' || c == '"'

/-- Whether `c` may stand in a word.  Dots and stars belong to words, so that
`users.id` and `users.*` are one word each. -/
def isWordChar (c : Char) : Bool :=
  Text.isAlphanumeric c || c == '_' || c == '.' || c == '*'

/-- A word in any case is a keyword if its upper-case form is one, and an
identifier as written otherwise. -/
def ofWord (word : String) : Token :=
  if Text.upper word ∈ keywords then ⟨.keyword, Text.upper word⟩ else ⟨.identifier, word⟩

/-- The text of a literal and what follows its closing quote, read from after
its opening quote.  A backslash before the quote makes it part of the text;
every other backslash stands for itself. -/
def literalBody? (quote : Char) : List Char → Option (List Char × List Char)
  | [] => none
  | c :: rest =>
    if c = quote then some ([], rest)
    else match rest with
      | [] => none
      | d :: rest' =>
        if c = '\\' ∧ d = quote then
          (literalBody? quote rest').map fun (body, after) => (quote :: body, after)
        else
          (literalBody? quote (d :: rest')).map fun (body, after) => (c :: body, after)

/-- The token that begins with `c`, and the text after it. -/
def lexeme (c : Char) (rest : List Char) : Except Unclosed (Token × List Char) :=
  if isQuote c then
    match literalBody? c rest with
    | some (body, after) => .ok (⟨.literal, String.ofList body⟩, after)
    | none => .error (.literal c (c :: rest))
  else if c ∈ marks then
    .ok (⟨.symbol, c.toString⟩, rest)
  else if c.isDigit then
    .ok (⟨.number, String.ofList (c :: rest.takeWhile Char.isDigit)⟩, rest.dropWhile Char.isDigit)
  else if isWordChar c then
    .ok (ofWord (String.ofList (c :: rest.takeWhile isWordChar)), rest.dropWhile isWordChar)
  else
    .ok (⟨.symbol, c.toString⟩, rest)

theorem length_literalBody?_lt {quote : Char} {cs body after : List Char}
    (h : literalBody? quote cs = some (body, after)) : after.length < cs.length := by
  fun_induction literalBody? quote cs generalizing body with
  | case1 => simp at h
  | case2 rest =>
    simp only [Option.some.injEq, Prod.mk.injEq] at h
    simp [h.2]
  | case3 => simp at h
  | case4 c d rest _ _ ih =>
    obtain ⟨⟨body', after'⟩, hrest, heq⟩ := Option.map_eq_some_iff.mp h
    simp only [Prod.mk.injEq] at heq
    have := ih (heq.2 ▸ hrest)
    simp only [List.length_cons]
    omega
  | case5 c d rest _ _ ih =>
    obtain ⟨⟨body', after'⟩, hrest, heq⟩ := Option.map_eq_some_iff.mp h
    simp only [Prod.mk.injEq] at heq
    have := ih (heq.2 ▸ hrest)
    simp only [List.length_cons] at *
    omega

theorem length_lexeme_le {c : Char} {rest after : List Char} {token : Token}
    (h : lexeme c rest = .ok (token, after)) : after.length ≤ rest.length := by
  have drop_le (p : Char → Bool) : (rest.dropWhile p).length ≤ rest.length :=
    (List.dropWhile_sublist p).length_le
  rw [lexeme] at h
  split at h
  · split at h
    · rename_i body tail hbody
      simp only [Except.ok.injEq, Prod.mk.injEq] at h
      exact Nat.le_of_lt (h.2 ▸ length_literalBody?_lt hbody)
    · simp at h
  · split at h
    · simp_all
    · split at h
      · simp only [Except.ok.injEq, Prod.mk.injEq] at h
        exact h.2 ▸ drop_le _
      · split at h
        · simp only [Except.ok.injEq, Prod.mk.injEq] at h
          exact h.2 ▸ drop_le _
        · simp_all

/-! ## The whole text -/

/-- The tokens of a text in order. -/
def scan (cs : List Char) : Except Unclosed (List Token) :=
  match _hgap : skipGap cs with
  | .error unclosed => .error unclosed
  | .ok [] => .ok []
  | .ok (c :: rest) =>
    match _hlex : lexeme c rest with
    | .error unclosed => .error unclosed
    | .ok (token, after) => (scan after).map (token :: ·)
termination_by cs.length
decreasing_by
  have := length_skipGap_le _hgap
  have := length_lexeme_le _hlex
  simp only [List.length_cons] at *
  omega

/-- One round of `scan`: a gap, a lexeme, and the tokens of the text after them. -/
theorem scan_eq (cs : List Char) :
    scan cs =
      match skipGap cs with
      | .error unclosed => .error unclosed
      | .ok [] => .ok []
      | .ok (c :: rest) =>
        match lexeme c rest with
        | .error unclosed => .error unclosed
        | .ok (token, after) => (scan after).map (token :: ·) := by
  rw [scan]
  split
  · simp [*]
  · simp [*]
  · split <;> simp [*]

/-- The error for a construct of the text `cs`: its opening mark stands where
the text before it ends. -/
def Unclosed.toError (cs : List Char) : Unclosed → LexError
  | .literal quote rest => .unterminatedString quote (Text.byteLength cs - Text.byteLength rest)
  | .comment rest => .unterminatedComment (Text.byteLength cs - Text.byteLength rest)

/-- Cuts a SQL text into tokens. -/
def tokenize (sql : String) : Except LexError (List Token) :=
  (scan sql.toList).mapError (Unclosed.toError sql.toList)

end CqlCompiler.Token
