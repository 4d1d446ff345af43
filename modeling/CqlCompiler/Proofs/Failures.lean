import CqlCompiler.Compile
import CqlCompiler.Proofs.Shapes

/-!
# Why a text is not compiled

There are three kinds of failure, and the text decides which one it is.  A text
that cannot be cut into tokens fails for that reason, whatever its beginning
is.  A token list that begins with no statement is unsupported.  Every other
failure is a breach of the grammar, and what was found in place of what was
wanted is something of the token list.

There are four groups.

* Rests of a list.  `StaysWithin` says that a parser leaves a rest of the list
  that it started in, or fails for one of certain causes.  There is a rule for
  each way to build a parser.
* Findings.  `Describes` are the wordings for something of a token list, and
  `CompileError.IsBreach` is an error that reports one of them.
* Phrases.  `Blames` is `StaysWithin` for breaches of the grammar, with one lemma
  for each phrase.
* Texts.  `compile_failures` is the result.
-/

namespace CqlCompiler

/-! ## Rests of a list -/

namespace Parser

variable {τ ε α β : Type}

/-- An outcome on the way through `whole`: a rest of it is left, or there is one
of the causes to fail. -/
inductive Within (whole : List τ) (Cause : ε → Prop) : Except ε (α × List τ) → Prop where
  | ok {result : α} {rest : List τ} (h : rest <:+ whole) : Within whole Cause (.ok (result, rest))
  | error {cause : ε} (h : Cause cause) : Within whole Cause (.error cause)

/-- On every rest of `whole` the parser leaves a rest, or fails for one of the
causes. -/
def StaysWithin (whole : List τ) (Cause : ε → Prop) (parser : Parser τ ε α) : Prop :=
  ∀ items, items <:+ whole → Within whole Cause (parser items)

section StaysWithin

variable {whole : List τ} {Cause : ε → Prop}

theorem staysWithin_pure (result : α) : StaysWithin whole Cause (pure result) :=
  fun _ hitems => .ok hitems

/-- A sequence stays within the list if its second part does after each success
of the first. -/
theorem Within.bind {parser : Parser τ ε α} {next : α → Parser τ ε β} {items : List τ}
    (h : Within whole Cause (parser items))
    (hnext : ∀ result rest, parser items = .ok (result, rest) → rest <:+ whole →
      Within whole Cause (next result rest)) :
    Within whole Cause ((parser >>= next) items) := by
  show Within whole Cause ((parser items).bind _)
  generalize parser items = outcome at h hnext
  cases h with
  | @ok result rest hrest => exact hnext result rest rfl hrest
  | error hcause => exact .error hcause

theorem StaysWithin.bind {parser : Parser τ ε α} {next : α → Parser τ ε β}
    (h : StaysWithin whole Cause parser) (hnext : ∀ result, StaysWithin whole Cause (next result)) :
    StaysWithin whole Cause (parser >>= next) :=
  fun items hitems => (h items hitems).bind fun result rest _ => hnext result rest

theorem Within.map {parser : Parser τ ε α} {items : List τ}
    (h : Within whole Cause (parser items)) (f : α → β) :
    Within whole Cause ((f <$> parser) items) := by
  rw [← bind_pure_comp]
  exact h.bind fun _ _ _ hrest => .ok hrest

theorem StaysWithin.map {parser : Parser τ ε α} (h : StaysWithin whole Cause parser) (f : α → β) :
    StaysWithin whole Cause (f <$> parser) :=
  fun items hitems => (h items hitems).map f

theorem StaysWithin.ite {c : Prop} [Decidable c] {parser other : Parser τ ε α}
    (h : StaysWithin whole Cause parser) (hother : StaysWithin whole Cause other) :
    StaysWithin whole Cause (if c then parser else other) := by
  split
  · exact h
  · exact hother

theorem staysWithin_takeIf? (p : τ → Bool) : StaysWithin whole Cause (takeIf? p) := by
  intro items hitems
  cases items with
  | nil => exact .ok hitems
  | cons item items =>
    rw [takeIf?, bind_of_ok (get_apply _)]
    dsimp only
    split
    · exact .ok ((List.suffix_cons item items).trans hitems)
    · exact .ok hitems

theorem staysWithin_skipIf (p : τ → Bool) : StaysWithin whole Cause (skipIf p) :=
  (staysWithin_takeIf? p).bind fun _ => staysWithin_pure _

theorem staysWithin_peek? : StaysWithin whole Cause peek? :=
  fun _ hitems => .ok hitems

theorem StaysWithin.many {step : Parser τ ε (Option α)} (h : StaysWithin whole Cause step) :
    StaysWithin whole Cause (many step) := by
  have hrounds : ∀ budget items, items <:+ whole →
      Within whole Cause (manyWithin step budget items) := by
    intro budget
    induction budget with
    | nil =>
      intro items hitems
      have hround := h items hitems
      rw [manyWithin]
      generalize step items = outcome at hround
      cases hround with
      | error hcause => exact .error hcause
      | @ok result rest hrest => cases result <;> exact .ok hrest
    | cons item budget ih =>
      intro items hitems
      have hround := h items hitems
      rw [manyWithin]
      generalize step items = outcome at hround
      cases hround with
      | error hcause => exact .error hcause
      | @ok result rest hrest =>
        cases result with
        | none => exact .ok hrest
        | some result =>
          have hothers := ih rest hrest
          dsimp only
          generalize manyWithin step budget rest = outcome at hothers
          cases hothers with
          | error hcause => exact .error hcause
          | ok hlast => exact .ok hlast
  exact fun items => hrounds items items

theorem StaysWithin.sepBy1 {item : Parser τ ε α} {separator : Parser τ ε Bool}
    (hitem : StaysWithin whole Cause item) (hseparator : StaysWithin whole Cause separator) :
    StaysWithin whole Cause (sepBy1 item separator) := by
  have hnext : StaysWithin whole Cause (nextItem item separator) :=
    hseparator.bind fun _ => (hitem.map some).ite (staysWithin_pure none)
  rw [sepBy1_eq]
  exact hitem.bind fun _ => hnext.many.bind fun _ => staysWithin_pure _

end StaysWithin

end Parser

/-! ## Findings -/

/-- A token list begins like a statement that adds a row, with these columns and
values. -/
inductive BeginsRow : List Token → List String → List Value → Prop where
  | intro {left right : List Token} {columns : List String} {values : List Value}
      (table : String) (rest : List Token)
      (hcolumns : Parenthesised (CommaSeparated SpellsName) left columns)
      (hvalues : Parenthesised (CommaSeparated SpellsValue) right values) :
      BeginsRow
        (⟨.keyword, "INSERT"⟩ :: ⟨.keyword, "INTO"⟩ :: ⟨.identifier, table⟩ ::
          (left ++ ⟨.keyword, "VALUES"⟩ :: (right ++ rest)))
        columns values

/-- The wordings for what is found in a token list: its end, one of its tokens,
one of its numbers, or the number of values of a row. -/
inductive Describes (tokens : List Token) : String → Prop where
  | endOfInput : Describes tokens "end of input"
  | token {found : Token} (h : found ∈ tokens) :
      Describes tokens (found.kind.name ++ " '" ++ found.value ++ "'")
  | number {text : String} (h : ⟨.number, text⟩ ∈ tokens) : Describes tokens ("number " ++ text)
  | valueCount {columns : List String} {values : List Value} (h : BeginsRow tokens columns values)
      (hlength : columns.length ≠ values.length) :
      Describes tokens (Text.Numeral.ofNat values.length ++ " values")

/-- The error is a breach of the grammar by something of the token list. -/
inductive CompileError.IsBreach (tokens : List Token) : CompileError → Prop where
  | intro {expected : Expectation} {found : Finding} (h : Describes tokens found.description) :
      IsBreach tokens (.unexpected expected found)

/-! ## Phrases -/

namespace TokenParser

open CqlCompiler.Parser

variable {α : Type} {tokens : List Token}

/-- The parser fails only where something of the token list breaks the grammar. -/
abbrev Blames (tokens : List Token) (parser : TokenParser α) : Prop :=
  StaysWithin tokens (CompileError.IsBreach tokens) parser

theorem mem_of_suffix {token : Token} {items : List Token} (h : token :: items <:+ tokens) :
    token ∈ tokens :=
  h.subset List.mem_cons_self

theorem describes_ofHead {items : List Token} (h : items <:+ tokens) :
    Describes tokens (Finding.ofHead items).description := by
  cases items with
  | nil => exact .endOfInput
  | cons token items => exact .token (mem_of_suffix h)

theorem blames_unexpected (expected : Expectation) :
    Blames tokens (unexpected expected : TokenParser α) :=
  fun _ hitems => .error (.intro (describes_ofHead hitems))

theorem blames_expect (kind : TokenKind) (text : Option String) :
    Blames tokens (expect kind text) := by
  refine (staysWithin_takeIf? _).bind fun found => ?_
  cases found with
  | none => exact blames_unexpected _
  | some token => exact staysWithin_pure token

theorem blames_keyword (text : String) : Blames tokens (keyword text) :=
  (blames_expect .keyword (some text)).bind fun _ => staysWithin_pure ()

theorem blames_symbol (text : String) : Blames tokens (symbol text) :=
  (blames_expect .symbol (some text)).bind fun _ => staysWithin_pure ()

theorem blames_name : Blames tokens name :=
  (blames_expect .identifier none).bind fun _ => staysWithin_pure _

theorem blames_number : Blames tokens number :=
  (blames_expect .number none).bind fun _ => staysWithin_pure _

theorem blames_skipKeyword (text : String) : Blames tokens (skipKeyword text) :=
  staysWithin_skipIf _

theorem blames_skipSymbol (text : String) : Blames tokens (skipSymbol text) :=
  staysWithin_skipIf _

theorem blames_skipWord (text : String) : Blames tokens (skipWord text) :=
  staysWithin_skipIf _

theorem blames_word (text : String) : Blames tokens (word text) :=
  (blames_skipWord text).bind fun _ => (staysWithin_pure ()).ite (blames_unexpected _)

theorem blames_atKeyword (text : String) : Blames tokens (atKeyword text) :=
  staysWithin_peek?.bind fun _ => staysWithin_pure _

theorem blames_atSymbol (text : String) : Blames tokens (atSymbol text) :=
  staysWithin_peek?.bind fun _ => staysWithin_pure _

theorem blames_names : Blames tokens names :=
  blames_name.sepBy1 (blames_skipSymbol ",")

theorem Blames.parenthesised {phrase : TokenParser α} (h : Blames tokens phrase) :
    Blames tokens (parenthesised phrase) :=
  (blames_symbol "(").bind fun _ => h.bind fun _ =>
    (blames_symbol ")").bind fun _ => staysWithin_pure _

/-! ### Values -/

theorem isBreach_of_valueOfToken {token : Token} {cause : CompileError} (hmem : token ∈ tokens)
    (h : valueOfToken token = .error cause) : cause.IsBreach tokens := by
  obtain ⟨kind, text⟩ := token
  cases kind with
  | literal => cases h
  | keyword =>
    cases h
    exact .intro (.token hmem)
  | number =>
    simp only [valueOfToken] at h
    split at h
    · cases h
    · cases h
      exact .intro (.number hmem)
  | symbol =>
    simp only [valueOfToken] at h
    split at h
    · cases h
    · cases h
      exact .intro (.token hmem)
  | identifier =>
    simp only [valueOfToken] at h
    split at h
    · cases h
    · split at h <;> cases h

theorem blames_value : Blames tokens value := by
  intro items hitems
  by_cases hdecimal : AtDecimal items
  · obtain ⟨whole, fraction, rest⟩ := hdecimal
    have hrest : rest <:+ [⟨.number, whole⟩, ⟨.symbol, "."⟩, ⟨.number, fraction⟩] ++ rest :=
      List.suffix_append _ rest
    exact .ok (hrest.trans hitems)
  · cases items with
    | nil => exact .error (.intro .endOfInput)
    | cons token items =>
      rw [value_of_not_atDecimal hdecimal]
      cases hvalue : valueOfToken token with
      | error cause => exact .error (isBreach_of_valueOfToken (mem_of_suffix hitems) hvalue)
      | ok found => exact .ok ((List.suffix_cons token items).trans hitems)

theorem blames_values : Blames tokens (sepBy1 value (skipSymbol ",")) :=
  blames_value.sepBy1 (blames_skipSymbol ",")

theorem blames_defaultValue : Blames tokens defaultValue :=
  (blames_atSymbol "?").bind fun _ => (blames_unexpected _).ite blames_value

/-! ### Tables -/

theorem blames_columnClause? : Blames tokens columnClause? := by
  unfold columnClause?
  refine (blames_skipWord "NOT").bind fun _ => StaysWithin.ite ?_ ?_
  · exact (blames_word "NULL").bind fun _ => staysWithin_pure _
  refine (blames_skipWord "NULL").bind fun _ => (staysWithin_pure _).ite ?_
  refine (blames_skipWord "DEFAULT").bind fun _ => StaysWithin.ite ?_ ?_
  · exact blames_defaultValue.bind fun _ => staysWithin_pure _
  refine (blames_skipKeyword "PRIMARY").bind fun _ => StaysWithin.ite ?_ (staysWithin_pure _)
  exact (blames_keyword "KEY").bind fun _ => staysWithin_pure _

theorem blames_sizes : Blames tokens sizes := by
  unfold sizes
  refine (blames_skipSymbol "(").bind fun _ => StaysWithin.ite ?_ (staysWithin_pure _)
  exact (blames_number.sepBy1 (blames_skipSymbol ",")).bind fun _ => blames_symbol ")"

theorem blames_column : Blames tokens column := by
  unfold column
  refine blames_name.bind fun _ => blames_name.bind fun _ => blames_sizes.bind fun _ => ?_
  exact blames_columnClause?.many.bind fun _ => staysWithin_pure _

theorem blames_element : Blames tokens element := by
  unfold element
  refine (blames_atKeyword "PRIMARY").bind fun _ => StaysWithin.ite ?_ blames_column
  refine (blames_keyword "PRIMARY").bind fun _ => (blames_keyword "KEY").bind fun _ => ?_
  exact blames_names.parenthesised.bind fun _ => staysWithin_pure _

theorem blames_nextElement : Blames tokens nextElement := by
  unfold nextElement
  refine (blames_skipSymbol ",").bind fun _ => StaysWithin.ite ?_ (staysWithin_pure _)
  exact (blames_atSymbol ")").bind fun _ => (staysWithin_pure _).ite (blames_element.map _)

theorem blames_elements : Blames tokens elements := by
  unfold elements
  refine (blames_atSymbol ")").bind fun _ => (staysWithin_pure _).ite ?_
  exact blames_element.bind fun _ => blames_nextElement.many.bind fun _ => staysWithin_pure _

theorem blames_tableBody (ifNotExists : Bool) : Blames tokens (tableBody ifNotExists) := by
  unfold tableBody
  refine blames_name.bind fun table => (blames_symbol "(").bind fun _ => ?_
  refine blames_elements.bind fun parts => ?_
  have hclose : Blames tokens (do
      symbol ")"
      return (⟨table, ifNotExists, columnsOf parts, keyOf parts⟩ : CreateTable)) :=
    (blames_symbol ")").bind fun _ => staysWithin_pure _
  exact ((blames_unexpected _).bind fun _ => hclose).ite hclose

theorem blames_createTable : Blames tokens createTable := by
  rw [createTable_eq]
  refine (blames_keyword "CREATE").bind fun _ => (blames_keyword "TABLE").bind fun _ => ?_
  refine (blames_skipKeyword "IF").bind fun _ => StaysWithin.ite ?_ (blames_tableBody _)
  refine (blames_word "NOT").bind fun _ => (blames_keyword "EXISTS").bind fun _ => ?_
  exact blames_tableBody _

theorem blames_dropTable : Blames tokens dropTable := by
  unfold dropTable
  refine (blames_keyword "DROP").bind fun _ => (blames_keyword "TABLE").bind fun _ => ?_
  refine (blames_skipKeyword "IF").bind fun _ => StaysWithin.ite ?_ ?_
  · exact (blames_keyword "EXISTS").bind fun _ => blames_name.bind fun _ => staysWithin_pure _
  · exact blames_name.bind fun _ => staysWithin_pure _

/-! ### Queries and rows -/

theorem blames_columnName : Blames tokens columnName :=
  blames_name.bind fun _ => staysWithin_pure _

theorem blames_condition : Blames tokens condition := by
  unfold condition
  refine blames_columnName.bind fun _ => (blames_symbol "=").bind fun _ => ?_
  exact blames_value.bind fun _ => staysWithin_pure _

theorem blames_conditions : Blames tokens conditions :=
  (blames_skipKeyword "WHERE").bind fun _ =>
    (blames_condition.sepBy1 (blames_skipKeyword "AND")).ite (staysWithin_pure [])

/-- A number that is no row count is a token of the list. -/
theorem blames_limit? : Blames tokens limit? := by
  unfold limit?
  refine (blames_skipKeyword "LIMIT").bind fun _ => StaysWithin.ite ?_ (staysWithin_pure _)
  intro items hitems
  refine (blames_number items hitems).bind fun text rest hnumber hrest => ?_
  obtain rfl := number_eq_ok_iff.mp hnumber
  cases Text.Numeral.unsigned? text with
  | some count => exact .ok hrest
  | none => exact .error (.intro (.number (mem_of_suffix hitems)))

theorem blames_direction : Blames tokens direction := by
  unfold direction
  refine (blames_skipWord "DESC").bind fun _ => (staysWithin_pure _).ite ?_
  exact (blames_skipWord "ASC").bind fun _ => staysWithin_pure _

theorem blames_order? : Blames tokens order? := by
  unfold order?
  refine (blames_skipKeyword "ORDER").bind fun _ => StaysWithin.ite ?_ (staysWithin_pure _)
  refine (blames_keyword "BY").bind fun _ => blames_columnName.bind fun _ => ?_
  exact blames_direction.bind fun _ => staysWithin_pure _

theorem blames_select : Blames tokens select := by
  unfold select
  refine (blames_keyword "SELECT").bind fun _ => ?_
  refine (blames_columnName.sepBy1 (blames_skipSymbol ",")).bind fun _ => ?_
  refine (blames_keyword "FROM").bind fun _ => blames_name.bind fun _ => ?_
  refine blames_conditions.bind fun _ => blames_limit?.bind fun early => ?_
  refine blames_order?.bind fun _ => ?_
  exact StaysWithin.ite ((staysWithin_pure early).bind fun _ => staysWithin_pure _)
    (blames_limit?.bind fun _ => staysWithin_pure _)

/-- The number of values is counted from the beginning of the list, so a row is
read there and not at every rest. -/
theorem within_insert (tokens : List Token) :
    Within tokens (CompileError.IsBreach tokens) (insert tokens) := by
  unfold insert
  refine (blames_keyword "INSERT" tokens List.suffix_rfl).bind fun _ _ h hrest => ?_
  obtain rfl := keyword_eq_ok_iff.mp h
  refine (blames_keyword "INTO" _ hrest).bind fun _ _ h hrest => ?_
  obtain rfl := keyword_eq_ok_iff.mp h
  refine (blames_name _ hrest).bind fun table _ h hrest => ?_
  obtain rfl := name_eq_ok_iff.mp h
  refine (blames_names.parenthesised _ hrest).bind fun columns _ h hrest => ?_
  obtain ⟨left, hcolumns, rfl⟩ := parenthesised_sound (commaSeparated_sound name_sound) _ _ _ h
  refine (blames_keyword "VALUES" _ hrest).bind fun _ _ h hrest => ?_
  obtain rfl := keyword_eq_ok_iff.mp h
  refine (blames_values.parenthesised _ hrest).bind fun values rest h hrest => ?_
  obtain ⟨right, hvalues, rfl⟩ := parenthesised_sound (commaSeparated_sound value_sound) _ _ _ h
  split
  · rename_i hlength
    exact .error (.intro (.valueCount (.intro table rest hcolumns hvalues) hlength))
  · exact .ok hrest

/-! ### Statements -/

theorem blames_ending : Blames tokens ending := by
  refine (blames_skipSymbol ";").bind fun _ => ?_
  intro items hitems
  cases items with
  | nil => exact .ok hitems
  | cons token items => exact blames_unexpected .endOfInput _ hitems

end TokenParser

namespace Statement

open CqlCompiler.Parser CqlCompiler.TokenParser

/-- The tokens that a statement begins with. -/
def beginnings : List Token :=
  [⟨.keyword, "CREATE"⟩, ⟨.keyword, "DROP"⟩, ⟨.keyword, "SELECT"⟩, ⟨.keyword, "INSERT"⟩]

/-- The first token decides which statement is tried, and then nothing else. -/
theorem within_statement {first : Token} (h : first ∈ beginnings) (rest : List Token) :
    Within (first :: rest) (CompileError.IsBreach (first :: rest))
      (statement (first :: rest)) := by
  simp only [beginnings, List.mem_cons, List.not_mem_nil, or_false] at h
  rcases h with rfl | rfl | rfl | rfl
  · exact (blames_createTable _ List.suffix_rfl).map Statement.createTable
  · exact (blames_dropTable _ List.suffix_rfl).map Statement.dropTable
  · exact (blames_select _ List.suffix_rfl).map Statement.select
  · exact (within_insert _).map Statement.insert

theorem statement_of_not_mem {first : Token} (h : first ∉ beginnings) (rest : List Token) :
    statement (first :: rest) = .error (.unsupported first.value) := by
  simp only [beginnings, List.mem_cons, List.not_mem_nil, or_false, not_or,
    ← Token.isKeyword_iff] at h
  obtain ⟨hcreate, hdrop, hselect, hinsert⟩ := h
  have hpeek : (peek? : TokenParser (Option Token)) (first :: rest) =
      .ok (some first, first :: rest) := rfl
  rw [statement, bind_of_ok hpeek]
  dsimp only
  rw [if_neg hcreate, if_neg hdrop, if_neg hselect, if_neg hinsert]
  rfl

/-- Where no statement begins, this is said, whatever follows. -/
theorem ofTokens_of_not_mem {first : Token} (h : first ∉ beginnings) (rest : List Token) :
    ofTokens (first :: rest) = .error (.unsupported first.value) := by
  have hstatement := statement_of_not_mem h rest
  show ((statement (first :: rest)).bind _).map _ = _
  rw [hstatement]
  rfl

/-- Where a statement begins, only a breach of the grammar can follow. -/
theorem isBreach_of_ofTokens {first : Token} {rest : List Token} {cause : CompileError}
    (h : first ∈ beginnings) (hcause : ofTokens (first :: rest) = .error cause) :
    cause.IsBreach (first :: rest) := by
  have hwhole : Within (first :: rest) (CompileError.IsBreach (first :: rest))
      (wholeStatement (first :: rest)) :=
    (within_statement h rest).bind fun _ _ _ hrest =>
      (blames_ending.bind fun _ => staysWithin_pure _) _ hrest
  have hrun : ofTokens (first :: rest) = (wholeStatement (first :: rest)).map (·.1) := rfl
  rw [hrun] at hcause
  generalize wholeStatement (first :: rest) = outcome at hwhole hcause
  cases hwhole with
  | ok _ => cases hcause
  | error hbreach =>
    cases hcause
    exact hbreach

end Statement

/-! ## Texts -/

/-- The beginning of a token list is no statement.  An empty list begins with its
end. -/
inductive Unsupported : List Token → String → Prop where
  | empty : Unsupported [] "end of input"
  | first {first : Token} (rest : List Token) (h : first ∉ Statement.beginnings) :
      Unsupported (first :: rest) first.value

theorem unsupported_of_keyword {word : String} (h : word ∈ ["ALTER", "UPDATE", "DELETE"])
    (rest : List Token) : Unsupported (⟨.keyword, word⟩ :: rest) word := by
  refine .first rest ?_
  simp only [List.mem_cons, List.not_mem_nil, or_false] at h
  rcases h with rfl | rfl | rfl <;> decide

theorem Unsupported.ofTokens {tokens : List Token} {beginning : String}
    (h : Unsupported tokens beginning) :
    Statement.ofTokens tokens = .error (.unsupported beginning) := by
  cases h with
  | empty => rfl
  | first rest h => exact Statement.ofTokens_of_not_mem h rest

/-- A token list that is no statement is unsupported or breaks the grammar. -/
theorem unsupported_or_isBreach {tokens : List Token} {cause : CompileError}
    (h : Statement.ofTokens tokens = .error cause) :
    (∃ beginning, Unsupported tokens beginning ∧ cause = .unsupported beginning) ∨
      cause.IsBreach tokens := by
  cases tokens with
  | nil =>
    cases h
    exact .inl ⟨_, .empty, rfl⟩
  | cons first rest =>
    by_cases hfirst : first ∈ Statement.beginnings
    · exact .inr (Statement.isBreach_of_ofTokens hfirst h)
    · rw [Statement.ofTokens_of_not_mem hfirst rest] at h
      cases h
      exact .inl ⟨_, .first rest hfirst, rfl⟩

theorem ofTokens_eq_unsupported_iff {tokens : List Token} {beginning : String} :
    Statement.ofTokens tokens = .error (.unsupported beginning) ↔
      Unsupported tokens beginning := by
  refine ⟨fun h => ?_, Unsupported.ofTokens⟩
  rcases unsupported_or_isBreach h with ⟨_, hbeginning, hcause⟩ | hbreach
  · cases hcause
    exact hbeginning
  · cases hbreach

theorem ofTokens_ne_lexical {tokens : List Token} {fault : LexError} :
    Statement.ofTokens tokens ≠ .error (.lexical fault) := by
  intro h
  rcases unsupported_or_isBreach h with ⟨_, _, hcause⟩ | hbreach
  · cases hcause
  · cases hbreach

theorem compile_eq_error_iff {sql : String} {cause : CompileError} :
    compile sql = .error cause ↔ Statement.ofSql sql = .error cause := by
  unfold compile
  cases Statement.ofSql sql <;> simp [Except.map]

/-- The failures of compilation.

* It is a lexical one exactly if the text cannot be cut into tokens, so a text with
  such a fault fails for it, however it begins.
* It is an unsupported statement exactly if there are tokens that begin with no
  statement.  Three keywords are always such a beginning.
* Any other failure is a breach of the grammar, and what was found is the end, a
  token, a number or the number of values of a row of the text.

Faults of settings and of files are errors of another type, so they are none of
these. -/
theorem compile_failures (sql : String) :
    (∀ fault, compile sql = .error (.lexical fault) ↔ Token.tokenize sql = .error fault) ∧
    (∀ beginning, compile sql = .error (.unsupported beginning) ↔
      ∃ tokens, Token.tokenize sql = .ok tokens ∧ Unsupported tokens beginning) ∧
    (∀ word ∈ ["ALTER", "UPDATE", "DELETE"], ∀ rest,
      Token.tokenize sql = .ok (⟨.keyword, word⟩ :: rest) →
        compile sql = .error (.unsupported word)) ∧
    ∀ cause, compile sql = .error cause →
      (∃ fault, cause = .lexical fault) ∨ (∃ beginning, cause = .unsupported beginning) ∨
        ∃ expected found tokens, cause = .unexpected expected found ∧
          Token.tokenize sql = .ok tokens ∧ Describes tokens found.description := by
  simp only [compile_eq_error_iff]
  cases hsql : Token.tokenize sql with
  | error fault => simp [Statement.ofSql_of_lexError hsql]
  | ok tokens =>
    simp only [Statement.ofSql_of_tokenize hsql]
    refine ⟨by simp [ofTokens_ne_lexical], by simp [ofTokens_eq_unsupported_iff], ?_, ?_⟩
    · intro word hword rest htokens
      obtain rfl := Except.ok.inj htokens
      exact (unsupported_of_keyword hword rest).ofTokens
    · intro cause hcause
      rcases unsupported_or_isBreach hcause with ⟨beginning, -, rfl⟩ | hbreach
      · exact .inr (.inl ⟨beginning, rfl⟩)
      · obtain ⟨hfound⟩ := hbreach
        exact .inr (.inr ⟨_, _, tokens, rfl, rfl, hfound⟩)

/-- A keyword without a statement, and a row with a value too many. -/
theorem compile_failures_of_rejected :
    compile "Update t (" = .error (.unsupported "UPDATE") ∧
      ∃ tokens, Token.tokenize "INSERT INTO t (a) VALUES (?, '2')" = .ok tokens ∧
        Describes tokens "2 values" := by
  constructor
  · refine (compile_failures "Update t (").2.2.1 "UPDATE" (by simp)
      [⟨.identifier, "t"⟩, ⟨.symbol, "("⟩] (eq_ok_of_toOption ?_)
    decide +kernel
  · have hsql : Token.tokenize "INSERT INTO t (a) VALUES (?, '2')" =
        .ok [⟨.keyword, "INSERT"⟩, ⟨.keyword, "INTO"⟩, ⟨.identifier, "t"⟩, ⟨.symbol, "("⟩,
          ⟨.identifier, "a"⟩, ⟨.symbol, ")"⟩, ⟨.keyword, "VALUES"⟩, ⟨.symbol, "("⟩,
          ⟨.symbol, "?"⟩, ⟨.symbol, ","⟩, ⟨.literal, "2"⟩, ⟨.symbol, ")"⟩] :=
      eq_ok_of_toOption (by decide +kernel)
    have hcause : compile "INSERT INTO t (a) VALUES (?, '2')" =
        .error (.unexpected (.valueCount 1) (.valueCount 2)) := by
      rw [compile_eq_error_iff, Statement.ofSql_of_tokenize hsql]
      rfl
    have hwording : (Finding.valueCount 2).description = "2 values" := by decide +kernel
    have hkinds := (compile_failures "INSERT INTO t (a) VALUES (?, '2')").2.2.2 _ hcause
    rcases hkinds with ⟨_, h⟩ | ⟨_, h⟩ | ⟨_, _, tokens, h, htokens, hfound⟩
    · cases h
    · cases h
    · cases h
      rw [hwording] at hfound
      exact ⟨tokens, htokens, hfound⟩

end CqlCompiler
