import CqlCompiler.Proofs.Reading.Statements
import Mathlib

/-!
# The grammar of statements

The grammar as languages over tokens: `*` puts phrases in a row, `+` is a
choice, `∗` repeats, and `optional` leaves a phrase out.  The definitions speak
of token lists alone; they know neither statements nor the parser.  Three
conditions are not context-free and are written out: a table has at least one
column, a row has as many values as columns, and integers and row counts are
64-bit words.

`isOk_ofTokens_iff_mem_statement` says that a token list is accepted exactly
when it belongs to this grammar.  The proof goes through the relations of
`CqlCompiler.Proofs.Spelling`: `spellings` forgets what a phrase spells, and the
lemmas below compute the language that is left of each relation.
-/

namespace CqlCompiler.Grammar

open CqlCompiler.Parser CqlCompiler.TokenParser
open scoped Computability

/-! ## Tokens -/

/-- Exactly this keyword. -/
def keyword (text : String) : Language Token :=
  {[⟨.keyword, text⟩]}

/-- Exactly this symbol. -/
def symbol (text : String) : Language Token :=
  {[⟨.symbol, text⟩]}

/-- A keyword or an identifier that is this word in any case. -/
def word (text : String) : Language Token :=
  {tokens | ∃ token : Token, (token.kind = .keyword ∨ token.kind = .identifier) ∧
    Text.lower token.value = Text.lower text ∧ tokens = [token]}

/-- Any identifier. -/
def ident : Language Token :=
  {tokens | ∃ name, tokens = [⟨.identifier, name⟩]}

/-- Any number. -/
def number : Language Token :=
  {tokens | ∃ text, tokens = [⟨.number, text⟩]}

/-- A number that denotes a 64-bit integer with a sign. -/
def integer : Language Token :=
  {tokens | ∃ text n, Text.Numeral.DenotesInteger text n ∧ -2 ^ 63 ≤ n ∧ n < 2 ^ 63 ∧
    tokens = [⟨.number, text⟩]}

/-- A number that denotes a 64-bit integer without a sign. -/
def count : Language Token :=
  {tokens | ∃ text n, Text.Numeral.DenotesCount text n ∧ n < 2 ^ 64 ∧
    tokens = [⟨.number, text⟩]}

/-- Any literal. -/
def literal : Language Token :=
  {tokens | ∃ text, tokens = [⟨.literal, text⟩]}

/-! ## Phrases -/

/-- The phrase or nothing. -/
def optional (phrase : Language Token) : Language Token :=
  1 + phrase

/-- One phrase, and one more after each comma. -/
def list (phrase : Language Token) : Language Token :=
  phrase * (symbol "," * phrase)∗

/-- A value that is not a placeholder. -/
def constant : Language Token :=
  literal + integer + number * symbol "." * number + ident

def value : Language Token :=
  symbol "?" + constant

def constraint : Language Token :=
  word "NOT" * word "NULL" + word "NULL" + word "DEFAULT" * constant
    + keyword "PRIMARY" * keyword "KEY"

def column : Language Token :=
  ident * ident * optional (symbol "(" * list number * symbol ")") * constraint∗

def key : Language Token :=
  keyword "PRIMARY" * keyword "KEY" * symbol "(" * list ident * symbol ")"

/-- Columns and keys with commas between them, of which at least one is a
column. -/
def elements : Language Token :=
  {tokens | ∃ phrases : List (List Token), (∀ phrase ∈ phrases, phrase ∈ column + key) ∧
    (∃ phrase ∈ phrases, phrase ∈ column) ∧
    tokens = [(⟨.symbol, ","⟩ : Token)].intercalate phrases}

def createTable : Language Token :=
  keyword "CREATE" * keyword "TABLE" * optional (keyword "IF" * word "NOT" * keyword "EXISTS")
    * ident * symbol "(" * elements * optional (symbol ",") * symbol ")"

def dropTable : Language Token :=
  keyword "DROP" * keyword "TABLE" * optional (keyword "IF" * keyword "EXISTS") * ident

def condition : Language Token :=
  ident * symbol "=" * value

def limit : Language Token :=
  keyword "LIMIT" * count

def order : Language Token :=
  keyword "ORDER" * keyword "BY" * ident * optional (word "ASC" + word "DESC")

def select : Language Token :=
  keyword "SELECT" * list ident * keyword "FROM" * ident
    * optional (keyword "WHERE" * condition * (keyword "AND" * condition)∗)
    * (optional limit * optional order + optional order * optional limit)

/-- A row of `n + 1` columns and as many values. -/
def insertOf (n : Nat) : Language Token :=
  keyword "INSERT" * keyword "INTO" * ident
    * symbol "(" * (ident * (symbol "," * ident) ^ n) * symbol ")" * keyword "VALUES"
    * symbol "(" * (value * (symbol "," * value) ^ n) * symbol ")"

def insert : Language Token :=
  ⨆ n, insertOf n

/-- A statement and at most one semicolon. -/
def statement : Language Token :=
  (createTable + dropTable + select + insert) * optional (symbol ";")

/-! ## The languages of the relations -/

section Spellings

variable {α : Type} {Spells : List Token → α → Prop} {L : Language Token} {tokens : List Token}

/-- The phrases that spell something. -/
def spellings (Spells : List Token → α → Prop) : Language Token :=
  {tokens | ∃ result, Spells tokens result}

theorem mem_spellings : tokens ∈ spellings Spells ↔ ∃ result, Spells tokens result :=
  Iff.rfl

theorem mem_singleton_mul {token : Token} :
    tokens ∈ ({[token]} : Language Token) * L ↔ ∃ rest ∈ L, tokens = token :: rest := by
  rw [Language.mem_mul]
  constructor
  · intro h
    obtain ⟨_, rfl, rest, hrest, rfl⟩ := h
    exact ⟨rest, hrest, rfl⟩
  · intro h
    obtain ⟨rest, hrest, rfl⟩ := h
    exact ⟨[token], rfl, rest, hrest, rfl⟩

theorem mem_keyword_mul {text : String} :
    tokens ∈ keyword text * L ↔ ∃ rest ∈ L, tokens = ⟨.keyword, text⟩ :: rest :=
  mem_singleton_mul

theorem mem_symbol_mul {text : String} :
    tokens ∈ symbol text * L ↔ ∃ rest ∈ L, tokens = ⟨.symbol, text⟩ :: rest :=
  mem_singleton_mul

theorem mem_ident_mul :
    tokens ∈ ident * L ↔ ∃ name, ∃ rest ∈ L, tokens = ⟨.identifier, name⟩ :: rest := by
  rw [Language.mem_mul]
  constructor
  · intro h
    obtain ⟨_, ⟨name, rfl⟩, rest, hrest, rfl⟩ := h
    exact ⟨name, rest, hrest, rfl⟩
  · intro h
    obtain ⟨name, rest, hrest, rfl⟩ := h
    exact ⟨_, ⟨name, rfl⟩, rest, hrest, rfl⟩

theorem mem_optional : tokens ∈ optional L ↔ tokens = [] ∨ tokens ∈ L := by
  rw [optional, Language.mem_add, Language.mem_one]

theorem mem_word {text : String} :
    tokens ∈ word text ↔ ∃ token : Token, token.isWord text = true ∧ tokens = [token] := by
  simp [word, Token.isWord, Text.equalIgnoringCase, and_assoc]
  rfl

/-- A row of phrases counts as many phrases as results. -/
theorem mem_pow_spellings {n : Nat} :
    tokens ∈ spellings Spells ^ n ↔ ∃ results, Repeated Spells tokens results ∧
      results.length = n := by
  induction n generalizing tokens with
  | zero =>
    rw [pow_zero, Language.mem_one]
    constructor
    · intro h
      subst h
      exact ⟨[], .nil, rfl⟩
    · intro ⟨results, h, hlength⟩
      cases h with
      | nil => rfl
      | cons => simp at hlength
  | succ n ih =>
    rw [pow_succ', Language.mem_mul]
    constructor
    · intro h
      obtain ⟨phrase, ⟨result, hphrase⟩, others, hothers, rfl⟩ := h
      obtain ⟨results, hresults, rfl⟩ := ih.mp hothers
      exact ⟨result :: results, .cons hphrase hresults, rfl⟩
    · intro ⟨results, h, hlength⟩
      cases h with
      | nil => simp at hlength
      | @cons phrase others result results hphrase hothers =>
        refine ⟨phrase, ⟨result, hphrase⟩, others, ih.mpr ⟨results, hothers, ?_⟩, rfl⟩
        simpa using hlength

theorem spellings_repeated : spellings (Repeated Spells) = (spellings Spells)∗ := by
  ext tokens
  rw [Language.kstar_eq_iSup_pow, Language.mem_iSup]
  simp only [mem_pow_spellings, mem_spellings]
  constructor
  · intro ⟨results, h⟩
    exact ⟨results.length, results, h, rfl⟩
  · intro ⟨_, results, h, _⟩
    exact ⟨results, h⟩

theorem spellings_marked (mark : Token) :
    spellings (Marked mark Spells) = {[mark]} * spellings Spells := by
  ext tokens
  rw [mem_singleton_mul]
  constructor
  · intro ⟨result, h⟩
    obtain ⟨hphrase⟩ := h
    exact ⟨_, ⟨result, hphrase⟩, rfl⟩
  · intro h
    obtain ⟨rest, ⟨result, hphrase⟩, rfl⟩ := h
    exact ⟨result, .intro hphrase⟩

theorem spellings_separated (mark : Token) :
    spellings (Separated mark Spells) = spellings Spells * ({[mark]} * spellings Spells)∗ := by
  rw [← spellings_marked, ← spellings_repeated]
  ext tokens
  rw [Language.mem_mul]
  constructor
  · intro h
    obtain ⟨_, @⟨phrase, others, result, results, hphrase, hothers⟩⟩ := h
    exact ⟨phrase, ⟨result, hphrase⟩, others, ⟨results, hothers⟩, rfl⟩
  · intro h
    obtain ⟨phrase, ⟨result, hphrase⟩, others, ⟨results, hothers⟩, rfl⟩ := h
    exact ⟨result :: results, .intro hphrase hothers⟩

theorem spellings_commaSeparated : spellings (CommaSeparated Spells) = list (spellings Spells) :=
  spellings_separated _

theorem spellings_parenthesised :
    spellings (Parenthesised Spells) = symbol "(" * spellings Spells * symbol ")" := by
  ext tokens
  rw [mul_assoc, mem_symbol_mul]
  constructor
  · intro h
    obtain ⟨result, @⟨phrase, _, hphrase⟩⟩ := h
    exact ⟨_, Language.append_mem_mul ⟨result, hphrase⟩ rfl, rfl⟩
  · intro h
    obtain ⟨_, ⟨phrase, ⟨result, hphrase⟩, _, rfl, rfl⟩, rfl⟩ := h
    exact ⟨result, .intro hphrase⟩

theorem repeated_marked_iff {mark : Token} {results : List α} :
    Repeated (Marked mark Spells) tokens results ↔
      ∃ phrases, List.Forall₂ Spells phrases results ∧ tokens = phrases.flatMap (mark :: ·) := by
  constructor
  · intro h
    induction h with
    | nil => exact ⟨[], .nil, rfl⟩
    | cons hmarked _ ih =>
      obtain ⟨hphrase⟩ := hmarked
      obtain ⟨phrases, hphrases, rfl⟩ := ih
      exact ⟨_ :: phrases, .cons hphrase hphrases, rfl⟩
  · intro h
    obtain ⟨phrases, h, rfl⟩ := h
    induction h with
    | nil => exact .nil
    | cons hphrase _ ih => exact .cons (.intro hphrase) ih

/-- A list is its phrases with the mark put between them. -/
theorem separated_iff {mark : Token} {results : List α} :
    Separated mark Spells tokens results ↔
      results ≠ [] ∧ ∃ phrases, List.Forall₂ Spells phrases results ∧
        tokens = [mark].intercalate phrases := by
  constructor
  · intro ⟨hphrase, hothers⟩
    obtain ⟨phrases, hphrases, rfl⟩ := repeated_marked_iff.mp hothers
    exact ⟨by simp, _ :: phrases, .cons hphrase hphrases,
      (intercalate_cons_eq [mark] _ phrases).symm⟩
  · intro h
    obtain ⟨hne, phrases, hphrases, rfl⟩ := h
    cases hphrases with
    | nil => exact absurd rfl hne
    | cons hphrase hothers =>
      rw [intercalate_cons_eq]
      exact .intro hphrase (repeated_marked_iff.mpr ⟨_, hothers, rfl⟩)

end Spellings

theorem spellings_name : spellings SpellsName = ident := by
  ext tokens
  constructor
  · intro ⟨_, h⟩
    cases h
    exact ⟨_, rfl⟩
  · intro h
    obtain ⟨name, rfl⟩ := h
    exact ⟨name, .intro name⟩

theorem spellings_columnName : spellings SpellsColumnName = ident := by
  ext tokens
  constructor
  · intro ⟨_, h⟩
    cases h
    exact ⟨_, rfl⟩
  · intro h
    obtain ⟨name, rfl⟩ := h
    exact ⟨_, .intro name⟩

theorem spellings_number : spellings SpellsNumber = number := by
  ext tokens
  constructor
  · intro ⟨_, h⟩
    cases h
    exact ⟨_, rfl⟩
  · intro h
    obtain ⟨text, rfl⟩ := h
    exact ⟨text, .intro text⟩

/-- Every identifier is a value: one of the two truth values or the word itself. -/
theorem exists_spellsValue_identifier (name : String) :
    ∃ v, v ≠ .placeholder ∧ SpellsValue [⟨.identifier, name⟩] v := by
  by_cases h : ∃ truth, Text.equalIgnoringCase name (Value.boolWord truth) = true
  · obtain ⟨truth, htruth⟩ := h
    exact ⟨.bool truth, by simp, .bool htruth⟩
  · refine ⟨.identifier name, by simp, .identifier fun truth => ?_⟩
    exact Bool.eq_false_iff.mpr fun htruth => h ⟨truth, htruth⟩

theorem mem_constant {tokens : List Token} :
    tokens ∈ constant ↔ ∃ v, v ≠ .placeholder ∧ SpellsValue tokens v := by
  simp only [constant, Language.mem_add]
  constructor
  · intro h
    rcases h with ((⟨text, rfl⟩ | ⟨text, n, hn, hmin, hmax, rfl⟩) | h) | ⟨name, rfl⟩
    · exact ⟨.string text, by simp, .string text⟩
    · refine ⟨.int (.ofInt n), by simp, .int ?_⟩
      rwa [Int64.toInt_ofInt_of_le hmin hmax]
    · rw [mul_assoc] at h
      obtain ⟨_, ⟨whole, rfl⟩, _, hfraction, rfl⟩ := Language.mem_mul.mp h
      obtain ⟨_, ⟨fraction, rfl⟩, rfl⟩ := mem_symbol_mul.mp hfraction
      exact ⟨_, by simp, .decimal whole fraction⟩
    · exact exists_spellsValue_identifier name
  · intro ⟨v, hv, h⟩
    cases h with
    | placeholder => exact absurd rfl hv
    | string text => exact .inl (.inl (.inl ⟨text, rfl⟩))
    | @int text n hn =>
      exact .inl (.inl (.inr ⟨text, n.toInt, hn, n.le_toInt, n.toInt_lt, rfl⟩))
    | decimal whole fraction =>
      have hwhole : [⟨.number, whole⟩] ∈ number := ⟨whole, rfl⟩
      have hfraction : [⟨.symbol, "."⟩, ⟨.number, fraction⟩] ∈ symbol "." * number :=
        mem_symbol_mul.mpr ⟨_, ⟨fraction, rfl⟩, rfl⟩
      refine .inl (.inr ?_)
      rw [mul_assoc]
      exact Language.append_mem_mul hwhole hfraction
    | @bool name => exact .inr ⟨name, rfl⟩
    | @identifier name => exact .inr ⟨name, rfl⟩

theorem spellings_value : spellings SpellsValue = value := by
  ext tokens
  rw [value, Language.mem_add, mem_constant, mem_spellings]
  constructor
  · intro ⟨v, h⟩
    by_cases hv : v = .placeholder
    · subst hv
      cases h
      exact .inl rfl
    · exact .inr ⟨v, hv, h⟩
  · intro h
    rcases h with rfl | ⟨v, -, h⟩
    · exact ⟨_, .placeholder⟩
    · exact ⟨v, h⟩

theorem spellings_clause : spellings SpellsClause = constraint := by
  ext tokens
  simp only [constraint, Language.mem_add, Language.mem_mul, mem_word, mem_constant]
  constructor
  · intro ⟨_, h⟩
    cases h with
    | @notNull no null hno hnull =>
      exact .inl (.inl (.inl ⟨_, ⟨no, hno, rfl⟩, _, ⟨null, hnull, rfl⟩, rfl⟩))
    | @null null hnull => exact .inl (.inl (.inr ⟨null, hnull, rfl⟩))
    | @default word phrase v hword hvalue hconstant =>
      exact .inl (.inr ⟨_, ⟨word, hword, rfl⟩, phrase, ⟨v, hconstant, hvalue⟩, rfl⟩)
    | primaryKey => exact .inr ⟨_, rfl, _, rfl, rfl⟩
  · intro h
    rcases h with ((⟨_, ⟨no, hno, rfl⟩, _, ⟨null, hnull, rfl⟩, rfl⟩ | ⟨null, hnull, rfl⟩) |
      ⟨_, ⟨word, hword, rfl⟩, phrase, ⟨v, hconstant, hvalue⟩, rfl⟩) | ⟨_, rfl, _, rfl, rfl⟩
    · exact ⟨_, .notNull hno hnull⟩
    · exact ⟨_, .null hnull⟩
    · exact ⟨_, .default hword hvalue hconstant⟩
    · exact ⟨_, .primaryKey⟩

theorem spellings_sizes :
    spellings SpellsSizes = optional (symbol "(" * list number * symbol ")") := by
  rw [← spellings_number, ← spellings_commaSeparated, ← spellings_parenthesised]
  ext tokens
  rw [mem_optional]
  constructor
  · intro ⟨_, h⟩
    cases h with
    | none => exact .inl rfl
    | some hsizes => exact .inr ⟨_, hsizes⟩
  · intro h
    rcases h with rfl | ⟨texts, h⟩
    · exact ⟨(), .none⟩
    · exact ⟨(), .some h⟩

theorem mem_column {tokens : List Token} :
    tokens ∈ column ↔ ∃ found inKey, SpellsElement tokens (.column found inKey) := by
  rw [column, ← spellings_sizes, ← spellings_clause, ← spellings_repeated]
  simp only [mul_assoc, mem_ident_mul]
  simp only [Language.mem_mul]
  constructor
  · intro h
    obtain ⟨name, _, ⟨typeName, _, ⟨sizes, ⟨_, hsizes⟩, remarks, ⟨clauses, hclauses⟩, rfl⟩, rfl⟩,
      rfl⟩ := h
    exact ⟨_, _, .column name typeName hsizes hclauses⟩
  · intro ⟨_, _, h⟩
    cases h with
    | column name typeName hsizes hclauses =>
      exact ⟨name, _, ⟨typeName, _, ⟨_, ⟨_, hsizes⟩, _, ⟨_, hclauses⟩, rfl⟩, rfl⟩, rfl⟩

theorem mem_key {tokens : List Token} :
    tokens ∈ key ↔ ∃ names, SpellsElement tokens (.primaryKey names) := by
  have hkey : key = keyword "PRIMARY" * (keyword "KEY" *
      spellings (Parenthesised (CommaSeparated SpellsName))) := by
    rw [spellings_parenthesised, spellings_commaSeparated, spellings_name, key]
    simp only [mul_assoc]
  rw [hkey]
  simp only [mem_keyword_mul]
  constructor
  · intro h
    obtain ⟨_, ⟨phrase, ⟨names, hnames⟩, rfl⟩, rfl⟩ := h
    exact ⟨names, .primaryKey hnames⟩
  · intro ⟨names, h⟩
    cases h with
    | primaryKey hnames => exact ⟨_, ⟨_, ⟨names, hnames⟩, rfl⟩, rfl⟩

theorem mem_column_add_key {tokens : List Token} :
    tokens ∈ column + key ↔ ∃ element, SpellsElement tokens element := by
  rw [Language.mem_add, mem_column, mem_key]
  constructor
  · intro h
    rcases h with ⟨_, _, h⟩ | ⟨_, h⟩
    · exact ⟨_, h⟩
    · exact ⟨_, h⟩
  · intro ⟨element, h⟩
    cases element with
    | column found inKey => exact .inl ⟨found, inKey, h⟩
    | primaryKey names => exact .inr ⟨names, h⟩

/-- Phrases of elements hold a column exactly when the elements do. -/
theorem exists_mem_column_iff {phrases : List (List Token)} {parts : List TableElement}
    (h : List.Forall₂ SpellsElement phrases parts) :
    (∃ phrase ∈ phrases, phrase ∈ column) ↔ columnsOf parts ≠ [] := by
  induction h with
  | nil => simp [columnsOf]
  | @cons phrase part phrases parts hphrase _ ih =>
    rw [List.exists_mem_cons_iff, ih]
    cases part with
    | column found inKey =>
      have hcolumn : phrase ∈ column := mem_column.mpr ⟨found, inKey, hphrase⟩
      simp [hcolumn, columnsOf]
    | primaryKey names =>
      have hcolumn : phrase ∉ column := by
        intro hcolumn
        obtain ⟨found, inKey, hfound⟩ := mem_column.mp hcolumn
        cases hphrase
        cases hfound
      simp [hcolumn, columnsOf]

theorem exists_forall₂_spellsElement {phrases : List (List Token)} :
    (∀ phrase ∈ phrases, phrase ∈ column + key) ↔
      ∃ parts, List.Forall₂ SpellsElement phrases parts := by
  induction phrases with
  | nil => simp
  | cons phrase phrases ih =>
    rw [List.forall_mem_cons, ih, mem_column_add_key]
    constructor
    · intro ⟨⟨part, hpart⟩, parts, hparts⟩
      exact ⟨part :: parts, .cons hpart hparts⟩
    · intro ⟨parts, h⟩
      cases h with
      | cons hpart hparts => exact ⟨⟨_, hpart⟩, _, hparts⟩

theorem mem_elements {tokens : List Token} :
    tokens ∈ elements ↔
      ∃ parts, CommaSeparated SpellsElement tokens parts ∧ columnsOf parts ≠ [] := by
  constructor
  · intro h
    obtain ⟨phrases, hphrases, hcolumn, rfl⟩ := h
    obtain ⟨parts, hparts⟩ := exists_forall₂_spellsElement.mp hphrases
    have hcolumns := (exists_mem_column_iff hparts).mp hcolumn
    have hne : parts ≠ [] := by
      intro h
      subst h
      exact hcolumns rfl
    exact ⟨parts, separated_iff.mpr ⟨hne, phrases, hparts, rfl⟩, hcolumns⟩
  · intro ⟨parts, h, hcolumns⟩
    obtain ⟨-, phrases, hparts, rfl⟩ := separated_iff.mp h
    exact ⟨phrases, exists_forall₂_spellsElement.mpr ⟨parts, hparts⟩,
      (exists_mem_column_iff hparts).mpr hcolumns, rfl⟩

theorem spellings_ifNotExists :
    spellings SpellsIfNotExists = optional (keyword "IF" * word "NOT" * keyword "EXISTS") := by
  ext tokens
  simp only [mem_optional, mul_assoc, mem_keyword_mul]
  simp only [Language.mem_mul, mem_word]
  constructor
  · intro ⟨_, h⟩
    cases h with
    | absent => exact .inl rfl
    | @present no hno => exact .inr ⟨_, ⟨_, ⟨no, hno, rfl⟩, _, rfl, rfl⟩, rfl⟩
  · intro h
    rcases h with rfl | ⟨_, ⟨_, ⟨no, hno, rfl⟩, _, rfl, rfl⟩, rfl⟩
    · exact ⟨false, .absent⟩
    · exact ⟨true, .present hno⟩

/-- The body of a table that has a column. -/
theorem mem_elements_mul_optional {tokens : List Token} :
    tokens ∈ elements * optional (symbol ",") ↔
      ∃ parts, SpellsElements tokens parts ∧ columnsOf parts ≠ [] := by
  rw [Language.mem_mul]
  simp only [mem_elements, mem_optional]
  constructor
  · intro ⟨phrase, ⟨parts, hparts, hcolumns⟩, comma, hcomma, htokens⟩
    subst htokens
    obtain rfl | rfl := hcomma
    · rw [List.append_nil]
      exact ⟨parts, .plain hparts, hcolumns⟩
    · exact ⟨parts, .comma hparts, hcolumns⟩
  · intro ⟨parts, h, hcolumns⟩
    cases h with
    | plain hparts => exact ⟨tokens, ⟨parts, hparts, hcolumns⟩, [], .inl rfl, by simp⟩
    | comma hparts => exact ⟨_, ⟨parts, hparts, hcolumns⟩, _, .inr rfl, rfl⟩

theorem spellings_createTable : spellings SpellsCreateTable = createTable := by
  have hbody : createTable = keyword "CREATE" * (keyword "TABLE" * (spellings SpellsIfNotExists *
      (ident * (symbol "(" * (elements * optional (symbol ",") * symbol ")"))))) := by
    rw [createTable, ← spellings_ifNotExists]
    simp only [mul_assoc]
  ext tokens
  rw [hbody]
  simp only [mem_keyword_mul]
  constructor
  · intro ⟨_, h⟩
    obtain ⟨table, hguard, hparts, hcolumns⟩ := h
    have hclosed := Language.append_mem_mul (mem_elements_mul_optional.mpr ⟨_, hparts, hcolumns⟩)
      (show [⟨.symbol, ")"⟩] ∈ symbol ")" from rfl)
    refine ⟨_, ⟨_, Language.append_mem_mul ⟨_, hguard⟩ ?_, rfl⟩, rfl⟩
    exact mem_ident_mul.mpr ⟨table, _, mem_symbol_mul.mpr ⟨_, hclosed, rfl⟩, rfl⟩
  · intro ⟨_, ⟨_, h, htable⟩, hcreate⟩
    obtain ⟨guard, ⟨_, hguard⟩, _, hname, rfl⟩ := Language.mem_mul.mp h
    obtain ⟨table, _, hopen, rfl⟩ := mem_ident_mul.mp hname
    obtain ⟨_, hclosed, rfl⟩ := mem_symbol_mul.mp hopen
    obtain ⟨body, hbody, _, rfl, rfl⟩ := Language.mem_mul.mp hclosed
    obtain ⟨parts, hparts, hcolumns⟩ := mem_elements_mul_optional.mp hbody
    rw [hcreate, htable]
    exact ⟨_, .intro table hguard hparts hcolumns⟩

theorem spellings_ifExists :
    spellings SpellsIfExists = optional (keyword "IF" * keyword "EXISTS") := by
  ext tokens
  simp only [mem_optional, mem_keyword_mul]
  constructor
  · intro ⟨_, h⟩
    cases h with
    | absent => exact .inl rfl
    | present => exact .inr ⟨_, rfl, rfl⟩
  · intro h
    rcases h with rfl | ⟨_, rfl, rfl⟩
    · exact ⟨false, .absent⟩
    · exact ⟨true, .present⟩

theorem spellings_dropTable : spellings SpellsDropTable = dropTable := by
  ext tokens
  rw [dropTable, ← spellings_ifExists]
  simp only [mul_assoc, mem_keyword_mul]
  constructor
  · intro h
    obtain ⟨_, @⟨guard, ifExists, table, hguard⟩⟩ := h
    exact ⟨_, ⟨_, Language.append_mem_mul ⟨_, hguard⟩ ⟨table, rfl⟩, rfl⟩, rfl⟩
  · intro h
    obtain ⟨_, ⟨_, ⟨guard, ⟨_, hguard⟩, _, ⟨table, rfl⟩, rfl⟩, rfl⟩, rfl⟩ := h
    exact ⟨_, .intro table hguard⟩

theorem spellings_condition : spellings SpellsCondition = condition := by
  rw [condition, ← spellings_value]
  ext tokens
  simp only [mul_assoc, mem_ident_mul, mem_symbol_mul]
  constructor
  · intro ⟨_, h⟩
    obtain ⟨hcolumn, hvalue⟩ := h
    obtain ⟨name⟩ := hcolumn
    exact ⟨name, _, ⟨_, ⟨_, hvalue⟩, rfl⟩, rfl⟩
  · intro ⟨name, _, ⟨phrase, ⟨_, hvalue⟩, hequals⟩, hname⟩
    rw [hname, hequals]
    exact ⟨_, .intro (.intro name) hvalue⟩

theorem spellings_conditions :
    spellings SpellsConditions =
      optional (keyword "WHERE" * condition * (keyword "AND" * condition)∗) := by
  rw [mul_assoc, ← spellings_condition, keyword, keyword, ← spellings_separated]
  ext tokens
  rw [mem_optional, mem_singleton_mul]
  constructor
  · intro ⟨_, h⟩
    cases h with
    | absent => exact .inl rfl
    | present hconditions => exact .inr ⟨_, ⟨_, hconditions⟩, rfl⟩
  · intro h
    obtain rfl | ⟨_, ⟨_, hconditions⟩, rfl⟩ := h
    · exact ⟨[], .absent⟩
    · exact ⟨_, .present hconditions⟩

theorem spellings_limit : spellings SpellsLimit = limit := by
  ext tokens
  rw [limit, mem_keyword_mul]
  constructor
  · intro ⟨rows, h⟩
    cases h with
    | @intro text _ hrows => exact ⟨_, ⟨text, rows.toNat, hrows, rows.toNat_lt, rfl⟩, rfl⟩
  · intro ⟨_, ⟨text, n, hrows, hn, hnumber⟩, hlimit⟩
    rw [hlimit, hnumber]
    refine ⟨.ofNat n, .intro ?_⟩
    rwa [UInt64.toNat_ofNat_of_lt' hn]

theorem spellings_order : spellings SpellsOrder = order := by
  ext tokens
  simp only [order, mul_assoc, mem_keyword_mul, mem_ident_mul, mem_optional, Language.mem_add,
    mem_word]
  constructor
  · intro ⟨_, h⟩
    obtain ⟨hcolumn, hdirection⟩ := h
    obtain ⟨name⟩ := hcolumn
    refine ⟨_, ⟨_, ⟨name, _, ?_, rfl⟩, rfl⟩, rfl⟩
    cases hdirection with
    | unsaid => exact .inl rfl
    | ascending hword => exact .inr (.inl ⟨_, hword, rfl⟩)
    | descending hword => exact .inr (.inr ⟨_, hword, rfl⟩)
  · intro ⟨_, ⟨_, ⟨name, _, hdirection, hname⟩, hby⟩, horder⟩
    rw [horder, hby, hname]
    obtain rfl | ⟨word, hword, rfl⟩ | ⟨word, hword, rfl⟩ := hdirection
    · exact ⟨_, .intro (.intro name) .unsaid⟩
    · exact ⟨_, .intro (.intro name) (.ascending hword)⟩
    · exact ⟨_, .intro (.intro name) (.descending hword)⟩

theorem mem_options {tokens : List Token} :
    tokens ∈ optional limit * optional order + optional order * optional limit ↔
      ∃ rows sorting, SpellsOptions tokens rows sorting := by
  rw [← spellings_limit, ← spellings_order]
  simp only [Language.mem_add, Language.mem_mul, mem_optional, mem_spellings]
  constructor
  · intro h
    obtain ⟨_, rfl | ⟨rows, hrows⟩, _, rfl | ⟨sorting, hsorting⟩, rfl⟩ |
      ⟨_, rfl | ⟨sorting, hsorting⟩, _, rfl | ⟨rows, hrows⟩, rfl⟩ := h
    · exact ⟨none, none, .none⟩
    · exact ⟨none, some sorting, .order hsorting⟩
    · rw [List.append_nil]
      exact ⟨some rows, none, .limit hrows⟩
    · exact ⟨some rows, some sorting, .limitOrder hrows hsorting⟩
    · exact ⟨none, none, .none⟩
    · exact ⟨some rows, none, .limit hrows⟩
    · rw [List.append_nil]
      exact ⟨none, some sorting, .order hsorting⟩
    · exact ⟨some rows, some sorting, .orderLimit hsorting hrows⟩
  · intro ⟨_, _, h⟩
    cases h with
    | none => exact .inl ⟨[], .inl rfl, [], .inl rfl, rfl⟩
    | limit hrows => exact .inl ⟨tokens, .inr ⟨_, hrows⟩, [], .inl rfl, by simp⟩
    | order hsorting => exact .inl ⟨[], .inl rfl, tokens, .inr ⟨_, hsorting⟩, rfl⟩
    | limitOrder hrows hsorting => exact .inl ⟨_, .inr ⟨_, hrows⟩, _, .inr ⟨_, hsorting⟩, rfl⟩
    | orderLimit hsorting hrows => exact .inr ⟨_, .inr ⟨_, hsorting⟩, _, .inr ⟨_, hrows⟩, rfl⟩

theorem spellings_select : spellings SpellsSelect = select := by
  rw [select, ← spellings_columnName, ← spellings_commaSeparated, spellings_columnName,
    ← spellings_conditions]
  ext tokens
  simp only [mul_assoc, mem_keyword_mul]
  constructor
  · intro ⟨_, h⟩
    obtain ⟨table, hnames, hconditions, hoptions⟩ := h
    have hoptions := mem_options.mpr ⟨_, _, hoptions⟩
    refine ⟨_, Language.append_mem_mul ⟨_, hnames⟩ (mem_keyword_mul.mpr ⟨_, ?_, rfl⟩), rfl⟩
    exact mem_ident_mul.mpr ⟨table, _, Language.append_mem_mul ⟨_, hconditions⟩ hoptions, rfl⟩
  · intro ⟨_, h, hselect⟩
    obtain ⟨projected, ⟨_, hnames⟩, _, hfrom, rfl⟩ := Language.mem_mul.mp h
    obtain ⟨_, hname, rfl⟩ := mem_keyword_mul.mp hfrom
    obtain ⟨table, _, htail, rfl⟩ := mem_ident_mul.mp hname
    obtain ⟨filters, ⟨_, hconditions⟩, options, hoptions, rfl⟩ := Language.mem_mul.mp htail
    obtain ⟨_, _, hoptions⟩ := mem_options.mp hoptions
    rw [hselect]
    exact ⟨_, .intro table hnames hconditions hoptions⟩

/-- A list of `n + 1` phrases spells as many results. -/
theorem mem_mul_pow_marked {α : Type} {Spells : List Token → α → Prop} {tokens : List Token}
    {n : Nat} :
    tokens ∈ spellings Spells * (symbol "," * spellings Spells) ^ n ↔
      ∃ results, CommaSeparated Spells tokens results ∧ results.length = n + 1 := by
  rw [symbol, ← spellings_marked, Language.mem_mul]
  simp only [mem_pow_spellings]
  constructor
  · intro ⟨phrase, ⟨result, hphrase⟩, others, ⟨results, hothers, hlength⟩, htokens⟩
    subst htokens hlength
    exact ⟨result :: results, .intro hphrase hothers, rfl⟩
  · intro ⟨_, h, hlength⟩
    obtain ⟨hphrase, hothers⟩ := h
    exact ⟨_, ⟨_, hphrase⟩, _, ⟨_, hothers, by simpa using hlength⟩, rfl⟩

/-- The same between two parentheses. -/
theorem mem_parenthesised_mul_pow {α : Type} {Spells : List Token → α → Prop}
    {tokens : List Token} {n : Nat} :
    tokens ∈ symbol "(" * ((spellings Spells * (symbol "," * spellings Spells) ^ n) * symbol ")") ↔
      ∃ results, Parenthesised (CommaSeparated Spells) tokens results ∧
        results.length = n + 1 := by
  rw [mem_symbol_mul]
  constructor
  · intro ⟨_, h, hopen⟩
    obtain ⟨phrase, hphrase, _, rfl, rfl⟩ := Language.mem_mul.mp h
    obtain ⟨results, hresults, hlength⟩ := mem_mul_pow_marked.mp hphrase
    rw [hopen]
    exact ⟨results, .intro hresults, hlength⟩
  · intro ⟨results, h, hlength⟩
    obtain ⟨hresults⟩ := h
    exact ⟨_, Language.append_mem_mul (mem_mul_pow_marked.mpr ⟨_, hresults, hlength⟩) rfl, rfl⟩

theorem mem_insertOf {tokens : List Token} {n : Nat} :
    tokens ∈ insertOf n ↔ ∃ row, SpellsInsert tokens row ∧ row.values.length = n + 1 := by
  have hrow : insertOf n = keyword "INSERT" * (keyword "INTO" * (ident *
      ((symbol "(" * ((spellings SpellsName * (symbol "," * spellings SpellsName) ^ n)
          * symbol ")")) * (keyword "VALUES" *
        (symbol "(" * ((spellings SpellsValue * (symbol "," * spellings SpellsValue) ^ n)
          * symbol ")")))))) := by
    rw [insertOf, spellings_name, spellings_value]
    simp only [mul_assoc]
  rw [hrow]
  simp only [mem_keyword_mul, mem_ident_mul]
  constructor
  · intro ⟨_, ⟨_, ⟨table, _, h, htable⟩, hinto⟩, hinsert⟩
    obtain ⟨left, hleft, _, htail, rfl⟩ := Language.mem_mul.mp h
    obtain ⟨right, hright, rfl⟩ := mem_keyword_mul.mp htail
    obtain ⟨columns, hcolumns, hcolumnCount⟩ := mem_parenthesised_mul_pow.mp hleft
    obtain ⟨values, hvalues, hvalueCount⟩ := mem_parenthesised_mul_pow.mp hright
    rw [hinsert, hinto, htable]
    exact ⟨_, .intro table hcolumns hvalues (hcolumnCount.trans hvalueCount.symm), hvalueCount⟩
  · intro ⟨row, h, hlength⟩
    obtain ⟨table, hcolumns, hvalues, hcount⟩ := h
    have hleft := mem_parenthesised_mul_pow.mpr ⟨_, hcolumns, hcount.trans hlength⟩
    have hright := mem_parenthesised_mul_pow.mpr ⟨_, hvalues, hlength⟩
    refine ⟨_, ⟨_, ⟨table, _, Language.append_mem_mul hleft ?_, rfl⟩, rfl⟩, rfl⟩
    exact mem_keyword_mul.mpr ⟨_, hright, rfl⟩

/-- A list of values is not empty. -/
theorem values_ne_nil {tokens : List Token} {row : Insert} (h : SpellsInsert tokens row) :
    row.values ≠ [] := by
  obtain ⟨_, _, hvalues, _⟩ := h
  obtain ⟨hvalues⟩ := hvalues
  cases hvalues with
  | intro => simp

theorem spellings_insert : spellings SpellsInsert = insert := by
  ext tokens
  rw [insert, Language.mem_iSup]
  simp only [mem_insertOf]
  constructor
  · intro ⟨row, h⟩
    obtain ⟨n, hn⟩ := Nat.exists_eq_add_one_of_ne_zero
      (List.length_eq_zero_iff.not.mpr (values_ne_nil h))
    exact ⟨n, row, h, hn⟩
  · intro ⟨_, row, h, _⟩
    exact ⟨row, h⟩

theorem spellings_bare :
    spellings SpellsBare = createTable + dropTable + select + insert := by
  rw [← spellings_createTable, ← spellings_dropTable, ← spellings_select, ← spellings_insert]
  ext tokens
  simp only [Language.mem_add, mem_spellings]
  constructor
  · intro ⟨_, h⟩
    cases h with
    | createTable h => exact .inl (.inl (.inl ⟨_, h⟩))
    | dropTable h => exact .inl (.inl (.inr ⟨_, h⟩))
    | select h => exact .inl (.inr ⟨_, h⟩)
    | insert h => exact .inr ⟨_, h⟩
  · intro h
    obtain ((⟨_, h⟩ | ⟨_, h⟩) | ⟨_, h⟩) | ⟨_, h⟩ := h
    · exact ⟨_, .createTable h⟩
    · exact ⟨_, .dropTable h⟩
    · exact ⟨_, .select h⟩
    · exact ⟨_, .insert h⟩

theorem spellings_statement : spellings SpellsStatement = statement := by
  rw [statement, ← spellings_bare]
  ext tokens
  simp only [Language.mem_mul, mem_optional]
  constructor
  · intro ⟨_, h⟩
    cases h with
    | plain h => exact ⟨tokens, ⟨_, h⟩, [], .inl rfl, by simp⟩
    | semicolon h => exact ⟨_, ⟨_, h⟩, _, .inr rfl, rfl⟩
  · intro ⟨phrase, ⟨result, h⟩, semicolon, hsemicolon, htokens⟩
    subst htokens
    obtain rfl | rfl := hsemicolon
    · rw [List.append_nil]
      exact ⟨result, .plain h⟩
    · exact ⟨result, .semicolon h⟩

/-! ## The parser and the grammar -/

/-- Tokens of any kinds and texts are read as a statement exactly when they are
a phrase of the grammar. -/
theorem isOk_ofTokens_iff_mem_statement (tokens : List Token) :
    (∃ result, Statement.ofTokens tokens = .ok result) ↔ tokens ∈ statement := by
  rw [← spellings_statement, mem_spellings]
  simp only [Statement.ofTokens_eq_ok_iff]

end CqlCompiler.Grammar
