import CqlCompiler.Proofs.Characters
import CqlCompiler.Proofs.Reading.Statements

/-!
# Tokens in another spelling

What a statement is does not depend on all of the texts of its tokens.  A word
may be written in another case, and a literal may hold anything.  A `Respelling`
is such a change: if the tokens of a statement are respelled, the names, words
and strings of the statement are respelled in the same places and all else stays
as it is, and a token list that is no statement fails for a cause of the same
kind.

There are four groups.

* Renamed items.  `Mirrors` says that a parser does on renamed items what
  another one does on the items themselves.  There is a rule for each way to
  build a parser.
* Spellings.  `CaseChange` changes the case of letters, and its lemmas say that
  a word stays the same word and a star alone stays a star.  `Respelling` adds
  the contents of literals.
* Phrases.  `Respells` is `Mirrors` for a respelling, with one lemma for each
  phrase of the grammar.
* Statements.  `Statement.ofTokens_respell` is the result.
-/

namespace CqlCompiler

/-! ## Renamed items -/

namespace Parser

variable {τ ε α β : Type}

/-- An outcome and what it becomes if the items are renamed: the result is
converted and the items that are left are renamed, and an error may become
another one that is alike. -/
inductive Mirrored (rename : τ → τ) (Alike : ε → ε → Prop) (convert : α → α) :
    Except ε (α × List τ) → Except ε (α × List τ) → Prop where
  | ok (result : α) (rest : List τ) :
      Mirrored rename Alike convert (.ok (result, rest)) (.ok (convert result, rest.map rename))
  | error {cause cause' : ε} (h : Alike cause cause') :
      Mirrored rename Alike convert (.error cause) (.error cause')

/-- The second parser does on renamed items what the first one does. -/
def Mirrors (rename : τ → τ) (Alike : ε → ε → Prop) (convert : α → α)
    (parser parser' : Parser τ ε α) : Prop :=
  ∀ items, Mirrored rename Alike convert (parser items) (parser' (items.map rename))

section Mirrors

variable {rename : τ → τ} {Alike : ε → ε → Prop} {convert : α → α} {convert' : β → β}

theorem mirrored_ok {result result' : α} (h : result' = convert result) (rest : List τ) :
    Mirrored rename Alike convert (.ok (result, rest)) (.ok (result', rest.map rename)) := by
  rw [h]
  exact .ok result rest

theorem mirrors_pure {result result' : α} (h : result' = convert result) :
    Mirrors rename Alike convert (pure result) (pure result') :=
  fun items => mirrored_ok h items

theorem mirrors_throw {cause cause' : ε} (h : Alike cause cause') :
    Mirrors rename Alike convert (throw cause) (throw cause') :=
  fun _ => .error h

theorem Mirrors.bind {parser parser' : Parser τ ε α} {next next' : α → Parser τ ε β}
    (h : Mirrors rename Alike convert parser parser')
    (hnext : ∀ result, Mirrors rename Alike convert' (next result) (next' (convert result))) :
    Mirrors rename Alike convert' (parser >>= next) (parser' >>= next') := by
  intro items
  have houtcome := h items
  change Mirrored _ _ _ ((parser items).bind _) ((parser' (items.map rename)).bind _)
  generalize parser items = outcome, parser' (items.map rename) = outcome' at houtcome
  cases houtcome with
  | ok result rest => exact hnext result rest
  | error hcause => exact .error hcause

theorem Mirrors.map {parser parser' : Parser τ ε α} {f f' : α → β}
    (h : Mirrors rename Alike convert parser parser')
    (hf : ∀ result, f' (convert result) = convert' (f result)) :
    Mirrors rename Alike convert' (f <$> parser) (f' <$> parser') := by
  rw [← bind_pure_comp, ← bind_pure_comp]
  exact h.bind fun result => mirrors_pure (hf result)

/-- A question that renaming does not change is answered alike. -/
theorem Mirrors.bind_bool {parser parser' : Parser τ ε Bool} {next next' : Bool → Parser τ ε β}
    (h : Mirrors rename Alike id parser parser')
    (htrue : Mirrors rename Alike convert' (next true) (next' true))
    (hfalse : Mirrors rename Alike convert' (next false) (next' false)) :
    Mirrors rename Alike convert' (parser >>= next) (parser' >>= next') :=
  h.bind fun result => by cases result with
    | true => exact htrue
    | false => exact hfalse

theorem Mirrors.ite {c : Prop} [Decidable c] {parser parser' other other' : Parser τ ε α}
    (h : Mirrors rename Alike convert parser parser')
    (hother : Mirrors rename Alike convert other other') :
    Mirrors rename Alike convert (if c then parser else other) (if c then parser' else other') := by
  split
  · exact h
  · exact hother

/-- The items themselves, in what depends on them. -/
theorem mirrors_bind_get {next next' : List τ → Parser τ ε β}
    (h : ∀ items, Mirrored rename Alike convert' (next items items)
      (next' (items.map rename) (items.map rename))) :
    Mirrors rename Alike convert' (get >>= next) (get >>= next') :=
  fun items => h items

theorem mirrors_peek? : Mirrors rename Alike (Option.map rename) peek? peek? := by
  refine mirrors_bind_get fun items => ?_
  cases items with
  | nil => exact .ok none []
  | cons item items => exact .ok (some item) (item :: items)

theorem mirrors_takeIf? {p : τ → Bool} (hp : ∀ item, p (rename item) = p item) :
    Mirrors rename Alike (Option.map rename) (takeIf? p) (takeIf? p) := by
  refine mirrors_bind_get fun items => ?_
  cases items with
  | nil => exact .ok none []
  | cons item items =>
    rw [List.map_cons]
    dsimp only
    rw [hp item]
    cases p item with
    | false => exact .ok none (item :: items)
    | true => exact .ok (some item) items

theorem mirrors_skipIf {p : τ → Bool} (hp : ∀ item, p (rename item) = p item) :
    Mirrors rename Alike id (skipIf p) (skipIf p) := by
  refine (mirrors_takeIf? hp).bind fun found => mirrors_pure ?_
  cases found <;> rfl

theorem mirrored_manyWithin {step step' : Parser τ ε (Option α)}
    (h : Mirrors rename Alike (Option.map convert) step step') (budget items : List τ) :
    Mirrored rename Alike (List.map convert) (manyWithin step budget items)
      (manyWithin step' (budget.map rename) (items.map rename)) := by
  -- only the length of the budget counts, and renaming keeps it
  induction budget generalizing items with
  | nil =>
    have houtcome := h items
    rw [List.map_nil, manyWithin, manyWithin]
    generalize step items = outcome, step' (items.map rename) = outcome' at houtcome
    cases houtcome with
    | error hcause => exact .error hcause
    | ok result rest =>
      cases result with
      | none => exact .ok [] rest
      | some result => exact .ok [result] rest
  | cons item budget ih =>
    have houtcome := h items
    rw [List.map_cons, manyWithin, manyWithin]
    generalize step items = outcome, step' (items.map rename) = outcome' at houtcome
    cases houtcome with
    | error hcause => exact .error hcause
    | ok result rest =>
      cases result with
      | none => exact .ok [] rest
      | some result =>
        have hothers := ih rest
        dsimp only [Option.map]
        generalize manyWithin step budget rest = outcome,
          manyWithin step' (budget.map rename) (rest.map rename) = outcome' at hothers
        cases hothers with
        | error hcause => exact .error hcause
        | ok results rest' => exact .ok (result :: results) rest'

theorem Mirrors.many {step step' : Parser τ ε (Option α)}
    (h : Mirrors rename Alike (Option.map convert) step step') :
    Mirrors rename Alike (List.map convert) (many step) (many step') :=
  fun items => mirrored_manyWithin h items items

theorem Mirrors.sepBy1 {item item' : Parser τ ε α} {separator separator' : Parser τ ε Bool}
    (hitem : Mirrors rename Alike convert item item')
    (hseparator : Mirrors rename Alike id separator separator') :
    Mirrors rename Alike (List.map convert) (sepBy1 item separator) (sepBy1 item' separator') := by
  have hnext : Mirrors rename Alike (Option.map convert) (nextItem item separator)
      (nextItem item' separator') :=
    hseparator.bind_bool (hitem.map fun _ => rfl) (mirrors_pure rfl)
  rw [sepBy1_eq, sepBy1_eq]
  exact hitem.bind fun first => hnext.many.bind fun others => mirrors_pure rfl

end Mirrors

end Parser

/-! ## Spellings -/

/-- A change of letters to another case, letter by letter. -/
structure CaseChange where
  letter : Char → Char
  toLower_letter : ∀ c, (letter c).toLower = c.toLower

namespace CaseChange

variable (change : CaseChange)

/-- The text with its letters in the other case. -/
def text (text : String) : String :=
  String.ofList (text.toList.map change.letter)

/-- A property that all letters have, or none, is kept. -/
theorem apply_letter {α : Type} {p : Char → α} {a : α} (hp : ∀ c, c.isAlpha = true → p c = a)
    (c : Char) : p (change.letter c) = p c :=
  Text.eq_of_toLower_eq hp (change.toLower_letter c)

theorem letter_eq_iff {d : Char} (hd : d.isAlpha = false) (c : Char) :
    change.letter c = d ↔ c = d := by
  have hne : ∀ c, c.isAlpha = true → (c == d) = false := by
    intro c hc
    rw [beq_eq_false_iff_ne]
    rintro rfl
    simp [hc] at hd
  have hsame : (change.letter c == d) = (c == d) := change.apply_letter hne c
  rw [← beq_iff_eq, hsame, beq_iff_eq]

@[simp] theorem toList_text (text : String) :
    (change.text text).toList = text.toList.map change.letter :=
  String.toList_ofList

@[simp] theorem lower_text (text : String) : Text.lower (change.text text) = Text.lower text := by
  rw [Text.lower, toList_text, List.map_map, Text.lower]
  congr 1
  exact List.map_congr_left fun c _ => change.toLower_letter c

@[simp] theorem equalIgnoringCase_text (text word : String) :
    Text.equalIgnoringCase (change.text text) word = Text.equalIgnoringCase text word := by
  rw [Text.equalIgnoringCase, lower_text, Text.equalIgnoringCase]

@[simp] theorem ofName_text (word : String) :
    ColumnType.ofName (change.text word) = ColumnType.ofName word := by
  rw [ColumnType.ofName, lower_text, ColumnType.ofName]

/-- No dot comes or goes, so the qualifier of a name is the same. -/
theorem unqualified_text (name : String) :
    Text.unqualified (change.text name) = change.text (Text.unqualified name) := by
  have hdot : (fun c => decide (c ≠ '.')) ∘ change.letter = fun c => decide (c ≠ '.') := by
    funext c
    simp only [Function.comp_apply, ne_eq, change.letter_eq_iff (show '.'.isAlpha = false from rfl)]
  rw [Text.unqualified, toList_text, ← List.map_reverse, List.takeWhile_map, hdot,
    ← List.map_reverse, text, Text.unqualified, String.toList_ofList]

theorem text_eq_star_iff {name : String} : change.text name = "*" ↔ name = "*" := by
  have hstar : change.letter '*' = '*' :=
    (change.letter_eq_iff (show '*'.isAlpha = false from rfl) '*').mpr rfl
  rw [← String.toList_inj, ← String.toList_inj, toList_text]
  change List.map change.letter name.toList = ['*'] ↔ name.toList = ['*']
  rw [List.map_eq_singleton_iff]
  constructor
  · intro ⟨c, hname, hc⟩
    rw [hname, (change.letter_eq_iff (show '*'.isAlpha = false from rfl) c).mp hc]
  · intro hname
    exact ⟨'*', hname, hstar⟩

/-- A list of columns is a star alone in either case. -/
theorem map_text_eq_star_iff {names : List String} :
    names.map change.text = ["*"] ↔ names = ["*"] := by
  rw [List.map_eq_singleton_iff]
  constructor
  · intro ⟨name, hnames, hname⟩
    rw [hnames, change.text_eq_star_iff.mp hname]
  · intro hnames
    exact ⟨"*", hnames, change.text_eq_star_iff.mpr rfl⟩

end CaseChange

/-- Words in another case, and literals with other contents. -/
structure Respelling extends CaseChange where
  contents : String → String

/-- The token in the other spelling.  Keywords, numbers and symbols have one
spelling only. -/
def Token.respell (r : Respelling) (token : Token) : Token :=
  match token.kind with
  | .identifier => ⟨.identifier, r.text token.value⟩
  | .literal => ⟨.literal, r.contents token.value⟩
  | .keyword | .number | .symbol => token

namespace Token

variable {r : Respelling}

/-- The kinds of tokens with one spelling only. -/
def IsFixed (kind : TokenKind) : Prop :=
  kind ≠ .identifier ∧ kind ≠ .literal

theorem respell_of_isFixed {token : Token} (h : IsFixed token.kind) : token.respell r = token := by
  obtain ⟨hidentifier, hliteral⟩ := h
  unfold respell
  split
  · contradiction
  · contradiction
  · rfl
  · rfl
  · rfl

@[simp] theorem kind_respell (token : Token) : (token.respell r).kind = token.kind := by
  obtain ⟨kind, value⟩ := token
  cases kind <;> rfl

/-- What has one spelling is what it was, and stays what it was not. -/
theorem respell_eq_iff {token other : Token} (h : IsFixed other.kind) :
    token.respell r = other ↔ token = other := by
  constructor
  · intro hother
    have hkind : IsFixed token.kind := by
      rw [← kind_respell (r := r), hother]
      exact h
    rw [← hother, respell_of_isFixed hkind]
  · intro hother
    rw [hother, respell_of_isFixed h]

@[simp] theorem isKeyword_respell (token : Token) (text : String) :
    (token.respell r).isKeyword text = token.isKeyword text := by
  rw [Bool.eq_iff_iff, isKeyword_iff, isKeyword_iff, respell_eq_iff (by simp [IsFixed])]

@[simp] theorem isSymbol_respell (token : Token) (text : String) :
    (token.respell r).isSymbol text = token.isSymbol text := by
  rw [Bool.eq_iff_iff, isSymbol_iff, isSymbol_iff, respell_eq_iff (by simp [IsFixed])]

@[simp] theorem isWord_respell (token : Token) (text : String) :
    (token.respell r).isWord text = token.isWord text := by
  obtain ⟨kind, value⟩ := token
  cases kind with
  | identifier => exact r.equalIgnoringCase_text value text
  | keyword | literal | number | symbol => rfl

end Token

/-- The value in the other spelling: strings hold literals, and bare words are
words. -/
def Value.respell (r : Respelling) : Value → Value
  | .string text => .string (r.contents text)
  | .identifier word => .identifier (r.text word)
  | value => value

def Condition.respell (r : Respelling) (condition : Condition) : Condition :=
  ⟨r.text condition.column, condition.value.respell r⟩

def Constraints.respell (r : Respelling) (constraints : Constraints) : Constraints :=
  { constraints with default := constraints.default.map (Value.respell r) }

/-- The column in the other spelling.  Its type has no case. -/
def Column.respell (r : Respelling) (column : Column) : Column :=
  ⟨r.text column.name, column.type, column.constraints.respell r⟩

def ColumnClause.respell (r : Respelling) : ColumnClause → ColumnClause
  | .default value => .default (value.respell r)
  | clause => clause

def TableElement.respell (r : Respelling) : TableElement → TableElement
  | .column found inKey => .column (found.respell r) inKey
  | .primaryKey names => .primaryKey (names.map r.text)

def CreateTable.respell (r : Respelling) (create : CreateTable) : CreateTable :=
  { create with
    table := r.text create.table
    columns := create.columns.map (Column.respell r)
    primaryKey := create.primaryKey.map r.text }

def DropTable.respell (r : Respelling) (drop : DropTable) : DropTable :=
  { drop with table := r.text drop.table }

def Projection.respell (r : Respelling) : Projection → Projection
  | .all => .all
  | .columns names => .columns (names.map r.text)

def RowOrder.respell (r : Respelling) (order : RowOrder) : RowOrder :=
  { order with column := r.text order.column }

def Select.respell (r : Respelling) (query : Select) : Select :=
  { query with
    projection := query.projection.respell r
    table := r.text query.table
    conditions := query.conditions.map (Condition.respell r)
    order := query.order.map (RowOrder.respell r) }

def Insert.respell (r : Respelling) (row : Insert) : Insert :=
  ⟨r.text row.table, row.columns.map r.text, row.values.map (Value.respell r)⟩

/-- The statement in the other spelling. -/
def Statement.respell (r : Respelling) : Statement → Statement
  | .createTable create => .createTable (create.respell r)
  | .dropTable drop => .dropTable (drop.respell r)
  | .select query => .select (query.respell r)
  | .insert row => .insert (row.respell r)

/-- Both token lists break the grammar at some place, or both begin with no
statement. -/
inductive CompileError.Alike : CompileError → CompileError → Prop where
  | unexpected {expected expected' : Expectation} {found found' : Finding} :
      Alike (.unexpected expected found) (.unexpected expected' found')
  | unsupported {beginning beginning' : String} :
      Alike (.unsupported beginning) (.unsupported beginning')

/-! ## Phrases -/

namespace TokenParser

open CqlCompiler.Parser

variable {α : Type} {r : Respelling}

/-- In the other spelling the parser does the same, up to the spelling of its
result. -/
abbrev Respells (r : Respelling) (convert : α → α) (parser : TokenParser α) : Prop :=
  Mirrors (Token.respell r) CompileError.Alike convert parser parser

theorem respells_unexpected (convert : α → α) (expected : Expectation) :
    Respells r convert (unexpected expected) :=
  mirrors_bind_get fun _ => .error .unexpected

/-- A token that is asked for by its value has one spelling. -/
theorem respells_expect {kind : TokenKind} (h : Token.IsFixed kind) (text : Option String) :
    Respells r (Token.respell r) (expect kind text) := by
  have hsame (token : Token) :
      ((token.respell r).kind == kind && text.all ((token.respell r).value == ·)) =
        (token.kind == kind && text.all (token.value == ·)) := by
    rw [Token.kind_respell]
    cases hkind : token.kind == kind with
    | false => rfl
    | true =>
      rw [← beq_iff_eq.mp hkind] at h
      rw [Token.respell_of_isFixed h]
  refine (mirrors_takeIf? hsame).bind fun found => ?_
  cases found with
  | none => exact respells_unexpected _ _
  | some token => exact mirrors_pure rfl

theorem respells_keyword (text : String) : Respells r id (keyword text) :=
  (respells_expect ⟨by decide, by decide⟩ (some text)).bind fun _ => mirrors_pure rfl

theorem respells_symbol (text : String) : Respells r id (symbol text) :=
  (respells_expect ⟨by decide, by decide⟩ (some text)).bind fun _ => mirrors_pure rfl

/-- A name is the one word that is taken whatever it is, so it is respelled. -/
theorem respells_name : Respells r r.text name := by
  intro items
  cases items with
  | nil => exact .error .unexpected
  | cons token items =>
    obtain ⟨kind, text⟩ := token
    cases kind with
    | identifier => exact .ok text items
    | keyword | literal | number | symbol => exact .error .unexpected

theorem respells_number : Respells r id number := by
  intro items
  cases items with
  | nil => exact .error .unexpected
  | cons token items =>
    obtain ⟨kind, text⟩ := token
    cases kind with
    | number => exact .ok text items
    | keyword | identifier | literal | symbol => exact .error .unexpected

theorem respells_skipKeyword (text : String) : Respells r id (skipKeyword text) :=
  mirrors_skipIf (Token.isKeyword_respell · text)

theorem respells_skipSymbol (text : String) : Respells r id (skipSymbol text) :=
  mirrors_skipIf (Token.isSymbol_respell · text)

theorem respells_skipWord (text : String) : Respells r id (skipWord text) :=
  mirrors_skipIf (Token.isWord_respell · text)

theorem respells_word (text : String) : Respells r id (word text) :=
  (respells_skipWord text).bind_bool (mirrors_pure rfl) (respells_unexpected id _)

/-- A question about the token at the front that has the same answer in both
spellings. -/
theorem respells_atFront {p : Token → Bool} (hp : ∀ token, p (token.respell r) = p token) :
    Respells r id (do return (← peek?).any p : TokenParser Bool) := by
  refine mirrors_peek?.bind fun head => mirrors_pure ?_
  cases head with
  | none => rfl
  | some token => exact hp token

theorem respells_atKeyword (text : String) : Respells r id (atKeyword text) :=
  respells_atFront (Token.isKeyword_respell · text)

theorem respells_atSymbol (text : String) : Respells r id (atSymbol text) :=
  respells_atFront (Token.isSymbol_respell · text)

theorem respells_names : Respells r (List.map r.text) names :=
  respells_name.sepBy1 (respells_skipSymbol ",")

theorem Respells.parenthesised {convert : α → α} {phrase : TokenParser α}
    (h : Respells r convert phrase) : Respells r convert (parenthesised phrase) :=
  (respells_symbol "(").bind fun _ => h.bind fun _ =>
    (respells_symbol ")").bind fun _ => mirrors_pure rfl

/-! ### Values -/

/-- A single token spells the same value, up to the spelling of strings and
words.  The words for truth values are known in any case. -/
theorem mirrored_valueOfToken (token : Token) (rest : List Token) :
    Mirrored (Token.respell r) CompileError.Alike (Value.respell r)
      ((valueOfToken token).map (·, rest))
      ((valueOfToken (token.respell r)).map (·, rest.map (Token.respell r))) := by
  obtain ⟨kind, text⟩ := token
  cases kind with
  | literal => exact .ok (Value.string text) rest
  | keyword => exact .error .unexpected
  | number =>
    rw [Token.respell_of_isFixed ⟨by simp, by simp⟩]
    simp only [valueOfToken]
    split
    · rename_i number _
      exact .ok (Value.int number) rest
    · exact .error .unexpected
  | symbol =>
    rw [Token.respell_of_isFixed ⟨by simp, by simp⟩]
    simp only [valueOfToken]
    split
    · exact .ok Value.placeholder rest
    · exact .error .unexpected
  | identifier =>
    simp only [Token.respell, valueOfToken, CaseChange.equalIgnoringCase_text]
    split
    · exact .ok (Value.bool true) rest
    · split
      · exact .ok (Value.bool false) rest
      · exact .ok (Value.identifier text) rest

theorem atDecimal_of_map {items : List Token} (h : AtDecimal (items.map (Token.respell r))) :
    AtDecimal items := by
  generalize hmap : items.map (Token.respell r) = respelled at h
  obtain ⟨whole, fraction, rest⟩ := h
  obtain ⟨first, items, rfl, hfirst, hmap⟩ := List.map_eq_cons_iff.mp hmap
  obtain ⟨dot, items, rfl, hdot, hmap⟩ := List.map_eq_cons_iff.mp hmap
  obtain ⟨last, items, rfl, hlast, hmap⟩ := List.map_eq_cons_iff.mp hmap
  rw [(Token.respell_eq_iff (by simp [Token.IsFixed])).mp hfirst,
    (Token.respell_eq_iff (by simp [Token.IsFixed])).mp hdot,
    (Token.respell_eq_iff (by simp [Token.IsFixed])).mp hlast]
  exact .intro whole fraction items

theorem respells_value : Respells r (Value.respell r) value := by
  intro items
  by_cases hdecimal : AtDecimal items
  · obtain ⟨whole, fraction, rest⟩ := hdecimal
    exact .ok (Value.decimal (whole ++ "." ++ fraction)) rest
  · cases items with
    | nil => exact .error .unexpected
    | cons token items =>
      have hrespelled : ¬AtDecimal (token.respell r :: items.map (Token.respell r)) :=
        fun h => hdecimal (atDecimal_of_map h)
      rw [value_of_not_atDecimal hdecimal, List.map_cons, value_of_not_atDecimal hrespelled]
      exact mirrored_valueOfToken token items

theorem respells_defaultValue : Respells r (Value.respell r) defaultValue :=
  (respells_atSymbol "?").bind_bool (respells_unexpected _ _) respells_value

/-! ### Tables -/

theorem respells_columnClause? :
    Respells r (Option.map (ColumnClause.respell r)) columnClause? := by
  unfold columnClause?
  refine (respells_skipWord "NOT").bind_bool ?_ ?_
  · exact (respells_word "NULL").bind fun _ => mirrors_pure rfl
  refine (respells_skipWord "NULL").bind_bool (mirrors_pure rfl) ?_
  refine (respells_skipWord "DEFAULT").bind_bool ?_ ?_
  · exact respells_defaultValue.bind fun _ => mirrors_pure rfl
  refine (respells_skipKeyword "PRIMARY").bind_bool ?_ (mirrors_pure rfl)
  exact (respells_keyword "KEY").bind fun _ => mirrors_pure rfl

theorem respells_sizes : Respells r id sizes := by
  unfold sizes
  refine (respells_skipSymbol "(").bind_bool ?_ (mirrors_pure rfl)
  exact (respells_number.sepBy1 (respells_skipSymbol ",")).bind fun _ => respells_symbol ")"

theorem constraintsOf_map (clauses : List ColumnClause) :
    constraintsOf (clauses.map (ColumnClause.respell r)) =
      (constraintsOf clauses).respell r := by
  unfold constraintsOf
  rw [List.foldl_map]
  refine @List.foldl_hom _ _ _ (Constraints.respell r) _ _ clauses {} ?_
  intro constraints clause
  cases clause <;> rfl

theorem contains_primaryKey_map (clauses : List ColumnClause) :
    (clauses.map (ColumnClause.respell r)).contains .primaryKey =
      clauses.contains .primaryKey := by
  have hclause (clause : ColumnClause) :
      clause.respell r = .primaryKey ↔ clause = .primaryKey := by
    cases clause <;> simp [ColumnClause.respell]
  rw [Bool.eq_iff_iff, List.contains_iff_mem, List.contains_iff_mem, List.mem_map]
  simp only [hclause, exists_eq_right]

theorem respells_column : Respells r (TableElement.respell r) column := by
  unfold column
  refine respells_name.bind fun columnName => respells_name.bind fun typeName => ?_
  refine respells_sizes.bind fun _ => respells_columnClause?.many.bind fun clauses => ?_
  refine mirrors_pure ?_
  rw [contains_primaryKey_map, constraintsOf_map, CaseChange.ofName_text]
  rfl

theorem respells_element : Respells r (TableElement.respell r) element := by
  unfold element
  refine (respells_atKeyword "PRIMARY").bind_bool ?_ respells_column
  refine (respells_keyword "PRIMARY").bind fun _ => (respells_keyword "KEY").bind fun _ => ?_
  exact respells_names.parenthesised.bind fun _ => mirrors_pure rfl

theorem respells_nextElement : Respells r (Option.map (TableElement.respell r)) nextElement := by
  unfold nextElement
  refine (respells_skipSymbol ",").bind_bool ?_ (mirrors_pure rfl)
  refine (respells_atSymbol ")").bind_bool (mirrors_pure rfl) ?_
  exact respells_element.map fun _ => rfl

theorem respells_elements : Respells r (List.map (TableElement.respell r)) elements := by
  unfold elements
  refine (respells_atSymbol ")").bind_bool (mirrors_pure rfl) ?_
  refine respells_element.bind fun _ => ?_
  exact respells_nextElement.many.bind fun _ => mirrors_pure rfl

theorem columnsOf_map (elements : List TableElement) :
    columnsOf (elements.map (TableElement.respell r)) =
      (columnsOf elements).map (Column.respell r) := by
  unfold columnsOf
  rw [List.filterMap_map, List.map_filterMap]
  congr 1
  funext element
  cases element <;> rfl

theorem keyOf_map (elements : List TableElement) :
    keyOf (elements.map (TableElement.respell r)) = (keyOf elements).map r.text := by
  unfold keyOf
  rw [List.foldl_map]
  refine @List.foldl_hom _ _ _ (List.map r.text) _ _ elements [] ?_
  intro key element
  cases element with
  | primaryKey names => rfl
  | column found inKey =>
    cases inKey with
    | false => rfl
    | true =>
      show key.map r.text ++ [r.text found.name] = (key ++ [found.name]).map r.text
      rw [List.map_append, List.map_singleton]

theorem respells_tableBody (ifNotExists : Bool) :
    Respells r (CreateTable.respell r) (tableBody ifNotExists) := by
  unfold tableBody
  refine respells_name.bind fun table => (respells_symbol "(").bind fun _ => ?_
  refine respells_elements.bind fun parts => ?_
  rw [columnsOf_map, keyOf_map, List.isEmpty_map]
  have hclose : Mirrors (Token.respell r) CompileError.Alike (CreateTable.respell r)
      (do symbol ")"; return ⟨table, ifNotExists, columnsOf parts, keyOf parts⟩)
      (do symbol ")"; return ⟨r.text table, ifNotExists,
        (columnsOf parts).map (Column.respell r), (keyOf parts).map r.text⟩) :=
    (respells_symbol ")").bind fun _ => mirrors_pure rfl
  exact Mirrors.ite ((respells_unexpected id _).bind fun _ => hclose) hclose

theorem respells_createTable : Respells r (CreateTable.respell r) createTable := by
  rw [createTable_eq]
  refine (respells_keyword "CREATE").bind fun _ => (respells_keyword "TABLE").bind fun _ => ?_
  refine (respells_skipKeyword "IF").bind_bool ?_ (respells_tableBody false)
  refine (respells_word "NOT").bind fun _ => (respells_keyword "EXISTS").bind fun _ => ?_
  exact respells_tableBody true

theorem respells_dropTable : Respells r (DropTable.respell r) dropTable := by
  unfold dropTable
  refine (respells_keyword "DROP").bind fun _ => (respells_keyword "TABLE").bind fun _ => ?_
  refine (respells_skipKeyword "IF").bind_bool ?_ ?_
  · exact (respells_keyword "EXISTS").bind fun _ => respells_name.bind fun _ => mirrors_pure rfl
  · exact respells_name.bind fun _ => mirrors_pure rfl

/-! ### Queries and rows -/

theorem respells_columnName : Respells r r.text columnName := by
  unfold columnName
  exact respells_name.bind fun name => mirrors_pure (r.unqualified_text name)

theorem respells_condition : Respells r (Condition.respell r) condition := by
  unfold condition
  refine respells_columnName.bind fun _ => (respells_symbol "=").bind fun _ => ?_
  exact respells_value.bind fun _ => mirrors_pure rfl

theorem respells_conditions : Respells r (List.map (Condition.respell r)) conditions := by
  unfold conditions
  refine (respells_skipKeyword "WHERE").bind_bool ?_ (mirrors_pure rfl)
  exact respells_condition.sepBy1 (respells_skipKeyword "AND")

theorem respells_limit? : Respells r id limit? := by
  unfold limit?
  refine (respells_skipKeyword "LIMIT").bind_bool ?_ (mirrors_pure rfl)
  refine respells_number.bind fun text => ?_
  dsimp only [id]
  split
  · exact mirrors_pure rfl
  · exact mirrors_throw .unexpected

theorem respells_direction : Respells r id direction := by
  unfold direction
  refine (respells_skipWord "DESC").bind_bool (mirrors_pure rfl) ?_
  exact (respells_skipWord "ASC").bind fun _ => mirrors_pure rfl

theorem respells_order? : Respells r (Option.map (RowOrder.respell r)) order? := by
  unfold order?
  refine (respells_skipKeyword "ORDER").bind_bool ?_ (mirrors_pure rfl)
  refine (respells_keyword "BY").bind fun _ => respells_columnName.bind fun _ => ?_
  exact respells_direction.bind fun _ => mirrors_pure rfl

theorem respells_options :
    Respells r (fun found => (found.1, found.2.map (RowOrder.respell r))) options := by
  unfold options
  refine respells_limit?.bind fun early => respells_order?.bind fun order => ?_
  have hearly : Respells r id (pure early) := mirrors_pure rfl
  exact Mirrors.ite (hearly.bind fun _ => mirrors_pure rfl)
    (respells_limit?.bind fun _ => mirrors_pure rfl)

theorem ofNames_map (names : List String) :
    Projection.ofNames (names.map r.text) = (Projection.ofNames names).respell r := by
  unfold Projection.ofNames
  by_cases hstar : names = ["*"]
  · rw [if_pos (r.map_text_eq_star_iff.mpr hstar), if_pos hstar]
    rfl
  · rw [if_neg (mt r.map_text_eq_star_iff.mp hstar), if_neg hstar]
    rfl

theorem respells_select : Respells r (Select.respell r) select := by
  rw [select_eq]
  refine (respells_keyword "SELECT").bind fun _ => ?_
  refine (respells_columnName.sepBy1 (respells_skipSymbol ",")).bind fun names => ?_
  rw [ofNames_map]
  refine (respells_keyword "FROM").bind fun _ => respells_name.bind fun table => ?_
  refine respells_conditions.bind fun _ => respells_options.bind fun _ => mirrors_pure rfl

theorem respells_insert : Respells r (Insert.respell r) insert := by
  unfold insert
  refine (respells_keyword "INSERT").bind fun _ => (respells_keyword "INTO").bind fun _ => ?_
  refine respells_name.bind fun table => respells_names.parenthesised.bind fun columns => ?_
  refine (respells_keyword "VALUES").bind fun _ => ?_
  have hvalues : Respells r (List.map (Value.respell r)) (sepBy1 value (skipSymbol ",")) :=
    respells_value.sepBy1 (respells_skipSymbol ",")
  refine hvalues.parenthesised.bind fun values => ?_
  rw [List.length_map, List.length_map]
  exact Mirrors.ite (mirrors_throw .unexpected) (mirrors_pure rfl)

/-! ### Statements -/

theorem respells_statement : Respells r (Statement.respell r) statement := by
  unfold statement
  refine mirrors_peek?.bind fun head => ?_
  cases head with
  | none => exact mirrors_throw .unsupported
  | some first =>
    dsimp only [Option.map]
    simp only [Token.isKeyword_respell]
    refine Mirrors.ite (respells_createTable.map fun _ => rfl) ?_
    refine Mirrors.ite (respells_dropTable.map fun _ => rfl) ?_
    refine Mirrors.ite (respells_select.map fun _ => rfl) ?_
    exact Mirrors.ite (respells_insert.map fun _ => rfl) (mirrors_throw .unsupported)

theorem respells_ending : Respells r id ending := by
  unfold ending
  refine (respells_skipSymbol ";").bind fun _ => mirrors_bind_get fun items => ?_
  cases items with
  | nil => exact .ok () []
  | cons token items => exact .error .unexpected

theorem respells_wholeStatement : Respells r (Statement.respell r) wholeStatement := by
  unfold wholeStatement
  exact respells_statement.bind fun _ => respells_ending.bind fun _ => mirrors_pure rfl

end TokenParser

/-! ## Statements -/

/-- If the tokens are respelled, so is the statement, and nothing else changes. -/
theorem Statement.ofTokens_respell (r : Respelling) (tokens : List Token) :
    (∃ statement, ofTokens tokens = .ok statement ∧
      ofTokens (tokens.map (Token.respell r)) = .ok (statement.respell r)) ∨
    ∃ cause cause', ofTokens tokens = .error cause ∧
      ofTokens (tokens.map (Token.respell r)) = .error cause' ∧ cause.Alike cause' := by
  have houtcome := TokenParser.respells_wholeStatement (r := r) tokens
  have hrun (tokens : List Token) :
      ofTokens tokens = (TokenParser.wholeStatement tokens).map Prod.fst := rfl
  rw [hrun, hrun]
  generalize TokenParser.wholeStatement tokens = outcome,
    TokenParser.wholeStatement (tokens.map (Token.respell r)) = outcome' at houtcome
  cases houtcome with
  | ok statement rest => exact .inl ⟨statement, rfl, rfl⟩
  | error h => exact .inr ⟨_, _, rfl, rfl, h⟩

end CqlCompiler
