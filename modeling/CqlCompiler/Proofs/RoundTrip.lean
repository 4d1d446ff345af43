import CqlCompiler.Compile
import CqlCompiler.Proofs.Shapes

/-!
# CQL text as SQL text

The CQL text of a query or a row is SQL text again, and reading it gives the
statement back, but for the order of a query, which is not written.  This needs
names that are read as one word, and strings without a single quote: a quote is
written twice in CQL, while SQL text has a backslash before it.

There are three groups.

* Pieces of text.  `Lexes` says that a text is cut into some tokens whatever
  follows it; `Lexes.append` puts two pieces together if the second one does not
  go on with the last lexeme of the first.
* Phrases.  `Writes` says that a text is cut into a spelling of a value, a
  condition or a list.
* Statements.  `ofSql_toCql` is the result.
-/

namespace CqlCompiler

open CqlCompiler.Parser

/-! ## Pieces of text -/

theorem Parser.NotAt.append {τ : Type} {p : τ → Bool} {left right : List τ} (hleft : NotAt p left)
    (hright : NotAt p right) : NotAt p (left ++ right) := by
  cases left with
  | nil => exact hright
  | cons item left => simpa using hleft

/-- What follows a text does not change its beginning. -/
theorem Parser.notAt_append {τ : Type} {p : τ → Bool} {left : List τ} (hne : left ≠ [])
    (h : NotAt p left) (right : List τ) : NotAt p (left ++ right) := by
  cases left with
  | nil => exact absurd rfl hne
  | cons item left => simpa using h

instance {τ : Type} (p : τ → Bool) : (items : List τ) → Decidable (NotAt p items)
  | [] => isTrue (notAt_nil p)
  | item :: items => decidable_of_iff (p item = false) (notAt_cons p item items).symm

instance (text : String) : Decidable (IsName text) :=
  decidable_of_iff (text.toList ≠ [] ∧ text.toList.all Token.isWordChar = true ∧
      NotAt (fun c => c == '.' || c.isDigit) text.toList ∧ Text.upper text ∉ Token.keywords)
    ⟨fun ⟨ne_nil, chars, begins, unreserved⟩ =>
        ⟨ne_nil, List.all_eq_true.mp chars, begins, unreserved⟩,
      fun ⟨ne_nil, chars, begins, unreserved⟩ =>
        ⟨ne_nil, List.all_eq_true.mpr chars, begins, unreserved⟩⟩

namespace Token

/-- The text is cut into the tokens before anything that may follow it. -/
def Lexes (Follow : List Char → Prop) (text : List Char) (tokens : List Token) : Prop :=
  ∀ rest more, Follow rest → CutsInto rest more → CutsInto (text ++ rest) (tokens ++ more)

/-- Nothing that follows makes a word or a number longer. -/
abbrev WordEnds : List Char → Prop :=
  NotAt isWordChar

/-- Anything may follow. -/
abbrev Anything : List Char → Prop :=
  fun _ => True

theorem Lexes.mono {Follow Follow' : List Char → Prop} {text : List Char} {tokens : List Token}
    (h : Lexes Follow text tokens) (hfollow : ∀ rest, Follow' rest → Follow rest) :
    Lexes Follow' text tokens :=
  fun rest more hrest => h rest more (hfollow rest hrest)

theorem Lexes.append {Follow Follow' : List Char → Prop} {left right : List Char}
    {tokens tokens' : List Token} (hleft : Lexes Follow left tokens)
    (hright : Lexes Follow' right tokens')
    (hfollow : ∀ rest, Follow' rest → Follow (right ++ rest)) :
    Lexes Follow' (left ++ right) (tokens ++ tokens') := by
  intro rest more hrest hmore
  rw [List.append_assoc, List.append_assoc]
  exact hleft _ _ (hfollow rest hrest) (hright rest more hrest hmore)

theorem Lexes.append_text {Follow Follow' : List Char → Prop} {left right : String}
    {tokens tokens' : List Token} (hleft : Lexes Follow left.toList tokens)
    (hright : Lexes Follow' right.toList tokens')
    (hfollow : ∀ rest, Follow' rest → Follow (right.toList ++ rest)) :
    Lexes Follow' (left ++ right).toList (tokens ++ tokens') := by
  rw [String.toList_append]
  exact hleft.append hright hfollow

theorem Lexes.cast {Follow : List Char → Prop} {text text' : List Char}
    {tokens tokens' : List Token} (h : Lexes Follow text tokens) (htext : text = text')
    (htokens : tokens = tokens') : Lexes Follow text' tokens' :=
  htext ▸ htokens ▸ h

theorem lexes_nil (Follow : List Char → Prop) : Lexes Follow [] [] :=
  fun _ _ _ hmore => hmore

theorem tokenize_of_lexes {sql : String} {tokens : List Token}
    (h : Lexes Anything sql.toList tokens) : tokenize sql = .ok tokens := by
  have hcut := h [] [] trivial (.nil (.nil _))
  rw [List.append_nil, List.append_nil] at hcut
  exact tokenize_eq_ok_iff_scan.mpr (scan_of_cutsInto hcut)

theorem lexes_of_spellsToken {Follow : List Char → Prop} {lexeme : List Char} {token : Token}
    (h : ∀ rest, Follow rest → SpellsToken lexeme rest token) : Lexes Follow lexeme [token] := by
  intro rest more hrest hmore
  exact .cons (.nil _) (h rest hrest) hmore

theorem lexes_space {c : Char} (hspace : Text.isWhiteSpace c = true) : Lexes Anything [c] [] := by
  intro rest more _ hmore
  cases hmore with
  | nil hgap => exact .nil (.space hspace hgap)
  | @cons gap lexeme text token tokens hgap hlexeme htext =>
    have hcut : CutsInto ((c :: gap) ++ (lexeme ++ text)) (token :: tokens) :=
      .cons (.space hspace hgap) hlexeme htext
    exact hcut

theorem lexes_blank : Lexes Anything [' '] [] :=
  lexes_space (by decide)

theorem lexes_mark {c : Char} (h : c ∈ marks) :
    Lexes Anything [c] [⟨.symbol, String.singleton c⟩] :=
  lexes_of_spellsToken fun rest _ => .mark rest h

theorem lexes_name {name : String} (h : IsName name) :
    Lexes WordEnds name.toList [⟨.identifier, name⟩] := by
  apply lexes_of_spellsToken
  intro rest hrest
  have hword : IsWordRun name.toList rest := ⟨⟨h.ne_nil, h.chars, hrest⟩, h.begins⟩
  have htoken := SpellsToken.identifier hword h.unreserved
  rwa [String.ofList_toList] at htoken

/-- Keywords are words in upper case. -/
theorem isWordRun_of_mem_keywords {text : String} (h : text ∈ keywords) {rest : List Char}
    (hrest : WordEnds rest) : IsWordRun text.toList rest ∧ Text.upper text = text := by
  have hall : ∀ text ∈ keywords, text.toList ≠ [] ∧ text.toList.all isWordChar = true ∧
      NotAt (fun c => c == '.' || c.isDigit) text.toList ∧ Text.upper text = text := by
    decide +kernel
  obtain ⟨hne, hchars, hbegins, hupper⟩ := hall text h
  exact ⟨⟨⟨hne, List.all_eq_true.mp hchars, hrest⟩, hbegins⟩, hupper⟩

theorem lexes_keyword {text : String} (h : text ∈ keywords) :
    Lexes WordEnds text.toList [⟨.keyword, text⟩] := by
  apply lexes_of_spellsToken
  intro rest hrest
  obtain ⟨hword, hupper⟩ := isWordRun_of_mem_keywords h hrest
  rw [Text.upper] at hupper
  have hmem : String.ofList (text.toList.map Char.toUpper) ∈ keywords := by
    rw [hupper]
    exact h
  have htoken := SpellsToken.keyword hword hmem
  rwa [hupper] at htoken

theorem lexes_number {text : String} (h : IsDigits text) :
    Lexes (NotAt Char.isDigit) text.toList [⟨.number, text⟩] := by
  apply lexes_of_spellsToken
  intro rest hrest
  have hdigits : IsRun Char.isDigit text.toList rest := ⟨h.ne_nil, h.chars, hrest⟩
  have htoken := SpellsToken.number hdigits
  rwa [String.ofList_toList] at htoken

theorem notAt_isDigit_of_wordEnds {rest : List Char} (h : WordEnds rest) :
    NotAt Char.isDigit rest := by
  intro c hc
  rw [Bool.eq_false_iff]
  intro hdigit
  have hword := isWordChar_of_isDigit hdigit
  simp [h c hc] at hword

/-- The contents of a literal as they are written between two quotes: each
quote among them has a backslash before it. -/
def escaped (quote : Char) (body : List Char) : List Char :=
  body.flatMap fun c => if c = quote then ['\\', quote] else [c]

theorem escaped_cons (quote c : Char) (body : List Char) :
    escaped quote (c :: body) = (if c = quote then ['\\', quote] else [c]) ++ escaped quote body :=
  List.flatMap_cons

/-- What is written begins with a backslash or with a character other than the
quote, so a backslash before it stands for itself. -/
theorem not_quote_prefix_escaped {quote c : Char} (hquote : quote ≠ '\\') (body rest : List Char) :
    ¬ [quote] <+: escaped quote (c :: body) ++ rest := by
  rw [escaped_cons]
  intro hbegins
  by_cases hc : c = quote
  · rw [if_pos hc] at hbegins
    exact hquote (List.cons_prefix_cons.mp hbegins).1
  · rw [if_neg hc] at hbegins
    exact hc (List.cons_prefix_cons.mp hbegins).1.symm

/-- Every text that does not end in a backslash can be written between two
quotes.  A last backslash would make the closing quote part of the text. -/
theorem spellsBody_escaped {quote : Char} (hquote : quote ≠ '\\') {body : List Char}
    (hlast : body.getLast? ≠ some '\\') : SpellsBody quote (escaped quote body) body := by
  induction body with
  | nil => exact .nil
  | cons c body ih =>
    have hbody : SpellsBody quote (escaped quote body) body := by
      cases body with
      | nil => exact .nil
      | cons d body =>
        rw [List.getLast?_cons_cons] at hlast
        exact ih hlast
    rw [escaped_cons]
    by_cases hc : c = quote
    · rw [if_pos hc, hc]
      exact .escaped hbody
    · rw [if_neg hc]
      refine .plain hc ?_ hbody
      intro hbackslash
      cases body with
      | nil => exact absurd (by rw [hbackslash]; rfl) hlast
      | cons d body => exact not_quote_prefix_escaped hquote body [quote]

theorem escaped_of_not_mem {quote : Char} {body : List Char} (h : quote ∉ body) :
    escaped quote body = body := by
  induction body with
  | nil => rfl
  | cons c body ih =>
    obtain ⟨hc, hbody⟩ := List.ne_and_not_mem_of_not_mem_cons h
    rw [escaped_cons, if_neg (Ne.symm hc), ih hbody]
    rfl

theorem doubled_of_not_mem {quote : Char} {text : List Char} (h : quote ∉ text) :
    Text.doubled quote text = text := by
  induction text with
  | nil => rfl
  | cons c text ih =>
    obtain ⟨hc, htext⟩ := List.ne_and_not_mem_of_not_mem_cons h
    rw [Text.doubled_cons, if_neg (Ne.symm hc), ih htext]
    rfl

theorem lexes_quoteLiteral {text : String} (hquote : '\'' ∉ text.toList) (h : IsQuotable text) :
    Lexes Anything (Text.quoteLiteral text).toList [⟨.literal, text⟩] := by
  apply lexes_of_spellsToken
  intro rest _
  rw [Text.quoteLiteral, Text.enclosed, String.toList_ofList, doubled_of_not_mem hquote]
  have hbody : SpellsBody '\'' (escaped '\'' text.toList) text.toList :=
    spellsBody_escaped (by decide) h
  rw [escaped_of_not_mem hquote] at hbody
  have htoken := SpellsToken.literal rest (.inl rfl) hbody
  rwa [String.ofList_toList] at htoken

end Token

/-! ## Phrases -/

open CqlCompiler.Token

/-- The text is cut into a spelling of the result. -/
def Writes {α : Type} (Follow : List Char → Prop) (Spells : List Token → α → Prop)
    (text : String) (result : α) : Prop :=
  ∃ tokens, Spells tokens result ∧ Lexes Follow text.toList tokens

theorem isDigits_ofNat (n : Nat) : IsDigits (Text.Numeral.ofNat n) := by
  constructor <;> rw [Text.Numeral.ofNat, String.toList_ofList]
  · exact Nat.toDigits_ne_nil
  · exact fun c hc => Nat.isDigit_of_mem_toDigits (by decide) (by decide) hc

theorem denotesCount_ofNat (n : Nat) :
    Text.Numeral.DenotesCount (Text.Numeral.ofNat n) n := by
  refine .inl (Text.Numeral.denotes_nil_iff.mpr ?_)
  rw [Text.Numeral.ofNat, String.toList_ofList, Text.Numeral.digits?_toDigits]

theorem isName_boolWord (truth : Bool) : IsName (Value.boolWord truth) := by
  cases truth <;> decide +kernel

/-- A value whose text is read as the same value: a string has no single quote. -/
structure Value.Rereadable (value : Value) : Prop where
  wellShaped : value.WellShaped
  unquoted : ∀ text, value = .string text → '\'' ∉ text.toList

theorem Value.toCql_int {number : Int64} (h : 0 ≤ number.toInt) :
    (Value.int number).toCql = Text.Numeral.ofNat number.toInt.natAbs := by
  rw [toCql, bareText, Text.Numeral.ofSigned, if_neg (by omega)]
  simp

theorem Value.Rereadable.writes {value : Value} (h : value.Rereadable) :
    Writes WordEnds SpellsValue value.toCql value := by
  cases h.wellShaped with
  | string hquotable =>
    exact ⟨_, .string _, (lexes_quoteLiteral (h.unquoted _ rfl) hquotable).mono fun _ _ => trivial⟩
  | @int number hnonneg =>
    have hnumber : Text.Numeral.DenotesInteger (Text.Numeral.ofNat number.toInt.natAbs)
        number.toInt :=
      .inl ⟨_, denotesCount_ofNat _, (Int.natAbs_of_nonneg hnonneg).symm⟩
    rw [toCql_int hnonneg]
    exact ⟨_, .int hnumber,
      (lexes_number (isDigits_ofNat _)).mono fun _ => notAt_isDigit_of_wordEnds⟩
  | @decimal whole fraction hwhole hfraction =>
    have hdot : Lexes Anything ".".toList [⟨.symbol, "."⟩] := lexes_mark (by decide)
    have hfront := (lexes_number hwhole).append_text hdot fun rest _ =>
      (notAt_cons ..).mpr (by decide)
    have hnumber := hfront.append_text (lexes_number hfraction) fun _ _ => trivial
    exact ⟨_, .decimal whole fraction, hnumber.mono fun _ => notAt_isDigit_of_wordEnds⟩
  | bool truth =>
    exact ⟨_, .bool (Text.equalIgnoringCase_self _), lexes_name (isName_boolWord truth)⟩
  | placeholder => exact ⟨_, .placeholder, (lexes_mark (by decide)).mono fun _ _ => trivial⟩
  | identifier hname hword => exact ⟨_, .identifier hword, lexes_name hname⟩

theorem unqualified_of_not_mem {name : String} (h : '.' ∉ name.toList) :
    Text.unqualified name = name := by
  have hall : ∀ c ∈ name.toList.reverse, decide (c ≠ '.') = true := by
    intro c hc
    rw [decide_eq_true_eq]
    rintro rfl
    exact h (List.mem_reverse.mp hc)
  have hwhole := takeWhile_append_of_notAt hall (notAt_nil _)
  rw [List.append_nil] at hwhole
  rw [Text.unqualified, hwhole, List.reverse_reverse, String.ofList_toList]

theorem writes_name {name : String} (h : IsName name) :
    Writes WordEnds SpellsName name name :=
  ⟨_, .intro name, lexes_name h⟩

theorem writes_columnName {name : String} (h : IsName name) (hdot : '.' ∉ name.toList) :
    Writes WordEnds SpellsColumnName name name := by
  have hspells := SpellsColumnName.intro name
  rw [unqualified_of_not_mem hdot] at hspells
  exact ⟨_, hspells, lexes_name h⟩

theorem lexes_keyword_blank {text : String} {written : List Char} (h : text ∈ keywords)
    (hwritten : written = text.toList ++ [' ']) : Lexes Anything written [⟨.keyword, text⟩] := by
  rw [hwritten]
  exact (lexes_keyword h).append lexes_blank fun rest _ =>
    notAt_append (by decide) (by decide) rest

theorem lexes_keyword_between_blanks {text : String} {written : List Char} (h : text ∈ keywords)
    (hwritten : written = ' ' :: (text.toList ++ [' '])) :
    Lexes Anything written [⟨.keyword, text⟩] := by
  rw [hwritten]
  exact lexes_blank.append (lexes_keyword_blank h rfl) fun _ _ => trivial

theorem Parser.Separated.cons {τ α : Type} {mark : τ} {Spells : List τ → α → Prop}
    {phrase others : List τ} {result : α} {results : List α} (hphrase : Spells phrase result)
    (hothers : Separated mark Spells others results) :
    Separated mark Spells (phrase ++ mark :: others) (result :: results) := by
  obtain ⟨hfirst, hmore⟩ := hothers
  exact .intro hphrase (.cons (.intro hfirst) hmore)

/-- Items with a separator between them are a list, if the separator is the
mark of the list and does not go on with a word. -/
theorem writes_intercalate {α : Type} {Spells : List Token → α → Prop} {write : α → String}
    {separator : String} {mark : Token} (hmark : Lexes Anything separator.toList [mark])
    (hends : ∀ rest, WordEnds (separator.toList ++ rest)) {items : List α} (hne : items ≠ [])
    (h : ∀ item ∈ items, Writes WordEnds Spells (write item) item) :
    Writes WordEnds (Separated mark Spells) (separator.intercalate (items.map write)) items := by
  induction items with
  | nil => exact absurd rfl hne
  | cons item items ih =>
    obtain ⟨⟨phrase, hphrase, hitem⟩, hitems⟩ := List.forall_mem_cons.mp h
    cases items with
    | nil =>
      have hlist : Separated mark Spells (phrase ++ []) [item] := .intro hphrase .nil
      rw [List.append_nil] at hlist
      rw [List.map_singleton, String.intercalate_singleton]
      exact ⟨phrase, hlist, hitem⟩
    | cons other items =>
      obtain ⟨others, hothers, hrest⟩ := ih (by simp) hitems
      have hfront := hitem.append_text hmark fun rest _ => hends rest
      have hall := hfront.append_text hrest fun _ _ => trivial
      rw [List.append_assoc] at hall
      refine ⟨_, hothers.cons hphrase, ?_⟩
      rw [List.map_cons, List.map_cons, String.intercalate_cons_cons]
      exact hall

theorem writes_commaSeparated {α : Type} {Spells : List Token → α → Prop} (write : α → String)
    {items : List α} (hne : items ≠ [])
    (h : ∀ item ∈ items, Writes WordEnds Spells (write item) item) :
    Writes WordEnds (CommaSeparated Spells) (commaSeparated (items.map write)) items := by
  have hcomma : Lexes Anything ", ".toList [⟨.symbol, ","⟩] :=
    (lexes_mark (by decide)).append lexes_blank fun _ _ => trivial
  exact writes_intercalate hcomma (notAt_append (by decide) (by decide)) hne h

structure Condition.Rereadable (condition : Condition) : Prop where
  column : IsName condition.column
  no_dot : '.' ∉ condition.column.toList
  value : condition.value.Rereadable

theorem Condition.Rereadable.writes {condition : Condition} (h : condition.Rereadable) :
    Writes WordEnds SpellsCondition condition.toCql condition := by
  obtain ⟨left, hleft, hcolumn⟩ := writes_columnName h.column h.no_dot
  obtain ⟨right, hright, hvalue⟩ := h.value.writes
  have hequals : Lexes Anything " = ".toList [⟨.symbol, "="⟩] :=
    lexes_blank.append ((lexes_mark (by decide)).append lexes_blank fun _ _ => trivial)
      fun _ _ => trivial
  have hfront := hcolumn.append_text hequals fun _ _ => notAt_append (by decide) (by decide) _
  have hall := hfront.append_text hvalue fun _ _ => trivial
  exact ⟨_, .intro hleft hright, hall.cast rfl (by simp)⟩

/-! ## Statements -/

/-- A query whose text is read as the same query: its columns are single words,
and a star alone is not a list of columns. -/
structure Select.Rereadable (query : Select) : Prop where
  columns : ∀ names, query.projection = .columns names →
    names ≠ [] ∧ names ≠ ["*"] ∧ ∀ name ∈ names, IsName name ∧ '.' ∉ name.toList
  table : IsName query.table
  conditions : ∀ condition ∈ query.conditions, condition.Rereadable

/-- A row whose text is read as the same row. -/
structure Insert.Rereadable (row : Insert) : Prop where
  table : IsName row.table
  columns : ∀ name ∈ row.columns, IsName name
  values : ∀ value ∈ row.values, value.Rereadable
  ne_nil : row.columns ≠ []
  length_eq : row.columns.length = row.values.length

def Statement.Rereadable : Statement → Prop
  | .select query => query.Rereadable
  | .insert row => row.Rereadable
  | .createTable _ => False
  | .dropTable _ => False

/-- The statement without the order of its rows. -/
def Statement.withoutOrder : Statement → Statement
  | .select query => .select { query with order := none }
  | statement => statement

theorem Select.Rereadable.writes_projection {query : Select} (h : query.Rereadable) :
    ∃ names, query.projection = .ofNames names ∧
      Writes WordEnds (CommaSeparated SpellsColumnName) query.projection.toCql names := by
  cases hprojection : query.projection with
  | all =>
    have hstar := writes_columnName (show IsName "*" by decide +kernel) (by decide)
    have hlist := writes_commaSeparated id (List.cons_ne_nil "*" []) (by simpa using hstar)
    exact ⟨["*"], rfl, hlist⟩
  | columns names =>
    obtain ⟨hne, hstar, hnames⟩ := h.columns names hprojection
    have hlist := writes_commaSeparated id hne fun name hname =>
      writes_columnName (hnames name hname).1 (hnames name hname).2
    rw [List.map_id] at hlist
    exact ⟨names, by rw [Projection.ofNames, if_neg hstar], hlist⟩

theorem Select.Rereadable.writes_whereClause {query : Select} (h : query.Rereadable) :
    Writes WordEnds SpellsConditions query.whereClause query.conditions := by
  unfold whereClause
  split
  · rename_i hnone
    rw [List.isEmpty_iff.mp hnone]
    exact ⟨[], .absent, lexes_nil _⟩
  · rename_i hsome
    have hand : Lexes Anything " AND ".toList [⟨.keyword, "AND"⟩] :=
      lexes_keyword_between_blanks (by decide) (by decide)
    have hwhere : Lexes Anything " WHERE ".toList [⟨.keyword, "WHERE"⟩] :=
      lexes_keyword_between_blanks (by decide) (by decide)
    obtain ⟨phrase, hphrase, hlist⟩ := writes_intercalate hand
      (notAt_append (by decide) (by decide)) (mt List.isEmpty_iff.mpr hsome)
      fun condition hcondition => (h.conditions condition hcondition).writes
    exact ⟨_, .present hphrase, hwhere.append_text hlist fun _ _ => trivial⟩

theorem Select.writes_limitClause (query : Select) :
    ∃ tokens, SpellsOptions tokens query.limit none ∧
      Lexes WordEnds query.limitClause.toList tokens := by
  unfold limitClause
  cases query.limit with
  | none => exact ⟨[], .none, lexes_nil _⟩
  | some count =>
    have hlimit : Lexes Anything " LIMIT ".toList [⟨.keyword, "LIMIT"⟩] :=
      lexes_keyword_between_blanks (by decide) (by decide)
    have hnumber := (lexes_number (isDigits_ofNat count.toNat)).mono fun _ =>
      notAt_isDigit_of_wordEnds
    exact ⟨_, .limit (.intro (denotesCount_ofNat count.toNat)),
      hlimit.append_text hnumber fun _ _ => trivial⟩

theorem Select.wordEnds_whereClause (query : Select) : WordEnds query.whereClause.toList := by
  unfold whereClause
  split
  · exact notAt_nil _
  · rw [String.toList_append]
    exact notAt_append (by decide) (by decide) _

theorem Select.wordEnds_limitClause (query : Select) : WordEnds query.limitClause.toList := by
  unfold limitClause
  split
  · exact notAt_nil _
  · rw [String.toList_append]
    exact notAt_append (by decide) (by decide) _

theorem Select.Rereadable.lexes {query : Select} (h : query.Rereadable) :
    ∃ tokens, SpellsSelect tokens { query with order := none } ∧
      Lexes Anything query.toCql.toList (tokens ++ [⟨.symbol, ";"⟩]) := by
  obtain ⟨names, hprojection, projected, hprojected, hnames⟩ := h.writes_projection
  obtain ⟨filters, hfilters, hwhere⟩ := h.writes_whereClause
  obtain ⟨options, hoptions, hlimit⟩ := query.writes_limitClause
  have hselect : Lexes Anything "SELECT ".toList [⟨.keyword, "SELECT"⟩] :=
    lexes_keyword_blank (by decide) (by decide)
  have hfrom : Lexes Anything " FROM ".toList [⟨.keyword, "FROM"⟩] :=
    lexes_keyword_between_blanks (by decide) (by decide)
  have hend : Lexes Anything ";".toList [⟨.symbol, ";"⟩] := lexes_mark (by decide)
  have htext := hselect.append_text hnames fun _ _ => trivial
  have htext := htext.append_text hfrom fun _ _ => notAt_append (by decide) (by decide) _
  have htext := htext.append_text (lexes_name h.table) fun _ _ => trivial
  have htext := htext.append_text hwhere fun _ => query.wordEnds_whereClause.append
  have htext := htext.append_text hlimit fun _ => query.wordEnds_limitClause.append
  have htext := htext.append_text hend fun _ _ =>
    notAt_append (by decide) (by decide) _
  have hspells := SpellsSelect.intro query.table hprojected hfilters hoptions
  rw [← hprojection] at hspells
  refine ⟨_, hspells, ?_⟩
  exact htext.cast rfl (by simp)

theorem Insert.Rereadable.lexes {row : Insert} (h : row.Rereadable) :
    ∃ tokens, SpellsInsert tokens row ∧
      Lexes Anything row.toCql.toList (tokens ++ [⟨.symbol, ";"⟩]) := by
  have hvalues_ne : row.values ≠ [] := by
    intro hnil
    have hlength := h.length_eq
    rw [hnil, List.length_nil, List.length_eq_zero_iff] at hlength
    exact h.ne_nil hlength
  obtain ⟨left, hleft, hcolumns⟩ := writes_commaSeparated id h.ne_nil fun name hname =>
    writes_name (h.columns name hname)
  rw [List.map_id] at hcolumns
  obtain ⟨right, hright, hvalues⟩ := writes_commaSeparated Value.toCql hvalues_ne
    fun value hvalue => (h.values value hvalue).writes
  have hinsert : Lexes Anything "INSERT ".toList [⟨.keyword, "INSERT"⟩] :=
    lexes_keyword_blank (by decide) (by decide)
  have hinto : Lexes Anything "INTO ".toList [⟨.keyword, "INTO"⟩] :=
    lexes_keyword_blank (by decide) (by decide)
  have hinsertInto : Lexes Anything "INSERT INTO ".toList
      [⟨.keyword, "INSERT"⟩, ⟨.keyword, "INTO"⟩] :=
    (hinsert.append hinto fun _ _ => trivial).cast (by decide) rfl
  have hparen : Lexes Anything "(".toList [⟨.symbol, "("⟩] := lexes_mark (by decide)
  have hopen : Lexes Anything " (".toList [⟨.symbol, "("⟩] :=
    lexes_blank.append hparen fun _ _ => trivial
  have hclose : Lexes Anything ")".toList [⟨.symbol, ")"⟩] := lexes_mark (by decide)
  have hkeyword : Lexes Anything " VALUES ".toList [⟨.keyword, "VALUES"⟩] :=
    lexes_keyword_between_blanks (by decide) (by decide)
  have hbetween : Lexes Anything ") VALUES (".toList
      [⟨.symbol, ")"⟩, ⟨.keyword, "VALUES"⟩, ⟨.symbol, "("⟩] :=
    ((hclose.append hkeyword fun _ _ => trivial).append hparen fun _ _ => trivial).cast
      (by decide) rfl
  have hend : Lexes Anything ");".toList [⟨.symbol, ")"⟩, ⟨.symbol, ";"⟩] :=
    hclose.append (lexes_mark (by decide)) fun _ _ => trivial
  have htext := hinsertInto.append_text (lexes_name h.table) fun _ _ => trivial
  have htext := htext.append_text hopen fun _ _ => notAt_append (by decide) (by decide) _
  have htext := htext.append_text hcolumns fun _ _ => trivial
  have htext := htext.append_text hbetween fun _ _ =>
    notAt_append (by decide) (by decide) _
  have htext := htext.append_text hvalues fun _ _ => trivial
  have htext := htext.append_text hend fun _ _ =>
    notAt_append (by decide) (by decide) _
  refine ⟨_, .intro row.table (.intro hleft) (.intro hright) h.length_eq, ?_⟩
  exact htext.cast rfl (by simp)

theorem ofSql_of_lexes {sql : String} {tokens : List Token} {statement : Statement}
    (htext : Lexes Anything sql.toList tokens) (h : SpellsStatement tokens statement) :
    Statement.ofSql sql = .ok statement := by
  exact Statement.ofSql_eq_ok_iff.mpr
    ⟨tokens, tokenize_of_lexes htext, Statement.ofTokens_eq_ok_iff.mpr h⟩

/-- The CQL text of a query or a row is read as the statement that it was
written for, without its order. -/
theorem ofSql_toCql {statement : Statement} (h : statement.Rereadable) :
    Statement.ofSql statement.toCql = .ok statement.withoutOrder := by
  cases statement with
  | select query =>
    obtain ⟨tokens, hspells, htext⟩ := Select.Rereadable.lexes h
    exact ofSql_of_lexes htext (.semicolon (.select hspells))
  | insert row =>
    obtain ⟨tokens, hspells, htext⟩ := Insert.Rereadable.lexes h
    exact ofSql_of_lexes htext (.semicolon (.insert hspells))
  | createTable => exact h.elim
  | dropTable => exact h.elim

theorem ofSql_toCql_of_literal :
    Statement.ofSql (Statement.select ⟨.columns ["*", "é_1"], "k.t",
        [⟨"a", .string "\\;--?"⟩, ⟨"b", .decimal "007.50"⟩], some 18446744073709551615,
        some ⟨"a", .descending⟩⟩).toCql =
      .ok (.select ⟨.columns ["*", "é_1"], "k.t",
        [⟨"a", .string "\\;--?"⟩, ⟨"b", .decimal "007.50"⟩], some 18446744073709551615, none⟩) := by
  have hcolumns : ∀ name ∈ ["*", "é_1"], IsName name ∧ '.' ∉ name.toList := by decide +kernel
  have hstring : (Value.string "\\;--?").Rereadable := by
    refine ⟨.string ?_, ?_⟩
    · unfold IsQuotable
      decide
    · rintro text ⟨⟩
      decide
  have hdecimal : (Value.decimal "007.50").Rereadable := by
    have hwhole : IsDigits "007" := ⟨by decide, List.all_eq_true.mp (by decide)⟩
    have hfraction : IsDigits "50" := ⟨by decide, List.all_eq_true.mp (by decide)⟩
    exact ⟨.decimal hwhole hfraction, by simp⟩
  have hquery : Select.Rereadable ⟨.columns ["*", "é_1"], "k.t",
      [⟨"a", .string "\\;--?"⟩, ⟨"b", .decimal "007.50"⟩], some 18446744073709551615,
      some ⟨"a", .descending⟩⟩ := by
    refine ⟨?_, by decide +kernel, ?_⟩
    · rintro names ⟨⟩
      exact ⟨by decide, by decide, hcolumns⟩
    · simp only [List.forall_mem_cons]
      exact ⟨⟨by decide +kernel, by decide, hstring⟩, ⟨by decide +kernel, by decide, hdecimal⟩,
        by simp⟩
  exact ofSql_toCql hquery

end CqlCompiler
