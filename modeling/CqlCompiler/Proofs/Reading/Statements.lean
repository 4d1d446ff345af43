import CqlCompiler.Proofs.Reading.Tables

/-!
# Reading queries, rows and whole statements

A query may go on with conditions, a row count or an order, so it is taken
whole only where nothing or a semicolon follows (`FollowsQuery`), as is the
case in a whole token list.

`Statement.ofTokens_eq_ok_iff` is the result: a statement is read from exactly
the token lists that spell it.
-/

namespace CqlCompiler

namespace TokenParser

open CqlCompiler.Parser

variable {items rest : List Token}

/-! ## Queries and rows -/

theorem condition_sound : Sound condition SpellsCondition := by
  intro items result rest h
  simp only [condition, bind_eq_ok_iff, symbol_eq_ok_iff, pure_eq_ok_iff] at h
  obtain ⟨column, _, hcolumn, -, middle, rfl, v, _, hvalue, rfl, rfl⟩ := h
  obtain ⟨left, hleft, rfl⟩ := columnName_sound _ _ _ hcolumn
  obtain ⟨right, hright, rfl⟩ := value_sound _ _ _ hvalue
  exact ⟨_, .intro hleft hright, by simp⟩

theorem condition_complete :
    Complete condition SpellsCondition (NotAt (·.isSymbol ".")) := by
  intro phrase result rest h hrest
  obtain @⟨left, right, column, v, hcolumn, hvalue⟩ := h
  have hcolumn := columnName_complete left column (⟨.symbol, "="⟩ :: (right ++ rest)) hcolumn trivial
  have hvalue := value_complete right v rest hvalue hrest
  rw [condition, List.append_assoc, List.cons_append, bind_of_ok hcolumn,
    bind_of_ok (symbol_self _ _), bind_of_ok hvalue]
  rfl

theorem conditions_sound : Sound conditions SpellsConditions := by
  intro items result rest h
  simp only [conditions, skipKeyword, bind_skipIf_eq_ok_iff, reduceIte, Bool.false_eq_true,
    pure_eq_ok_iff] at h
  rcases h with ⟨found, tail, rfl, hfound, h⟩ | ⟨-, rfl, rfl⟩
  · obtain rfl := Token.isKeyword_iff.mp hfound
    obtain ⟨phrase, hphrase, rfl⟩ :=
      condition_sound.sepBy1 (fun _ => Token.isKeyword_iff) _ _ _ h
    exact ⟨_, .present hphrase, rfl⟩
  · exact ⟨[], .absent, rfl⟩

theorem conditions_complete :
    Complete conditions SpellsConditions (fun rest => NotAt (·.isSymbol ".") rest ∧
      NotAt (·.isKeyword "AND") rest ∧ NotAt (·.isKeyword "WHERE") rest) := by
  intro phrase result rest h hrest
  obtain ⟨hdot, hand, hwhere⟩ := hrest
  cases h with
  | absent => exact bind_skipKeyword_of_notAt hwhere
  | @present phrase _ hconditions =>
    have hfollow (rest : List Token) : NotAt (·.isSymbol ".") (⟨.keyword, "AND"⟩ :: rest) := by
      simp [Token.isSymbol]
    refine bind_skipKeyword_self.trans ?_
    exact condition_complete.sepBy1 condition_sound (fun _ => Token.isKeyword_iff) hfollow
      phrase result rest hconditions ⟨hdot, hand⟩

/-- The row count after its keyword. -/
def rowCount : TokenParser UInt64 := do
  let text ← number
  match Text.Numeral.unsigned? text with
  | some count => return count
  | none => throw (.unexpected .rowCount (.number text))

theorem rowCount_number (text : String) (rest : List Token) :
    rowCount (⟨.number, text⟩ :: rest) =
      match Text.Numeral.unsigned? text with
      | some count => .ok (count, rest)
      | none => .error (.unexpected .rowCount (.number text)) := by
  refine (bind_of_ok (number_self text rest)).trans ?_
  cases Text.Numeral.unsigned? text <;> rfl

theorem limit?_eq :
    limit? = do if ← skipKeyword "LIMIT" then some <$> rowCount else return none := by
  rw [limit?, rowCount, map_bind]
  congr
  funext found
  congr
  funext text
  cases Text.Numeral.unsigned? text <;> rfl

theorem limit?_sound {limit : Option UInt64} (h : limit? items = .ok (limit, rest)) :
    (limit = none ∧ rest = items) ∨
      ∃ count phrase, limit = some count ∧ SpellsLimit phrase count ∧ items = phrase ++ rest := by
  simp only [limit?, skipKeyword, bind_skipIf_eq_ok_iff, reduceIte, Bool.false_eq_true,
    pure_eq_ok_iff] at h
  rcases h with ⟨found, tail, rfl, hfound, h⟩ | ⟨-, rfl, rfl⟩
  · obtain rfl := Token.isKeyword_iff.mp hfound
    simp only [bind_eq_ok_iff, number_eq_ok_iff] at h
    obtain ⟨text, _, rfl, h⟩ := h
    cases hcount : Text.Numeral.unsigned? text with
    | none =>
      rw [hcount] at h
      cases h
    | some count =>
      rw [hcount] at h
      obtain ⟨rfl, rfl⟩ := pure_eq_ok_iff.mp h
      exact .inr ⟨count, _, rfl, .intro (Text.Numeral.unsigned?_eq_some_iff.mp hcount), rfl⟩
  · exact .inl ⟨rfl, rfl⟩

theorem limit?_of_notAt (h : NotAt (·.isKeyword "LIMIT") items) :
    limit? items = .ok (none, items) :=
  bind_skipKeyword_of_notAt h

theorem limit?_complete {phrase : List Token} {count : UInt64} (h : SpellsLimit phrase count)
    (rest : List Token) : limit? (phrase ++ rest) = .ok (some count, rest) := by
  obtain @⟨text, count, hcount⟩ := h
  have hcount := Text.Numeral.unsigned?_eq_some_iff.mpr hcount
  refine bind_skipKeyword_self.trans ((bind_of_ok (number_self text rest)).trans ?_)
  rw [hcount]
  rfl

theorem direction_sound : Sound direction SpellsDirection := by
  intro items result rest h
  simp only [direction, skipWord, bind_skipIf_eq_ok_iff, reduceIte, Bool.false_eq_true,
    pure_eq_ok_iff] at h
  rcases h with ⟨word, tail, rfl, hword, rfl, rfl⟩ | ⟨-, h⟩
  · exact ⟨[word], .descending hword, rfl⟩
  rcases h with ⟨word, tail, rfl, hword, rfl, rfl⟩ | ⟨-, rfl, rfl⟩
  · exact ⟨[word], .ascending hword, rfl⟩
  · exact ⟨[], .unsaid, rfl⟩

theorem direction_complete :
    Complete direction SpellsDirection
      (NotAt fun token => token.isWord "DESC" || token.isWord "ASC") := by
  intro phrase result rest h hrest
  obtain ⟨hdesc, hasc⟩ := notAt_or.mp hrest
  cases h with
  | unsaid => exact (bind_skipWord_of_notAt hdesc).trans (bind_skipWord_of_notAt hasc)
  | @ascending word hword =>
    have hdesc : NotAt (·.isWord "DESC") (word :: rest) := notAt_isWord hword (by decide)
    exact (bind_skipWord_of_notAt hdesc).trans (bind_skipWord_of_at hword)
  | descending hword => exact bind_skipWord_of_at hword

theorem order?_sound {order : Option RowOrder} (h : order? items = .ok (order, rest)) :
    (order = none ∧ rest = items) ∨
      ∃ found phrase, order = some found ∧ SpellsOrder phrase found ∧ items = phrase ++ rest := by
  simp only [order?, skipKeyword, bind_skipIf_eq_ok_iff, reduceIte, Bool.false_eq_true,
    pure_eq_ok_iff] at h
  rcases h with ⟨found, tail, rfl, hfound, h⟩ | ⟨-, rfl, rfl⟩
  · obtain rfl := Token.isKeyword_iff.mp hfound
    simp only [bind_eq_ok_iff, keyword_eq_ok_iff, pure_eq_ok_iff] at h
    obtain ⟨-, _, rfl, column, _, hcolumn, way, _, hway, rfl, rfl⟩ := h
    obtain ⟨name, hname, rfl⟩ := columnName_sound _ _ _ hcolumn
    obtain ⟨phrase, hphrase, rfl⟩ := direction_sound _ _ _ hway
    exact .inr ⟨_, _, rfl, .intro hname hphrase, by simp⟩
  · exact .inl ⟨rfl, rfl⟩

theorem order?_of_notAt (h : NotAt (·.isKeyword "ORDER") items) :
    order? items = .ok (none, items) :=
  bind_skipKeyword_of_notAt h

theorem order?_complete {phrase : List Token} {order : RowOrder} (h : SpellsOrder phrase order)
    (hrest : NotAt (fun token => token.isWord "DESC" || token.isWord "ASC") rest) :
    order? (phrase ++ rest) = .ok (some order, rest) := by
  obtain @⟨name, phrase, column, way, hcolumn, hway⟩ := h
  have hcolumn := columnName_complete name column (phrase ++ rest) hcolumn trivial
  have hway := direction_complete phrase way rest hway hrest
  simp only [List.cons_append, List.append_assoc]
  refine bind_skipKeyword_self.trans ((bind_of_ok (keyword_self _ _)).trans ?_)
  exact (bind_of_ok hcolumn).trans (bind_of_ok hway)

/-- The row count and the order of a query. -/
def options : TokenParser (Option UInt64 × Option RowOrder) := do
  let early ← limit?
  let order ← order?
  let limit ← if early.isSome then pure early else limit?
  return (limit, order)

theorem options_sound {limit : Option UInt64} {order : Option RowOrder}
    (h : options items = .ok ((limit, order), rest)) :
    ∃ phrase, SpellsOptions phrase limit order ∧ items = phrase ++ rest := by
  simp only [options, bind_eq_ok_iff] at h
  obtain ⟨early, _, hearly, order, _, horder, h⟩ := h
  rcases limit?_sound hearly with ⟨rfl, rfl⟩ | ⟨count, phrase, rfl, hcount, rfl⟩
  · simp only [Option.isSome_none, Bool.false_eq_true, reduceIte, bind_eq_ok_iff, pure_eq_ok_iff,
      Prod.mk.injEq] at h
    obtain ⟨late, _, hlate, ⟨rfl, rfl⟩, rfl⟩ := h
    rcases order?_sound horder with ⟨rfl, rfl⟩ | ⟨order, phrase, rfl, hfound, rfl⟩ <;>
      rcases limit?_sound hlate with ⟨rfl, rfl⟩ | ⟨count, phrase', rfl, hcount, rfl⟩
    · exact ⟨[], .none, rfl⟩
    · exact ⟨_, .limit hcount, rfl⟩
    · exact ⟨_, .order hfound, rfl⟩
    · exact ⟨_, .orderLimit hfound hcount, by simp⟩
  · simp only [Option.isSome_some, reduceIte, bind_eq_ok_iff, pure_eq_ok_iff,
      Prod.mk.injEq] at h
    obtain ⟨_, _, ⟨rfl, rfl⟩, ⟨rfl, rfl⟩, rfl⟩ := h
    rcases order?_sound horder with ⟨rfl, rfl⟩ | ⟨order, phrase', rfl, hfound, rfl⟩
    · exact ⟨_, .limit hcount, rfl⟩
    · exact ⟨_, .limitOrder hcount hfound, by simp⟩

/-- What may follow a query: nothing that could belong to it. -/
def FollowsQuery (rest : List Token) : Prop :=
  rest = [] ∨ ∃ tail, rest = ⟨.symbol, ";"⟩ :: tail

theorem FollowsQuery.notAt_isKeyword (h : FollowsQuery rest) (text : String) :
    NotAt (·.isKeyword text) rest := by
  rcases h with rfl | ⟨tail, rfl⟩
  · exact notAt_nil _
  · rw [notAt_cons]
    rfl

theorem FollowsQuery.notAt_isWord (h : FollowsQuery rest) (text : String) :
    NotAt (·.isWord text) rest := by
  rcases h with rfl | ⟨tail, rfl⟩
  · exact notAt_nil _
  · rw [notAt_cons]
    rfl

theorem FollowsQuery.notAt_dot (h : FollowsQuery rest) : NotAt (·.isSymbol ".") rest := by
  rcases h with rfl | ⟨tail, rfl⟩
  · exact notAt_nil _
  · simp [Token.isSymbol]

theorem options_complete {phrase : List Token} {limit : Option UInt64} {order : Option RowOrder}
    (h : SpellsOptions phrase limit order) (hrest : FollowsQuery rest) :
    options (phrase ++ rest) = .ok ((limit, order), rest) := by
  have hlimit := limit?_of_notAt (hrest.notAt_isKeyword "LIMIT")
  have horder := order?_of_notAt (hrest.notAt_isKeyword "ORDER")
  have hway : NotAt (fun token => token.isWord "DESC" || token.isWord "ASC") rest :=
    notAt_or.mpr ⟨hrest.notAt_isWord "DESC", hrest.notAt_isWord "ASC"⟩
  cases h with
  | none =>
    rw [options, List.nil_append, bind_of_ok hlimit, bind_of_ok horder]
    exact bind_of_ok hlimit
  | limit hcount =>
    rw [options, bind_of_ok (limit?_complete hcount rest), bind_of_ok horder]
    rfl
  | @order phrase order hfound =>
    have hskip : limit? (phrase ++ rest) = .ok (none, phrase ++ rest) :=
      limit?_of_notAt hfound.notAt_limit
    rw [options, bind_of_ok hskip, bind_of_ok (order?_complete hfound hway)]
    exact bind_of_ok hlimit
  | limitOrder hcount hfound =>
    rw [options, List.append_assoc, bind_of_ok (limit?_complete hcount _),
      bind_of_ok (order?_complete hfound hway)]
    rfl
  | @orderLimit first second count order hfound hcount =>
    have hskip : limit? (first ++ (second ++ rest)) = .ok (none, first ++ (second ++ rest)) :=
      limit?_of_notAt hfound.notAt_limit
    have hway : NotAt (fun token => token.isWord "DESC" || token.isWord "ASC")
        (second ++ rest) := by
      cases hcount
      rw [List.cons_append, notAt_cons]
      rfl
    rw [options, List.append_assoc, bind_of_ok hskip, bind_of_ok (order?_complete hfound hway)]
    exact bind_of_ok (limit?_complete hcount rest)

theorem select_eq :
    select = (do
      keyword "SELECT"
      let names ← sepBy1 columnName (skipSymbol ",")
      keyword "FROM"
      let table ← name
      let conditions ← conditions
      let found ← options
      return ⟨.ofNames names, table, conditions, found.1, found.2⟩) := by
  have ite_bind {β γ : Type} (c : Prop) [Decidable c] (a b : TokenParser β)
      (next : β → TokenParser γ) :
      ((if c then a else b) >>= next) = if c then a >>= next else b >>= next := by
    split <;> rfl
  simp only [select, options, bind_assoc, pure_bind, ite_bind]

theorem select_sound : Sound select SpellsSelect := by
  intro items result rest h
  simp only [select_eq, bind_eq_ok_iff, keyword_eq_ok_iff, name_eq_ok_iff, pure_eq_ok_iff] at h
  obtain ⟨-, _, rfl, names, _, hnames, -, _, rfl, table, _, rfl, filters, _, hfilters,
    ⟨limit, order⟩, _, hoptions, rfl, rfl⟩ := h
  obtain ⟨projected, hprojected, rfl⟩ := commaSeparated_sound columnName_sound _ _ _ hnames
  obtain ⟨phrase, hphrase, rfl⟩ := conditions_sound _ _ _ hfilters
  obtain ⟨tail, htail, rfl⟩ := options_sound hoptions
  exact ⟨_, .intro table hprojected hphrase htail, by simp⟩

theorem select_complete : Complete select SpellsSelect FollowsQuery := by
  intro phrase result rest h hrest
  obtain @⟨projected, filters, tail, names, conditions, limit, order, table, hnames, hconditions,
    hoptions⟩ := h
  have hnames := commaSeparated_complete columnName_complete columnName_sound (fun _ => trivial)
    projected names (⟨.keyword, "FROM"⟩ :: ⟨.identifier, table⟩ :: (filters ++ (tail ++ rest)))
    hnames ⟨trivial, by simp [Token.isSymbol]⟩
  have hdot := hoptions.notAt rfl rfl hrest.notAt_dot
  have hand := hoptions.notAt rfl rfl (hrest.notAt_isKeyword "AND")
  have hwhere := hoptions.notAt rfl rfl (hrest.notAt_isKeyword "WHERE")
  have hconditions := conditions_complete filters conditions (tail ++ rest) hconditions
    ⟨hdot, hand, hwhere⟩
  simp only [select_eq, List.cons_append, List.append_assoc]
  rw [bind_of_ok (keyword_self _ _), bind_of_ok hnames, bind_of_ok (keyword_self _ _),
    bind_of_ok (name_self _ _), bind_of_ok hconditions,
    bind_of_ok (options_complete hoptions hrest)]
  rfl

theorem insert_sound : Sound insert SpellsInsert := by
  intro items result rest h
  simp only [insert, bind_eq_ok_iff, keyword_eq_ok_iff, name_eq_ok_iff] at h
  obtain ⟨-, _, rfl, -, _, rfl, table, _, rfl, columns, _, hcolumns, -, _, rfl, values, _,
    hvalues, h⟩ := h
  split at h
  · obtain ⟨_, _, hthrow, -⟩ := bind_eq_ok_iff.mp h
    cases hthrow
  · rename_i hlength
    obtain ⟨rfl, rfl⟩ := pure_eq_ok_iff.mp h
    obtain ⟨left, hleft, rfl⟩ :=
      parenthesised_sound (commaSeparated_sound name_sound) _ _ _ hcolumns
    obtain ⟨right, hright, rfl⟩ :=
      parenthesised_sound (commaSeparated_sound value_sound) _ _ _ hvalues
    exact ⟨_, .intro table hleft hright (Decidable.not_not.mp hlength), by simp⟩

theorem insert_complete : Complete insert SpellsInsert (fun _ => True) := by
  intro phrase result rest h _
  obtain @⟨left, right, columns, values, table, hcolumns, hvalues, hlength⟩ := h
  have hcolumns := parenthesised_commaSeparated_complete name_complete name_sound
    (fun _ => trivial) (fun _ => trivial) left columns (⟨.keyword, "VALUES"⟩ :: (right ++ rest))
    hcolumns trivial
  have hvalues := parenthesised_commaSeparated_complete value_complete value_sound
    (fun _ => by simp [Token.isSymbol]) (fun _ => by simp [Token.isSymbol]) right values rest
    hvalues trivial
  simp only [insert, names, List.cons_append, List.append_assoc]
  rw [bind_of_ok (keyword_self _ _), bind_of_ok (keyword_self _ _), bind_of_ok (name_self _ _),
    bind_of_ok hcolumns, bind_of_ok (keyword_self _ _), bind_of_ok hvalues,
    if_neg (fun hne => hne hlength)]
  rfl

/-! ## Statements -/

theorem statement_sound : Sound statement SpellsBare := by
  intro items result rest h
  cases items with
  | nil => cases h
  | cons first items =>
    have hpeek : (peek? : TokenParser (Option Token)) (first :: items) =
        .ok (some first, first :: items) := rfl
    rw [statement, bind_of_ok hpeek] at h
    dsimp only at h
    split at h
    · obtain ⟨create, hcreate, rfl⟩ := map_eq_ok_iff.mp h
      obtain ⟨phrase, hphrase, hitems⟩ := createTable_sound _ _ _ hcreate
      exact ⟨phrase, .createTable hphrase, hitems⟩
    split at h
    · obtain ⟨drop, hdrop, rfl⟩ := map_eq_ok_iff.mp h
      obtain ⟨phrase, hphrase, hitems⟩ := dropTable_sound _ _ _ hdrop
      exact ⟨phrase, .dropTable hphrase, hitems⟩
    split at h
    · obtain ⟨query, hquery, rfl⟩ := map_eq_ok_iff.mp h
      obtain ⟨phrase, hphrase, hitems⟩ := select_sound _ _ _ hquery
      exact ⟨phrase, .select hphrase, hitems⟩
    split at h
    · obtain ⟨row, hrow, rfl⟩ := map_eq_ok_iff.mp h
      obtain ⟨phrase, hphrase, hitems⟩ := insert_sound _ _ _ hrow
      exact ⟨phrase, .insert hphrase, hitems⟩
    · cases h

theorem statement_complete : Complete statement SpellsBare FollowsQuery := by
  intro phrase result rest h hrest
  cases h with
  | createTable h =>
    have hcreate := createTable_complete _ _ rest h trivial
    cases h
    exact map_eq_ok_iff.mpr ⟨_, hcreate, rfl⟩
  | dropTable h =>
    have hdrop := dropTable_complete _ _ rest h trivial
    cases h
    exact map_eq_ok_iff.mpr ⟨_, hdrop, rfl⟩
  | select h =>
    have hquery := select_complete _ _ rest h hrest
    cases h
    exact map_eq_ok_iff.mpr ⟨_, hquery, rfl⟩
  | insert h =>
    have hrow := insert_complete _ _ rest h trivial
    cases h
    exact map_eq_ok_iff.mpr ⟨_, hrow, rfl⟩

theorem ending_of_notAt (h : NotAt (·.isSymbol ";") items) {u : Unit} :
    ending items = .ok (u, rest) ↔ items = [] ∧ rest = [] := by
  rw [ending, bind_skipSymbol_of_notAt h, bind_of_ok (get_apply items)]
  cases items with
  | nil => simp [pure_eq_ok_iff]
  | cons token items =>
    simp only [reduceCtorEq, false_and, iff_false]
    exact unexpected_ne_ok _

theorem ending_semicolon {u : Unit} :
    ending (⟨.symbol, ";"⟩ :: items) = .ok (u, rest) ↔ items = [] ∧ rest = [] := by
  rw [ending, bind_skipSymbol_self, bind_of_ok (get_apply items)]
  cases items with
  | nil => simp [pure_eq_ok_iff]
  | cons token items =>
    simp only [reduceCtorEq, false_and, iff_false]
    exact unexpected_ne_ok _

theorem wholeStatement_sound {result : Statement} (h : wholeStatement items = .ok (result, rest)) :
    SpellsStatement items result := by
  simp only [wholeStatement, bind_eq_ok_iff, pure_eq_ok_iff] at h
  obtain ⟨_, middle, hstatement, ⟨⟩, _, hending, rfl, rfl⟩ := h
  obtain ⟨phrase, hphrase, rfl⟩ := statement_sound _ _ _ hstatement
  rcases at_or_notAt_symbol ";" middle with ⟨tail, rfl⟩ | hnot
  · obtain ⟨rfl, -⟩ := ending_semicolon.mp hending
    exact .semicolon hphrase
  · obtain ⟨rfl, -⟩ := (ending_of_notAt hnot).mp hending
    rw [List.append_nil]
    exact .plain hphrase

theorem wholeStatement_complete {result : Statement} (h : SpellsStatement items result) :
    wholeStatement items = .ok (result, []) := by
  cases h with
  | plain h =>
    have hstatement := statement_complete _ _ [] h (.inl rfl)
    rw [List.append_nil] at hstatement
    rw [wholeStatement, bind_of_ok hstatement]
    rfl
  | semicolon h =>
    have hstatement := statement_complete _ _ [⟨.symbol, ";"⟩] h (.inr ⟨[], rfl⟩)
    rw [wholeStatement, bind_of_ok hstatement]
    rfl

end TokenParser

/-- A statement is read from a token list exactly when the list spells it. -/
theorem Statement.ofTokens_eq_ok_iff {tokens : List Token} {statement : Statement} :
    ofTokens tokens = .ok statement ↔ SpellsStatement tokens statement := by
  have hrun : ofTokens tokens = (TokenParser.wholeStatement tokens).map (·.1) := rfl
  rw [hrun]
  constructor
  · intro h
    cases hwhole : TokenParser.wholeStatement tokens with
    | error error => simp [hwhole, Except.map] at h
    | ok pair =>
      obtain ⟨result, rest⟩ := pair
      simp only [hwhole, Except.map, Except.ok.injEq] at h
      subst h
      exact TokenParser.wholeStatement_sound hwhole
  · intro h
    rw [TokenParser.wholeStatement_complete h]
    rfl

end CqlCompiler
