import CqlCompiler.Proofs.Reading.Statements

/-!
# Places in a statement

`ValuePlace` and `CountPlace` say which tokens come before a value or a row
count, and what the statement has there.  The tokens after the place are not
looked at: whatever they are, reading goes on at the place with the reader of
the value or the row count (`Reaches`).  There is one rule for each way to build
a parser, and one lemma for each phrase that a place can be in.
-/

namespace CqlCompiler

/-! ## Reaching a place -/

namespace Parser

variable {τ ε α β γ : Type}

/-- After these items the parser goes on with another one, the inner one, and
its own result holds what the inner one finds. -/
def Reaches (before : List τ) (inner : Parser τ ε β) (parser : Parser τ ε α)
    (Holds : α → β → Prop) : Prop :=
  ∃ next : β → Parser τ ε α, (∀ items, parser (before ++ items) = (inner >>= next) items) ∧
    ∀ found items result rest, next found items = .ok (result, rest) → Holds result found

section Reaches

variable {before phrase : List τ} {inner : Parser τ ε β} {Holds : α → β → Prop}

theorem reaches_self (parser : Parser τ ε α) : Reaches [] parser parser (· = ·) := by
  refine ⟨pure, fun items => ?_, fun found items result rest h => ?_⟩
  · rw [bind_pure, List.nil_append]
  · exact (pure_eq_ok_iff.mp h).1

/-- A parser that after a phrase does what another one does. -/
theorem Reaches.prepend {parser next : Parser τ ε α} (h : Reaches before inner next Holds)
    (hparser : ∀ items, parser (phrase ++ (before ++ items)) = next (before ++ items)) :
    Reaches (phrase ++ before) inner parser Holds := by
  obtain ⟨others, hothers, hholds⟩ := h
  refine ⟨others, fun items => ?_, hholds⟩
  rw [List.append_assoc, hparser, hothers]

/-- The first part of a sequence takes a phrase before the place. -/
theorem Reaches.after {first : Parser τ ε γ} {next : γ → Parser τ ε α} {found : γ}
    {Spells : List τ → γ → Prop} {Follow : List τ → Prop}
    (h : Reaches before inner (next found) Holds) (hfirst : Complete first Spells Follow)
    (hphrase : Spells phrase found) (hfollow : ∀ items, Follow (before ++ items)) :
    Reaches (phrase ++ before) inner (first >>= next) Holds :=
  h.prepend fun items => bind_of_ok (hfirst _ _ _ hphrase (hfollow items))

theorem Reaches.afterItem {first : Parser τ ε γ} {next : γ → Parser τ ε α} {item : τ} {found : γ}
    (hfirst : ∀ items, first (item :: items) = .ok (found, items))
    (h : Reaches before inner (next found) Holds) :
    Reaches (item :: before) inner (first >>= next) Holds := by
  rw [← List.singleton_append]
  exact h.prepend fun items => bind_of_ok (hfirst _)

/-- The place is in the first part of a sequence. -/
theorem Reaches.bind {first : Parser τ ε γ} {next : γ → Parser τ ε α} {Part : γ → β → Prop}
    (h : Reaches before inner first Part)
    (hnext : ∀ part found, Part part found → ∀ items result rest,
      next part items = .ok (result, rest) → Holds result found) :
    Reaches before inner (first >>= next) Holds := by
  obtain ⟨others, hothers, hpart⟩ := h
  refine ⟨fun found => others found >>= next, fun items => ?_, fun found items result rest h => ?_⟩
  · rw [← bind_assoc]
    show (first (before ++ items)).bind _ = _
    rw [hothers]
    rfl
  · obtain ⟨part, middle, hmiddle, hlast⟩ := bind_eq_ok_iff.mp h
    exact hnext part found (hpart _ _ _ _ hmiddle) _ _ _ hlast

theorem Reaches.map {parser : Parser τ ε γ} {f : γ → α} {Part : γ → β → Prop}
    (h : Reaches before inner parser Part)
    (hf : ∀ part found, Part part found → Holds (f part) found) :
    Reaches before inner (f <$> parser) Holds := by
  rw [← bind_pure_comp]
  refine h.bind fun part found hpart items result rest hpure => ?_
  rw [(pure_eq_ok_iff.mp hpure).1]
  exact hf part found hpart

theorem Reaches.mono {parser : Parser τ ε α} {Part : α → β → Prop}
    (h : Reaches before inner parser Part)
    (hpart : ∀ result found, Part result found → Holds result found) :
    Reaches before inner parser Holds := by
  rw [← id_map parser]
  exact h.map hpart

theorem Reaches.eq_error {parser : Parser τ ε α} {items : List τ} {cause : ε}
    (h : Reaches before inner parser Holds) (hinner : inner items = .error cause) :
    parser (before ++ items) = .error cause := by
  obtain ⟨next, hnext, -⟩ := h
  rw [hnext]
  show (inner items).bind _ = _
  rw [hinner]
  rfl

/-- The list goes on after these results with one that holds what is found. -/
def HoldsAfter (earlier : List α) (Holds : α → β → Prop) (results : List α) (found : β) : Prop :=
  ∃ result later, Holds result found ∧ results = earlier ++ result :: later

theorem Reaches.cons {parser : Parser τ ε (List α)} {results : List α}
    (h : Reaches before inner parser (HoldsAfter results Holds)) (first : α) :
    Reaches before inner ((first :: ·) <$> parser) (HoldsAfter (first :: results) Holds) := by
  refine h.map fun part found hpart => ?_
  obtain ⟨result, later, hholds, rfl⟩ := hpart
  exact ⟨result, later, hholds, rfl⟩

/-- The place is in a round of a repetition, after other rounds. -/
theorem Reaches.many {step : Parser τ ε (Option α)} {Spells : List τ → α → Prop}
    {Follow : List τ → Prop} {front : List τ} {earlier : List α}
    (h : Reaches before inner step fun round found =>
      ∃ result, round = some result ∧ Holds result found)
    (hadvances : Advances step) (hearlier : Repeated Spells front earlier)
    (hstep : ∀ phrase result rest, Spells phrase result → Follow rest →
      step (phrase ++ rest) = .ok (some result, rest))
    (hnext : ∀ phrase result rest, Spells phrase result → Follow (phrase ++ rest))
    (hbefore : ∀ items, Follow (before ++ items)) :
    Reaches (front ++ before) inner (Parser.many step) (HoldsAfter earlier Holds) := by
  rw [many_eq_bind hadvances]
  induction hearlier with
  | nil =>
    refine h.bind fun round found hround items results rest hrun => ?_
    obtain ⟨result, rfl, hholds⟩ := hround
    obtain ⟨later, -, rfl⟩ := map_eq_ok_iff.mp hrun
    exact ⟨result, later, hholds, rfl⟩
  | @cons phrase others first results hphrase hothers ih =>
    rw [← many_eq_bind hadvances] at ih
    rw [List.append_assoc]
    refine (ih.cons first).prepend fun items => ?_
    have hitems : Follow (others ++ before ++ items) := by
      rw [List.append_assoc]
      exact hothers.follow_append hnext (hbefore items)
    exact bind_of_ok (hstep _ _ _ hphrase hitems)

end Reaches

end Parser

/-! ## Lists -/

namespace TokenParser

open CqlCompiler.Parser

variable {α β : Type} {inner : TokenParser β}

/-- A phrase, and further ones as long as a step finds them. -/
def phrases (item : TokenParser α) (step : TokenParser (Option α)) : TokenParser (List α) := do
  let first ← item
  let others ← many step
  return first :: others

section Lists

variable {item : TokenParser α} {step : TokenParser (Option α)} {mark : Token}
  {Spells : List Token → α → Prop} {before : List Token} {Holds : α → β → Prop}

theorem phrases_followed {phrase items : List Token} {result : α} (hadvances : Advances step)
    (hitem : item (phrase ++ mark :: items) = .ok (result, mark :: items))
    (hstep : step (mark :: items) = (some <$> item) items) :
    phrases item step (phrase ++ mark :: items) = ((result :: ·) <$> phrases item step) items := by
  have hround : ((some <$> item) >>= afterRound (many step)) = phrases item step := by
    simp only [phrases, bind_map_left, afterRound, bind_pure_comp]
  have hmany : many step (mark :: items) = phrases item step items := by
    rw [many_eq_bind hadvances, ← hround]
    show (step (mark :: items)).bind _ = _
    rw [hstep]
    rfl
  rw [phrases, bind_of_ok hitem, bind_pure_comp]
  show (many step (mark :: items)).bind _ = _
  rw [hmany]
  rfl

/-- Phrases with a mark each begin as the first of them does. -/
theorem begins_append {front rest : List Token} {earlier : List α} {Begins : List Token → Prop}
    (hearlier : Repeated (Followed mark Spells) front earlier)
    (hbegins : ∀ phrase result rest, Spells phrase result → Begins (phrase ++ rest))
    (hrest : Begins rest) : Begins (front ++ rest) := by
  refine hearlier.follow_append (fun _ _ rest hfollowed => ?_) hrest
  obtain ⟨hphrase⟩ := hfollowed
  rw [List.append_assoc]
  exact hbegins _ _ _ hphrase

/-- The place is in a phrase of a list, after other phrases with a mark each. -/
theorem reaches_phrases {front : List Token} {earlier : List α}
    (h : Reaches before inner item Holds) (hadvances : Advances step)
    (hearlier : Repeated (Followed mark Spells) front earlier)
    (hitem : ∀ phrase result rest, Spells phrase result →
      item (phrase ++ mark :: rest) = .ok (result, mark :: rest))
    (Begins : List Token → Prop)
    (hstep : ∀ items, Begins items → step (mark :: items) = (some <$> item) items)
    (hbefore : ∀ items, Begins (before ++ items))
    (hbegins : ∀ phrase result rest, Spells phrase result → Begins (phrase ++ rest)) :
    Reaches (front ++ before) inner (phrases item step) (HoldsAfter earlier Holds) := by
  induction hearlier with
  | nil =>
    refine h.bind fun result found hholds items results rest hrun => ?_
    obtain ⟨later, middle, -, hpure⟩ := bind_eq_ok_iff.mp hrun
    exact ⟨result, later, hholds, (pure_eq_ok_iff.mp hpure).1⟩
  | @cons _ others first results hfirst hothers ih =>
    -- the first phrase and its mark are taken, and what follows is a list again
    obtain @⟨phrase, _, hphrase⟩ := hfirst
    rw [List.append_assoc]
    refine (ih.cons first).prepend fun items => ?_
    have hitems : Begins (others ++ before ++ items) := by
      rw [List.append_assoc]
      exact begins_append hothers hbegins (hbefore items)
    rw [List.append_assoc]
    exact phrases_followed hadvances (hitem _ _ _ hphrase) (hstep _ hitems)

/-- The same for a list with a mark between its phrases. -/
theorem reaches_separated {front : List Token} {earlier : List α} {p : Token → Bool}
    {Follow : List Token → Prop} (h : Reaches before inner item Holds) (hsound : Sound item Spells)
    (hcomplete : Complete item Spells Follow) (hmark : ∀ found, p found = true ↔ found = mark)
    (hfollow : ∀ rest, Follow (mark :: rest))
    (hearlier : Repeated (Followed mark Spells) front earlier) :
    Reaches (front ++ before) inner (sepBy1 item (skipIf p)) (HoldsAfter earlier Holds) :=
  reaches_phrases h hsound.advances_nextItem hearlier
    (fun _ _ _ hphrase => hcomplete _ _ _ hphrase (hfollow _)) (fun _ => True)
    (fun _ _ => bind_skipIf_of_at ((hmark mark).mpr rfl)) (fun _ => trivial) fun _ _ _ _ => trivial

end Lists

/-! ## Phrases -/

theorem reaches_condition {left : List Token} {column : String}
    (hcolumn : SpellsColumnName left column) :
    Reaches (left ++ [⟨.symbol, "="⟩]) value condition fun found v => found = ⟨column, v⟩ := by
  refine Reaches.after ?_ columnName_complete hcolumn fun _ => trivial
  refine Reaches.afterItem (symbol_self "=") ?_
  refine (reaches_self value).bind fun part v hpart items found rest hrun => ?_
  subst hpart
  exact (pure_eq_ok_iff.mp hrun).1

theorem reaches_conditions {front left : List Token} {earlier : List Condition} {column : String}
    (hearlier : Repeated (Followed ⟨.keyword, "AND"⟩ SpellsCondition) front earlier)
    (hcolumn : SpellsColumnName left column) :
    Reaches (⟨.keyword, "WHERE"⟩ :: (front ++ (left ++ [⟨.symbol, "="⟩]))) value conditions
      fun found v => ∃ later, found = earlier ++ ⟨column, v⟩ :: later := by
  refine Reaches.afterItem (fun items => skipIf_eq_true_iff.mpr ⟨_, rfl, rfl⟩) ?_
  refine (reaches_separated (reaches_condition hcolumn) condition_sound condition_complete
    (fun _ => Token.isKeyword_iff) (fun rest => by simp [Token.isSymbol]) hearlier).mono ?_
  rintro found v ⟨_, later, rfl, rfl⟩
  exact ⟨later, rfl⟩

theorem reaches_parenthesised {phrase : TokenParser α} {before : List Token} {Holds : α → β → Prop}
    (h : Reaches before inner phrase Holds) :
    Reaches (⟨.symbol, "("⟩ :: before) inner (parenthesised phrase) Holds := by
  refine Reaches.afterItem (symbol_self "(") ?_
  refine h.bind fun part found hpart items result rest hrun => ?_
  obtain ⟨_, _, -, hpure⟩ := bind_eq_ok_iff.mp hrun
  rw [(pure_eq_ok_iff.mp hpure).1]
  exact hpart

/-- A value of a row. -/
theorem reaches_insert {left front : List Token} {columns : List String} {earlier : List Value}
    (table : String) (hcolumns : Parenthesised (CommaSeparated SpellsName) left columns)
    (hearlier : Repeated (Followed ⟨.symbol, ","⟩ SpellsValue) front earlier) :
    Reaches (⟨.keyword, "INSERT"⟩ :: ⟨.keyword, "INTO"⟩ :: ⟨.identifier, table⟩ ::
        (left ++ ⟨.keyword, "VALUES"⟩ :: ⟨.symbol, "("⟩ :: front)) value insert
      fun row v => ∃ later, row.values = earlier ++ v :: later := by
  have hnames : Complete (parenthesised names) _ _ :=
    parenthesised_commaSeparated_complete name_complete name_sound (fun _ => trivial)
      (fun _ => trivial)
  have hvalues := reaches_separated (reaches_self value) value_sound value_complete
    (fun _ => Token.isSymbol_iff) (fun rest => by simp [Token.isSymbol]) hearlier
  rw [List.append_nil] at hvalues
  refine Reaches.afterItem (keyword_self "INSERT") (Reaches.afterItem (keyword_self "INTO") ?_)
  refine Reaches.afterItem (name_self table) ?_
  refine Reaches.after ?_ hnames hcolumns fun _ => trivial
  refine Reaches.afterItem (keyword_self "VALUES") ?_
  refine (reaches_parenthesised hvalues).bind fun values v hpart items row rest hrun => ?_
  obtain ⟨_, later, rfl, rfl⟩ := hpart
  split at hrun
  · obtain ⟨_, _, hthrow, -⟩ := bind_eq_ok_iff.mp hrun
    cases hthrow
  · rw [(pure_eq_ok_iff.mp hrun).1]
    exact ⟨later, rfl⟩

/-- A query after its table. -/
def queryTail (names : List String) (table : String) : TokenParser Select := do
  let conditions ← conditions
  let found ← options
  return ⟨.ofNames names, table, conditions, found.1, found.2⟩

theorem reaches_select {projected before : List Token} {names : List String} {table : String}
    {Holds : Select → β → Prop} (hnames : CommaSeparated SpellsColumnName projected names)
    (h : Reaches before inner (queryTail names table) Holds) :
    Reaches (⟨.keyword, "SELECT"⟩ ::
      (projected ++ ⟨.keyword, "FROM"⟩ :: ⟨.identifier, table⟩ :: before)) inner select Holds := by
  have hlist := commaSeparated_complete columnName_complete columnName_sound (fun _ => trivial)
  rw [select_eq]
  refine Reaches.afterItem (keyword_self "SELECT") ?_
  refine Reaches.after ?_ hlist hnames fun items => ⟨trivial, by simp [Token.isSymbol]⟩
  exact Reaches.afterItem (keyword_self "FROM") (Reaches.afterItem (name_self table) h)

/-- The value of a condition. -/
theorem reaches_select_value {projected front left : List Token} {names : List String}
    {earlier : List Condition} {column : String} (table : String)
    (hnames : CommaSeparated SpellsColumnName projected names)
    (hearlier : Repeated (Followed ⟨.keyword, "AND"⟩ SpellsCondition) front earlier)
    (hcolumn : SpellsColumnName left column) :
    Reaches (⟨.keyword, "SELECT"⟩ :: (projected ++ ⟨.keyword, "FROM"⟩ :: ⟨.identifier, table⟩ ::
        ⟨.keyword, "WHERE"⟩ :: (front ++ (left ++ [⟨.symbol, "="⟩])))) value select
      fun query v => ∃ later, query.conditions = earlier ++ ⟨column, v⟩ :: later := by
  refine reaches_select hnames ((reaches_conditions hearlier hcolumn).bind ?_)
  intro conditions v hconditions items query rest hrun
  obtain ⟨found, _, -, hpure⟩ := bind_eq_ok_iff.mp hrun
  rw [(pure_eq_ok_iff.mp hpure).1]
  exact hconditions

theorem reaches_limit? :
    Reaches [⟨.keyword, "LIMIT"⟩] rowCount limit? fun limit count => limit = some count := by
  rw [limit?_eq]
  refine Reaches.afterItem (fun items => skipIf_eq_true_iff.mpr ⟨_, rfl, rfl⟩) ?_
  refine (reaches_self rowCount).map fun part count hpart => ?_
  rw [hpart]

/-- The row count may stand before or after the order. -/
theorem reaches_options {phrase : List Token}
    (horder : phrase = [] ∨ ∃ order, SpellsOrder phrase order) :
    Reaches (phrase ++ [⟨.keyword, "LIMIT"⟩]) rowCount options
      fun found count => found.1 = some count := by
  rcases horder with rfl | ⟨order, horder⟩
  · refine reaches_limit?.bind fun early count hearly items found rest hrun => ?_
    subst hearly
    obtain ⟨order, _, -, hrun⟩ := bind_eq_ok_iff.mp hrun
    obtain ⟨limit, _, hlimit, hpure⟩ := bind_eq_ok_iff.mp hrun
    rw [(pure_eq_ok_iff.mp hpure).1]
    exact (pure_eq_ok_iff.mp hlimit).1
  · have hlate : Reaches [⟨.keyword, "LIMIT"⟩] rowCount (do return (← limit?, some order))
        fun found count => found.1 = some count := by
      refine reaches_limit?.bind fun limit count hlimit items found rest hrun => ?_
      rw [(pure_eq_ok_iff.mp hrun).1]
      exact hlimit
    refine hlate.prepend fun items => ?_
    rw [options, bind_of_ok (limit?_of_notAt horder.notAt_limit),
      bind_of_ok (order?_complete horder (by simp [Token.isWord]; decide))]
    rfl

/-- The row count of a query. -/
theorem reaches_select_count {projected filters phrase : List Token} {names : List String}
    {conditions : List Condition} (table : String)
    (hnames : CommaSeparated SpellsColumnName projected names)
    (hconditions : SpellsConditions filters conditions)
    (horder : phrase = [] ∨ ∃ order, SpellsOrder phrase order) :
    Reaches (⟨.keyword, "SELECT"⟩ :: (projected ++ ⟨.keyword, "FROM"⟩ :: ⟨.identifier, table⟩ ::
        (filters ++ (phrase ++ [⟨.keyword, "LIMIT"⟩])))) rowCount select
      fun query count => query.limit = some count := by
  have hfollow {p : Token → Bool} (hlimit : p ⟨.keyword, "LIMIT"⟩ = false)
      (hby : p ⟨.keyword, "ORDER"⟩ = false) (items : List Token) :
      NotAt p (phrase ++ [⟨.keyword, "LIMIT"⟩] ++ items) := by
    rcases horder with rfl | ⟨order, ⟨⟩⟩
    · exact (notAt_cons ..).mpr hlimit
    · exact (notAt_cons ..).mpr hby
  refine reaches_select hnames (Reaches.after ?_ conditions_complete hconditions fun items =>
    ⟨hfollow rfl rfl items, hfollow rfl rfl items, hfollow rfl rfl items⟩)
  refine (reaches_options horder).bind fun found count hfound items query rest hrun => ?_
  rw [(pure_eq_ok_iff.mp hrun).1]
  exact hfound

/-! ### Tables -/

theorem reaches_columnClause? {word : Token} (hword : word.isWord "DEFAULT" = true) :
    Reaches [word] defaultValue columnClause?
      fun round v => ∃ clause, round = some clause ∧ clause = .default v := by
  have hdefault : Reaches [] defaultValue (do return some (.default (← defaultValue)))
      fun round v => ∃ clause, round = some clause ∧ clause = ColumnClause.default v := by
    refine (reaches_self defaultValue).bind fun part v hpart items round rest hrun => ?_
    subst hpart
    exact ⟨_, (pure_eq_ok_iff.mp hrun).1, rfl⟩
  rw [← List.append_nil [word]]
  refine hdefault.prepend fun items => ?_
  have hno : NotAt (·.isWord "NOT") (word :: items) := notAt_isWord hword (by decide)
  have hnull : NotAt (·.isWord "NULL") (word :: items) := notAt_isWord hword (by decide)
  exact (bind_skipWord_of_notAt hno).trans ((bind_skipWord_of_notAt hnull).trans
    (bind_skipWord_of_at hword))

/-- The tokens of a column up to the value of a default, and the column that
they, the default and the remarks after it define. -/
inductive BeforeDefault : List Token → (List ColumnClause → Column) → Prop where
  | intro {sizes remarks : List Token} {clauses : List ColumnClause} {word : Token}
      (name typeName : String) (hsizes : SpellsSizes sizes ())
      (hclauses : Repeated SpellsClause remarks clauses) (hword : word.isWord "DEFAULT" = true) :
      BeforeDefault
        (⟨.identifier, name⟩ :: ⟨.identifier, typeName⟩ :: (sizes ++ (remarks ++ [word])))
        fun later => ⟨name, .ofName typeName, constraintsOf (clauses ++ later)⟩

variable {before front : List Token} {columnWith : List ColumnClause → Column}

theorem reaches_column (h : BeforeDefault before columnWith) :
    Reaches before defaultValue column fun found v =>
      ∃ later inKey, found = .column (columnWith (.default v :: later)) inKey := by
  obtain @⟨sizes, remarks, clauses, word, columnName, typeName, hsizes, hclauses, hword⟩ := h
  have hsymbol (text : String) (items : List Token) :
      NotAt (·.isSymbol text) (remarks ++ [word] ++ items) := by
    rw [List.append_assoc]
    refine hclauses.follow_append (fun _ _ _ hclause => hclause.notAt_isSymbol text) ?_
    exact (notAt_cons ..).mpr (Token.isSymbol_of_isWord hword text)
  have hmany := (reaches_columnClause? hword).many advances_columnClause? hclauses
    (fun _ _ _ hclause hrest => columnClause?_complete hclause hrest)
    (fun _ _ _ hclause => hclause.notAt_isSymbol ".")
    (fun items => (notAt_cons ..).mpr (Token.isSymbol_of_isWord hword "."))
  refine Reaches.afterItem (name_self columnName) (Reaches.afterItem (name_self typeName) ?_)
  refine Reaches.after ?_ sizes_complete hsizes (hsymbol "(")
  refine hmany.bind fun found v hfound items result rest hrun => ?_
  obtain ⟨_, later, rfl, rfl⟩ := hfound
  exact ⟨later, _, (pure_eq_ok_iff.mp hrun).1⟩

theorem reaches_elements {earlier : List TableElement}
    (hearlier : Repeated (Followed ⟨.symbol, ","⟩ SpellsElement) front earlier)
    (h : BeforeDefault before columnWith) :
    Reaches (front ++ before) defaultValue elements fun parts v => ∃ later others,
      columnsOf parts = columnsOf earlier ++ columnWith (.default v :: later) :: others := by
  have hclose (items : List Token) : NotAt (·.isSymbol ")") (before ++ items) := by
    obtain ⟨columnName, typeName, -, -, -⟩ := h
    simp [Token.isSymbol]
  have helement : Reaches before defaultValue element fun found v =>
      ∃ later inKey, found = .column (columnWith (.default v :: later)) inKey := by
    rw [← List.nil_append before]
    refine (reaches_column h).prepend fun items => ?_
    obtain ⟨columnName, typeName, -, -, -⟩ := h
    rfl
  have hlist := reaches_phrases helement advances_nextElement hearlier
    (fun _ _ _ hphrase => element_complete _ _ _ hphrase (.comma _)) (NotAt (·.isSymbol ")"))
    (fun _ => nextElement_comma_of_notAt) hclose fun _ _ _ hphrase => hphrase.notAt_isSymbol
  have hparts : Reaches (front ++ before) defaultValue (phrases element nextElement) fun parts v =>
      ∃ later others, columnsOf parts =
        columnsOf earlier ++ columnWith (.default v :: later) :: others := by
    refine hlist.mono fun parts v hpart => ?_
    obtain ⟨_, others, ⟨later, inKey, rfl⟩, rfl⟩ := hpart
    exact ⟨later, columnsOf others, by simp [columnsOf]⟩
  rw [← List.nil_append (front ++ before)]
  refine hparts.prepend fun items => elements_of_notAt ?_
  rw [List.nil_append, List.append_assoc]
  exact begins_append hearlier (fun _ _ _ hphrase => hphrase.notAt_isSymbol) (hclose items)

/-- The default of a column. -/
theorem reaches_createTable {guard : List Token} {ifNotExists : Bool} {earlier : List TableElement}
    (table : String) (hguard : SpellsIfNotExists guard ifNotExists)
    (hearlier : Repeated (Followed ⟨.symbol, ","⟩ SpellsElement) front earlier)
    (h : BeforeDefault before columnWith) :
    Reaches (⟨.keyword, "CREATE"⟩ :: ⟨.keyword, "TABLE"⟩ :: (guard ++ ⟨.identifier, table⟩ ::
        ⟨.symbol, "("⟩ :: (front ++ before))) defaultValue createTable fun create v =>
      ∃ later others, create.columns =
        columnsOf earlier ++ columnWith (.default v :: later) :: others := by
  have hbody : Reaches (⟨.identifier, table⟩ :: ⟨.symbol, "("⟩ :: (front ++ before)) defaultValue
      (tableBody ifNotExists) fun create v => ∃ later others, create.columns =
        columnsOf earlier ++ columnWith (.default v :: later) :: others := by
    refine Reaches.afterItem (name_self table) (Reaches.afterItem (symbol_self "(") ?_)
    refine (reaches_elements hearlier h).bind fun parts v hparts items create rest hrun => ?_
    split at hrun
    · obtain ⟨_, _, hunexpected, -⟩ := bind_eq_ok_iff.mp hrun
      exact absurd hunexpected (unexpected_ne_ok _)
    · obtain ⟨_, _, -, hpure⟩ := bind_eq_ok_iff.mp hrun
      rw [(pure_eq_ok_iff.mp hpure).1]
      exact hparts
  rw [createTable_eq]
  refine Reaches.afterItem (keyword_self "CREATE") (Reaches.afterItem (keyword_self "TABLE") ?_)
  cases hguard with
  | absent => exact hbody.prepend fun items => rfl
  | present hno =>
    refine hbody.prepend fun items => bind_skipKeyword_self.trans ?_
    exact (bind_of_ok (word_of_isWord hno _)).trans (bind_of_ok (keyword_self "EXISTS" _))

/-! ## Whole statements -/

theorem reaches_wholeStatement {kind : TokenParser α} {f : α → Statement} {Holds : α → β → Prop}
    (h : Reaches before inner kind Holds)
    (hkind : ∀ items, statement (before ++ items) = (f <$> kind) (before ++ items)) :
    Reaches before inner wholeStatement
      fun found v => ∃ result, found = f result ∧ Holds result v := by
  have hstatement : Reaches ([] ++ before) inner statement
      fun found v => ∃ result, found = f result ∧ Holds result v :=
    (h.map fun result v hholds => ⟨result, rfl, hholds⟩).prepend hkind
  refine hstatement.bind fun part v hpart items found rest hrun => ?_
  obtain ⟨_, _, -, hpure⟩ := bind_eq_ok_iff.mp hrun
  rw [(pure_eq_ok_iff.mp hpure).1]
  exact hpart

end TokenParser

open CqlCompiler.Parser CqlCompiler.TokenParser

/-- The tokens before a value of a statement, the reader that the value is left
to, and what it is for a statement to hold the value. -/
inductive ValuePlace : List Token → TokenParser Value → (Statement → Value → Prop) → Prop where
  | condition {projected front left : List Token} {names : List String} {earlier : List Condition}
      {column : String} (table : String)
      (hnames : CommaSeparated SpellsColumnName projected names)
      (hearlier : Repeated (Followed ⟨.keyword, "AND"⟩ SpellsCondition) front earlier)
      (hcolumn : SpellsColumnName left column) :
      ValuePlace
        (⟨.keyword, "SELECT"⟩ :: (projected ++ ⟨.keyword, "FROM"⟩ :: ⟨.identifier, table⟩ ::
          ⟨.keyword, "WHERE"⟩ :: (front ++ (left ++ [⟨.symbol, "="⟩])))) value
        fun statement v => ∃ query, statement = .select query ∧
          ∃ later, query.conditions = earlier ++ ⟨column, v⟩ :: later
  | row {left front : List Token} {columns : List String} {earlier : List Value} (table : String)
      (hcolumns : Parenthesised (CommaSeparated SpellsName) left columns)
      (hearlier : Repeated (Followed ⟨.symbol, ","⟩ SpellsValue) front earlier) :
      ValuePlace
        (⟨.keyword, "INSERT"⟩ :: ⟨.keyword, "INTO"⟩ :: ⟨.identifier, table⟩ ::
          (left ++ ⟨.keyword, "VALUES"⟩ :: ⟨.symbol, "("⟩ :: front)) value
        fun statement v => ∃ row, statement = .insert row ∧
          ∃ later, row.values = earlier ++ v :: later
  | default {guard front column : List Token} {ifNotExists : Bool} {earlier : List TableElement}
      {columnWith : List ColumnClause → Column} (table : String)
      (hguard : SpellsIfNotExists guard ifNotExists)
      (hearlier : Repeated (Followed ⟨.symbol, ","⟩ SpellsElement) front earlier)
      (hcolumn : BeforeDefault column columnWith) :
      ValuePlace
        (⟨.keyword, "CREATE"⟩ :: ⟨.keyword, "TABLE"⟩ :: (guard ++ ⟨.identifier, table⟩ ::
          ⟨.symbol, "("⟩ :: (front ++ column))) defaultValue
        fun statement v => ∃ create, statement = .createTable create ∧
          ∃ later others, create.columns =
            columnsOf earlier ++ columnWith (.default v :: later) :: others

/-- A whole token list is read up to a value, and the value is read next. -/
theorem ValuePlace.reaches {before : List Token} {reader : TokenParser Value}
    {Holds : Statement → Value → Prop} (h : ValuePlace before reader Holds) :
    Reaches before reader wholeStatement Holds := by
  cases h with
  | condition table hnames hearlier hcolumn =>
    exact reaches_wholeStatement (reaches_select_value table hnames hearlier hcolumn) fun _ => rfl
  | row table hcolumns hearlier =>
    exact reaches_wholeStatement (reaches_insert table hcolumns hearlier) fun _ => rfl
  | default table hguard hearlier hcolumn =>
    exact reaches_wholeStatement (reaches_createTable table hguard hearlier hcolumn) fun _ => rfl

/-- The tokens before the row count of a query. -/
inductive CountPlace : List Token → Prop where
  | intro {projected filters order : List Token} {names : List String}
      {conditions : List Condition} (table : String)
      (hnames : CommaSeparated SpellsColumnName projected names)
      (hconditions : SpellsConditions filters conditions)
      (horder : order = [] ∨ ∃ found, SpellsOrder order found) :
      CountPlace (⟨.keyword, "SELECT"⟩ :: (projected ++ ⟨.keyword, "FROM"⟩ ::
        ⟨.identifier, table⟩ :: (filters ++ (order ++ [⟨.keyword, "LIMIT"⟩]))))

theorem CountPlace.reaches {before : List Token} (h : CountPlace before) :
    Reaches before rowCount wholeStatement fun statement count =>
      ∃ query, statement = .select query ∧ query.limit = some count := by
  obtain ⟨table, hnames, hconditions, horder⟩ := h
  exact reaches_wholeStatement (reaches_select_count table hnames hconditions horder) fun _ => rfl

end CqlCompiler
