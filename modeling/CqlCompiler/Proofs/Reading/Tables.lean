import CqlCompiler.Proofs.Reading.Phrases

/-!
# Reading the statements about tables

A new table is read element by element.  After an element stands a comma or the
closing parenthesis (`AtListMark`), and neither can belong to the sizes or to a
remark of a column; this is why each element is taken whole.  A comma before
the closing parenthesis ends the rounds and is taken with them
(`nextElement_comma_close`).
-/

namespace CqlCompiler.TokenParser

open CqlCompiler.Parser

variable {items rest : List Token}

/-! ## Remarks and sizes -/

theorem defaultValue_of_notAt (h : NotAt (·.isSymbol "?") items) :
    defaultValue items = value items := by
  rw [defaultValue, bind_of_ok (atSymbol_of_notAt h)]
  rfl

theorem defaultValue_sound {v : Value} (h : defaultValue items = .ok (v, rest)) :
    ∃ phrase, SpellsValue phrase v ∧ v ≠ .placeholder ∧ items = phrase ++ rest := by
  rcases at_or_notAt_symbol "?" items with ⟨tail, rfl⟩ | hmark
  · rw [defaultValue, bind_of_ok (atSymbol_self "?" tail)] at h
    exact absurd h (unexpected_ne_ok _)
  · rw [defaultValue_of_notAt hmark] at h
    obtain ⟨phrase, hphrase, rfl⟩ := value_sound _ _ _ h
    refine ⟨phrase, hphrase, ?_, rfl⟩
    rintro rfl
    cases hphrase
    simp [Token.isSymbol] at hmark

theorem defaultValue_complete {phrase : List Token} {v : Value} (h : SpellsValue phrase v)
    (hconstant : v ≠ .placeholder) (hrest : NotAt (·.isSymbol ".") rest) :
    defaultValue (phrase ++ rest) = .ok (v, rest) := by
  have hmark : NotAt (·.isSymbol "?") (phrase ++ rest) := by
    cases h <;> simp_all [Token.isSymbol]
  rw [defaultValue_of_notAt hmark]
  exact value_complete _ _ _ h hrest

/-- Whether a remark on a column begins with the token. -/
def beginsClause (token : Token) : Bool :=
  token.isWord "NOT" || token.isWord "NULL" || token.isWord "DEFAULT" || token.isKeyword "PRIMARY"

theorem columnClause?_sound {clause : ColumnClause}
    (h : columnClause? items = .ok (some clause, rest)) :
    ∃ phrase, SpellsClause phrase clause ∧ items = phrase ++ rest := by
  simp only [columnClause?, skipWord, skipKeyword, bind_skipIf_eq_ok_iff, reduceIte,
    Bool.false_eq_true] at h
  simp only [bind_eq_ok_iff, word_eq_ok_iff, keyword_eq_ok_iff, pure_eq_ok_iff,
    Option.some.injEq] at h
  rcases h with ⟨no, tail, rfl, hno, -, middle, ⟨null, rfl, hnull⟩, rfl, rfl⟩ | ⟨-, h⟩
  · exact ⟨[no, null], .notNull hno hnull, rfl⟩
  rcases h with ⟨null, tail, rfl, hnull, rfl, rfl⟩ | ⟨-, h⟩
  · exact ⟨[null], .null hnull, rfl⟩
  rcases h with ⟨word, tail, rfl, hword, value, middle, hvalue, rfl, rfl⟩ | ⟨-, h⟩
  · obtain ⟨phrase, hphrase, hconstant, rfl⟩ := defaultValue_sound hvalue
    exact ⟨word :: phrase, .default hword hphrase hconstant, rfl⟩
  rcases h with ⟨primary, tail, rfl, hprimary, -, middle, rfl, rfl, rfl⟩ | ⟨-, h⟩
  · obtain rfl := Token.isKeyword_iff.mp hprimary
    exact ⟨_, .primaryKey, rfl⟩
  · simp at h

theorem columnClause?_eq_none_iff :
    columnClause? items = .ok (none, rest) ↔ NotAt beginsClause items ∧ rest = items := by
  simp only [columnClause?, skipWord, skipKeyword, bind_skipIf_eq_ok_iff, reduceIte,
    Bool.false_eq_true]
  simp only [bind_eq_ok_iff, pure_eq_ok_iff, reduceCtorEq, false_and, and_false, exists_false,
    false_or, true_and]
  unfold beginsClause
  simp only [notAt_or, and_assoc]

/-- A token that is one word is not at the front as another one. -/
theorem notAt_isWord {token : Token} {a b : String} (h : token.isWord a = true)
    (hne : Text.equalIgnoringCase a b = false) : NotAt (·.isWord b) (token :: items) := by
  rw [notAt_cons, Token.isWord_of_isWord h]
  exact hne

theorem columnClause?_complete {phrase : List Token} {clause : ColumnClause}
    (h : SpellsClause phrase clause) (hrest : NotAt (·.isSymbol ".") rest) :
    columnClause? (phrase ++ rest) = .ok (some clause, rest) := by
  cases h with
  | @notNull no null hno hnull =>
    rw [columnClause?, List.cons_append, bind_skipWord_of_at hno]
    exact bind_of_ok (word_of_isWord hnull rest)
  | null hnull =>
    have hno : NotAt (·.isWord "NOT") (_ :: rest) := notAt_isWord hnull (by decide)
    rw [columnClause?, List.cons_append]
    exact (bind_skipWord_of_notAt hno).trans (bind_skipWord_of_at hnull)
  | @default word phrase value hword hvalue hconstant =>
    have hno : NotAt (·.isWord "NOT") (word :: (phrase ++ rest)) :=
      notAt_isWord hword (by decide)
    have hnull : NotAt (·.isWord "NULL") (word :: (phrase ++ rest)) :=
      notAt_isWord hword (by decide)
    have hvalue : defaultValue (phrase ++ rest) = .ok (value, rest) :=
      defaultValue_complete hvalue hconstant hrest
    rw [columnClause?, List.cons_append]
    exact (bind_skipWord_of_notAt hno).trans ((bind_skipWord_of_notAt hnull).trans
      ((bind_skipWord_of_at hword).trans (bind_of_ok hvalue)))
  | primaryKey => rfl

theorem advances_columnClause? : Advances columnClause? :=
  advances_of_ne_nil (fun _ _ _ h => columnClause?_sound h) fun _ _ h => SpellsClause.ne_nil h

theorem sizes_sound : Sound sizes SpellsSizes := by
  intro items result rest h
  simp only [sizes, skipSymbol, bind_skipIf_eq_ok_iff, reduceIte, Bool.false_eq_true,
    pure_eq_ok_iff] at h
  rcases h with ⟨paren, tail, rfl, hparen, h⟩ | ⟨-, -, rfl⟩
  · obtain rfl := Token.isSymbol_iff.mp hparen
    simp only [bind_eq_ok_iff, symbol_eq_ok_iff] at h
    obtain ⟨texts, middle, htexts, rfl⟩ := h
    obtain ⟨phrase, hphrase, rfl⟩ := commaSeparated_sound number_sound _ _ _ htexts
    exact ⟨_, .some (.intro hphrase), by simp⟩
  · exact ⟨[], .none, rfl⟩

theorem sizes_complete : Complete sizes SpellsSizes (NotAt (·.isSymbol "(")) := by
  intro phrase result rest h hrest
  cases h with
  | none => exact bind_skipIf_of_notAt hrest
  | @some phrase texts hsizes =>
    obtain @⟨phrase, _, hphrase⟩ := hsizes
    have htexts := commaSeparated_complete number_complete number_sound (fun _ => trivial)
      phrase texts (⟨.symbol, ")"⟩ :: rest) hphrase ⟨trivial, by simp [Token.isSymbol]⟩
    calc
      sizes (⟨.symbol, "("⟩ :: (phrase ++ [⟨.symbol, ")"⟩]) ++ rest)
        = (do let _ ← sepBy1 number (skipSymbol ",")
              symbol ")" : TokenParser Unit) (phrase ++ ⟨.symbol, ")"⟩ :: rest) := by
          rw [sizes, List.cons_append, bind_skipSymbol_self, List.append_assoc]
          rfl
      _ = symbol ")" (⟨.symbol, ")"⟩ :: rest) := bind_of_ok htexts
      _ = .ok ((), rest) := symbol_self _ _

/-! ## Columns and keys -/

/-- The rest begins with a comma or a closing parenthesis, as it does after
each element of a table. -/
inductive AtListMark : List Token → Prop where
  | comma (rest : List Token) : AtListMark (⟨.symbol, ","⟩ :: rest)
  | close (rest : List Token) : AtListMark (⟨.symbol, ")"⟩ :: rest)

theorem AtListMark.notAt_beginsClause (h : AtListMark items) : NotAt beginsClause items := by
  cases h <;> rw [notAt_cons] <;> rfl

theorem AtListMark.notAt_isSymbol (h : AtListMark items) {text : String} (hcomma : "," ≠ text)
    (hclose : ")" ≠ text) : NotAt (·.isSymbol text) items := by
  cases h with
  | comma => simpa [Token.isSymbol] using hcomma
  | close => simpa [Token.isSymbol] using hclose

theorem column_sound : Sound column SpellsElement := by
  intro items result rest h
  simp only [column, bind_eq_ok_iff, name_eq_ok_iff, pure_eq_ok_iff] at h
  obtain ⟨columnName, _, rfl, typeName, _, rfl, ⟨⟩, afterSizes, hsizes, clauses, _, hclauses,
    rfl, rfl⟩ := h
  obtain ⟨sizeTokens, hsizeTokens, rfl⟩ := sizes_sound _ _ _ hsizes
  obtain ⟨remarks, middle, hremarks, rfl, hend⟩ :=
    many_sound advances_columnClause? (fun _ _ _ h => columnClause?_sound h) hclauses
  obtain ⟨-, rfl⟩ := columnClause?_eq_none_iff.mp hend
  exact ⟨_, .column columnName typeName hsizeTokens hremarks, by simp⟩

theorem column_complete (columnName typeName : String) {sizeTokens remarks : List Token}
    {clauses : List ColumnClause} (hsizes : SpellsSizes sizeTokens ())
    (hremarks : Repeated SpellsClause remarks clauses) (hrest : AtListMark rest) :
    column (⟨.identifier, columnName⟩ :: ⟨.identifier, typeName⟩ ::
        (sizeTokens ++ (remarks ++ rest))) =
      .ok (.column ⟨columnName, .ofName typeName, constraintsOf clauses⟩
        (clauses.contains .primaryKey), rest) := by
  have hafterSizes : NotAt (·.isSymbol "(") (remarks ++ rest) :=
    hremarks.follow_append (fun _ _ _ h => h.notAt_isSymbol "(")
      (hrest.notAt_isSymbol (by decide) (by decide))
  have hsizes : sizes (sizeTokens ++ (remarks ++ rest)) = .ok ((), remarks ++ rest) :=
    sizes_complete _ _ _ hsizes hafterSizes
  have hclauses : many columnClause? (remarks ++ rest) = .ok (clauses, rest) :=
    many_complete advances_columnClause? (fun _ _ _ h => columnClause?_complete h)
      (fun _ _ _ h => h.notAt_isSymbol ".") hremarks
      (hrest.notAt_isSymbol (by decide) (by decide))
      (columnClause?_eq_none_iff.mpr ⟨hrest.notAt_beginsClause, rfl⟩)
  rw [column, bind_of_ok (name_self _ _), bind_of_ok (name_self _ _), bind_of_ok hsizes,
    bind_of_ok hclauses]
  rfl

theorem element_sound : Sound element SpellsElement := by
  intro items result rest h
  obtain ⟨isKey, hat⟩ : ∃ isKey, atKeyword "PRIMARY" items = .ok (isKey, items) := ⟨_, rfl⟩
  rw [element, bind_of_ok hat] at h
  cases isKey with
  | true =>
    simp only [reduceIte, bind_eq_ok_iff, keyword_eq_ok_iff, pure_eq_ok_iff] at h
    obtain ⟨-, _, rfl, -, _, rfl, keys, _, hkeys, rfl, rfl⟩ := h
    obtain ⟨phrase, hphrase, rfl⟩ :=
      parenthesised_sound (commaSeparated_sound name_sound) _ _ _ hkeys
    exact ⟨_, .primaryKey hphrase, rfl⟩
  | false => exact column_sound _ _ _ h

theorem element_complete : Complete element SpellsElement AtListMark := by
  intro phrase result rest h hrest
  cases h with
  | @primaryKey phrase keys hkeys =>
    have hkeys : parenthesised names (phrase ++ rest) = .ok (keys, rest) :=
      parenthesised_commaSeparated_complete name_complete name_sound
        (fun _ => trivial) (fun _ => trivial) _ _ rest hkeys trivial
    calc
      element (⟨.keyword, "PRIMARY"⟩ :: ⟨.keyword, "KEY"⟩ :: phrase ++ rest)
        = (do return .primaryKey (← parenthesised names) : TokenParser TableElement)
            (phrase ++ rest) := rfl
      _ = .ok (.primaryKey keys, rest) := bind_of_ok hkeys
  | column columnName typeName hsizes hremarks =>
    simp only [List.cons_append, List.append_assoc]
    exact column_complete columnName typeName hsizes hremarks hrest

/-! ## Elements in a row -/

/-- One round of the elements: an element, if a comma is at the front and the
table does not end after it. -/
def nextElement : TokenParser (Option TableElement) := do
  if ← skipSymbol "," then
    if ← atSymbol ")" then return none else some <$> element
  else
    return none

theorem elements_of_notAt (h : NotAt (·.isSymbol ")") items) :
    elements items = (do
      let first ← element
      let others ← many nextElement
      return first :: others : TokenParser (List TableElement)) items := by
  rw [elements, bind_of_ok (atSymbol_of_notAt h)]
  rfl

theorem nextElement_comma_of_notAt (h : NotAt (·.isSymbol ")") items) :
    nextElement (⟨.symbol, ","⟩ :: items) = (some <$> element) items := by
  rw [nextElement, bind_skipSymbol_self, if_pos rfl, bind_of_ok (atSymbol_of_notAt h)]
  rfl

theorem nextElement_comma_close (rest : List Token) :
    nextElement (⟨.symbol, ","⟩ :: ⟨.symbol, ")"⟩ :: rest) =
      .ok (none, ⟨.symbol, ")"⟩ :: rest) :=
  rfl

theorem nextElement_of_notAt (h : NotAt (·.isSymbol ",") items) :
    nextElement items = .ok (none, items) := by
  rw [nextElement, bind_skipSymbol_of_notAt h]
  rfl

theorem nextElement_sound {result : TableElement}
    (h : nextElement items = .ok (some result, rest)) :
    ∃ phrase, Marked ⟨.symbol, ","⟩ SpellsElement phrase result ∧ items = phrase ++ rest := by
  rcases at_or_notAt_symbol "," items with ⟨tail, rfl⟩ | hcomma
  · rcases at_or_notAt_symbol ")" tail with ⟨tail, rfl⟩ | hclose
    · rw [nextElement_comma_close] at h
      cases h
    · rw [nextElement_comma_of_notAt hclose] at h
      obtain ⟨result', hresult, ⟨⟩⟩ := map_eq_ok_iff.mp h
      obtain ⟨phrase, hphrase, rfl⟩ := element_sound _ _ _ hresult
      exact ⟨_, .intro hphrase, rfl⟩
  · rw [nextElement_of_notAt hcomma] at h
    cases h

theorem nextElement_eq_none (h : nextElement items = .ok (none, rest)) :
    rest = items ∨ items = ⟨.symbol, ","⟩ :: rest := by
  rcases at_or_notAt_symbol "," items with ⟨tail, rfl⟩ | hcomma
  · rcases at_or_notAt_symbol ")" tail with ⟨tail, rfl⟩ | hclose
    · rw [nextElement_comma_close] at h
      cases h
      exact .inr rfl
    · rw [nextElement_comma_of_notAt hclose] at h
      obtain ⟨result', -, ⟨⟩⟩ := map_eq_ok_iff.mp h
  · rw [nextElement_of_notAt hcomma] at h
    cases h
    exact .inl rfl

theorem advances_nextElement : Advances nextElement := by
  refine advances_of_ne_nil (fun _ _ _ h => nextElement_sound h) ?_
  intro phrase result h
  cases h
  simp

theorem elements_sound {parts : List TableElement} (h : elements items = .ok (parts, rest)) :
    parts = [] ∨ ∃ phrase, SpellsElements phrase parts ∧ items = phrase ++ rest := by
  rcases at_or_notAt_symbol ")" items with ⟨tail, rfl⟩ | hclose
  · rw [elements, bind_of_ok (atSymbol_self ")" tail)] at h
    cases h
    exact .inl rfl
  · rw [elements_of_notAt hclose] at h
    simp only [bind_eq_ok_iff, pure_eq_ok_iff] at h
    obtain ⟨first, middle, hfirst, others, _, hothers, rfl, rfl⟩ := h
    obtain ⟨phrase, hphrase, rfl⟩ := element_sound _ _ _ hfirst
    obtain ⟨phrases, last, hphrases, rfl, hend⟩ :=
      many_sound advances_nextElement (fun _ _ _ h => nextElement_sound h) hothers
    have helements : CommaSeparated SpellsElement (phrase ++ phrases) (first :: others) :=
      .intro hphrase hphrases
    rcases nextElement_eq_none hend with rfl | rfl
    · exact .inr ⟨_, .plain helements, by simp⟩
    · exact .inr ⟨_, .comma helements, by simp⟩

/-- The elements of a table are taken whole, whether or not a comma stands
before the closing parenthesis. -/
theorem elements_complete {phrase : List Token} {parts : List TableElement}
    (h : SpellsElements phrase parts) :
    elements (phrase ++ ⟨.symbol, ")"⟩ :: rest) = .ok (parts, ⟨.symbol, ")"⟩ :: rest) := by
  -- In both cases the rounds end at what stands after the last element.
  have helements {phrase ending : List Token} (h : CommaSeparated SpellsElement phrase parts)
      (hmark : AtListMark ending)
      (hend : nextElement ending = .ok (none, ⟨.symbol, ")"⟩ :: rest)) :
      elements (phrase ++ ending) = .ok (parts, ⟨.symbol, ")"⟩ :: rest) := by
    obtain @⟨phrase, phrases, first, others, hphrase, hphrases⟩ := h
    have hnext : ∀ phrase result rest, Marked ⟨.symbol, ","⟩ SpellsElement phrase result →
        AtListMark (phrase ++ rest) := by
      intro phrase result rest h
      cases h
      exact .comma _
    have hstep : ∀ phrase result rest, Marked ⟨.symbol, ","⟩ SpellsElement phrase result →
        AtListMark rest → nextElement (phrase ++ rest) = .ok (some result, rest) := by
      intro _ result rest h hrest
      obtain ⟨hphrase⟩ := h
      rw [List.cons_append, nextElement_comma_of_notAt hphrase.notAt_isSymbol]
      exact map_eq_ok_iff.mpr ⟨result, element_complete _ _ _ hphrase hrest, rfl⟩
    have hothers := many_complete advances_nextElement hstep hnext hphrases hmark hend
    have hfirst := element_complete _ _ _ hphrase (hphrases.follow_append hnext hmark)
    rw [List.append_assoc, elements_of_notAt hphrase.notAt_isSymbol, bind_of_ok hfirst,
      bind_of_ok hothers]
    rfl
  cases h with
  | plain h =>
    refine helements h (.close rest) (nextElement_of_notAt ?_)
    simp [Token.isSymbol]
  | comma h =>
    rw [List.append_assoc]
    exact helements h (.comma _) (nextElement_comma_close rest)

/-! ## Whole statements -/

/-- The table and its elements, after the words that make or guard it. -/
def tableBody (ifNotExists : Bool) : TokenParser CreateTable := do
  let table ← name
  symbol "("
  let parts ← elements
  if (columnsOf parts).isEmpty then
    unexpected .columnDefinition
  symbol ")"
  return { table, ifNotExists, columns := columnsOf parts, primaryKey := keyOf parts }

theorem createTable_eq :
    createTable = (do
      keyword "CREATE"
      keyword "TABLE"
      let ifNotExists ← skipKeyword "IF"
      if ifNotExists then do
        word "NOT"
        keyword "EXISTS"
        tableBody ifNotExists
      else
        tableBody ifNotExists) :=
  rfl

theorem tableBody_sound {ifNotExists : Bool} {create : CreateTable}
    (h : tableBody ifNotExists items = .ok (create, rest)) :
    ∃ table body parts, SpellsElements body parts ∧ columnsOf parts ≠ [] ∧
      create = ⟨table, ifNotExists, columnsOf parts, keyOf parts⟩ ∧
      items = ⟨.identifier, table⟩ :: ⟨.symbol, "("⟩ :: (body ++ ⟨.symbol, ")"⟩ :: rest) := by
  simp only [tableBody, bind_eq_ok_iff, name_eq_ok_iff, symbol_eq_ok_iff] at h
  obtain ⟨table, _, rfl, -, _, rfl, parts, middle, hparts, h⟩ := h
  split at h
  · obtain ⟨_, _, hunexpected, -⟩ := bind_eq_ok_iff.mp h
    exact absurd hunexpected (unexpected_ne_ok _)
  · rename_i hcolumns
    simp only [bind_eq_ok_iff, symbol_eq_ok_iff, pure_eq_ok_iff] at h
    obtain ⟨-, _, rfl, rfl, rfl⟩ := h
    rcases elements_sound hparts with rfl | ⟨body, hbody, rfl⟩
    · exact absurd rfl hcolumns
    · exact ⟨table, body, parts, hbody, by simpa using hcolumns, rfl, rfl⟩

theorem tableBody_complete (ifNotExists : Bool) (table : String) {body : List Token}
    {parts : List TableElement} (h : SpellsElements body parts) (hcolumns : columnsOf parts ≠ []) :
    tableBody ifNotExists
        (⟨.identifier, table⟩ :: ⟨.symbol, "("⟩ :: (body ++ ⟨.symbol, ")"⟩ :: rest)) =
      .ok (⟨table, ifNotExists, columnsOf parts, keyOf parts⟩, rest) := by
  rw [tableBody, bind_of_ok (name_self _ _), bind_of_ok (symbol_self _ _),
    bind_of_ok (elements_complete h), if_neg (by simpa using hcolumns)]
  exact bind_of_ok (symbol_self _ _)

theorem createTable_sound : Sound createTable SpellsCreateTable := by
  intro items result rest h
  simp only [createTable_eq, bind_eq_ok_iff, keyword_eq_ok_iff] at h
  obtain ⟨-, _, rfl, -, _, rfl, ifNotExists, _, hskip, h⟩ := h
  cases ifNotExists with
  | true =>
    obtain ⟨found, rfl, hfound⟩ := skipIf_eq_true_iff.mp hskip
    obtain rfl := Token.isKeyword_iff.mp hfound
    simp only [reduceIte, bind_eq_ok_iff, keyword_eq_ok_iff, word_eq_ok_iff] at h
    obtain ⟨-, _, ⟨no, rfl, hno⟩, -, _, rfl, h⟩ := h
    obtain ⟨table, body, parts, hbody, hcolumns, rfl, rfl⟩ := tableBody_sound h
    exact ⟨_, .intro table (.present hno) hbody hcolumns, by simp⟩
  | false =>
    obtain ⟨-, rfl⟩ := skipIf_eq_false_iff.mp hskip
    obtain ⟨table, body, parts, hbody, hcolumns, rfl, rfl⟩ := tableBody_sound h
    exact ⟨_, .intro table .absent hbody hcolumns, by simp⟩

theorem createTable_complete : Complete createTable SpellsCreateTable (fun _ => True) := by
  intro phrase result rest h _
  obtain ⟨table, hguard, hbody, hcolumns⟩ := h
  simp only [createTable_eq, List.cons_append, List.append_assoc, List.nil_append]
  rw [bind_of_ok (keyword_self _ _), bind_of_ok (keyword_self _ _)]
  cases hguard with
  | absent =>
    refine (bind_skipKeyword_of_notAt ?_).trans (tableBody_complete false table hbody hcolumns)
    simp [Token.isKeyword]
  | @present no hno =>
    refine bind_skipKeyword_self.trans ?_
    refine (bind_of_ok (word_of_isWord hno _)).trans ((bind_of_ok (keyword_self _ _)).trans ?_)
    exact tableBody_complete true table hbody hcolumns

theorem dropTable_sound : Sound dropTable SpellsDropTable := by
  intro items result rest h
  simp only [dropTable, bind_eq_ok_iff, keyword_eq_ok_iff] at h
  obtain ⟨-, _, rfl, -, _, rfl, ifExists, _, hskip, h⟩ := h
  cases ifExists with
  | true =>
    obtain ⟨found, rfl, hfound⟩ := skipIf_eq_true_iff.mp hskip
    obtain rfl := Token.isKeyword_iff.mp hfound
    simp only [reduceIte, bind_eq_ok_iff, keyword_eq_ok_iff, name_eq_ok_iff,
      pure_eq_ok_iff] at h
    obtain ⟨-, _, rfl, table, _, rfl, rfl, rfl⟩ := h
    exact ⟨_, .intro table .present, by simp⟩
  | false =>
    obtain ⟨-, rfl⟩ := skipIf_eq_false_iff.mp hskip
    simp only [Bool.false_eq_true, reduceIte, bind_eq_ok_iff, name_eq_ok_iff,
      pure_eq_ok_iff] at h
    obtain ⟨table, _, rfl, rfl, rfl⟩ := h
    exact ⟨_, .intro table .absent, by simp⟩

theorem dropTable_complete : Complete dropTable SpellsDropTable (fun _ => True) := by
  intro phrase result rest h _
  obtain ⟨table, hguard⟩ := h
  simp only [dropTable, List.cons_append, List.append_assoc, List.nil_append]
  rw [bind_of_ok (keyword_self _ _), bind_of_ok (keyword_self _ _)]
  cases hguard with
  | absent =>
    refine (bind_skipKeyword_of_notAt ?_).trans (bind_of_ok (name_self table rest))
    simp [Token.isKeyword]
  | present =>
    refine bind_skipKeyword_self.trans ((bind_of_ok (keyword_self _ _)).trans ?_)
    exact bind_of_ok (name_self table rest)

end CqlCompiler.TokenParser
