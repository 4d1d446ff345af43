import CqlCompiler.Proofs.Spelling

/-!
# Reading single tokens, values and lists

The parsers of the smallest phrases against the relations of
`CqlCompiler.Proofs.Spelling`.  Where a parser takes a fixed number of tokens,
one equivalence says when it succeeds.  Where what follows decides how much it
takes, `..._sound` says that it takes a phrase and `..._complete` that it takes
every phrase before anything that cannot be mistaken for more of it.

A number is the only value that reads ahead: three tokens may be one number, so
`value_complete` asks that no dot follows.
-/

namespace CqlCompiler.TokenParser

open CqlCompiler.Parser

variable {α : Type} {items rest : List Token}

/-! ## Single tokens -/

theorem unexpected_ne_ok (expected : Expectation) {result : α} :
    (unexpected expected : TokenParser α) items ≠ .ok (result, rest) := by
  rw [unexpected, bind_of_ok (get_apply items)]
  intro h
  cases h

theorem expect_eq_ok_iff {kind : TokenKind} {text : Option String} {token : Token} :
    expect kind text items = .ok (token, rest) ↔
      items = token :: rest ∧ token.kind = kind ∧ ∀ value ∈ text, token.value = value := by
  rw [expect, bind_eq_ok_iff]
  constructor
  · intro h
    rcases h with ⟨_ | found, middle, htake, h⟩
    · exact absurd h (unexpected_ne_ok _)
    · obtain ⟨rfl, rfl⟩ := pure_eq_ok_iff.mp h
      obtain ⟨rfl, hfound⟩ := takeIf?_eq_some_iff.mp htake
      refine ⟨rfl, ?_⟩
      cases text <;> simp_all
  · intro h
    obtain ⟨rfl, hkind, hvalue⟩ := h
    refine ⟨some token, rest, takeIf?_eq_some_iff.mpr ⟨rfl, ?_⟩, rfl⟩
    cases text <;> simp_all

theorem expect_exactly_iff {kind : TokenKind} {text : String} {token : Token} :
    expect kind (some text) items = .ok (token, rest) ↔
      token = ⟨kind, text⟩ ∧ items = ⟨kind, text⟩ :: rest := by
  rw [expect_eq_ok_iff]
  cases token
  simp
  grind

theorem keyword_eq_ok_iff {text : String} {u : Unit} :
    keyword text items = .ok (u, rest) ↔ items = ⟨.keyword, text⟩ :: rest := by
  simp [keyword, map_eq_ok_iff, expect_exactly_iff]

theorem keyword_self (text : String) (rest : List Token) :
    keyword text (⟨.keyword, text⟩ :: rest) = .ok ((), rest) :=
  keyword_eq_ok_iff.mpr rfl

theorem symbol_eq_ok_iff {text : String} {u : Unit} :
    symbol text items = .ok (u, rest) ↔ items = ⟨.symbol, text⟩ :: rest := by
  simp [symbol, map_eq_ok_iff, expect_exactly_iff]

theorem symbol_self (text : String) (rest : List Token) :
    symbol text (⟨.symbol, text⟩ :: rest) = .ok ((), rest) :=
  symbol_eq_ok_iff.mpr rfl

theorem name_eq_ok_iff {text : String} :
    name items = .ok (text, rest) ↔ items = ⟨.identifier, text⟩ :: rest := by
  simp only [name, bind_eq_ok_iff, expect_eq_ok_iff, pure_eq_ok_iff]
  constructor
  · intro h
    obtain ⟨⟨kind, value⟩, middle, ⟨rfl, hkind, -⟩, rfl, rfl⟩ := h
    simp_all
  · intro h
    subst h
    exact ⟨_, _, ⟨rfl, rfl, by simp⟩, rfl, rfl⟩

theorem name_self (text : String) (rest : List Token) :
    name (⟨.identifier, text⟩ :: rest) = .ok (text, rest) :=
  name_eq_ok_iff.mpr rfl

theorem number_eq_ok_iff {text : String} :
    number items = .ok (text, rest) ↔ items = ⟨.number, text⟩ :: rest := by
  simp only [number, bind_eq_ok_iff, expect_eq_ok_iff, pure_eq_ok_iff]
  constructor
  · intro h
    obtain ⟨⟨kind, value⟩, middle, ⟨rfl, hkind, -⟩, rfl, rfl⟩ := h
    simp_all
  · intro h
    subst h
    exact ⟨_, _, ⟨rfl, rfl, by simp⟩, rfl, rfl⟩

theorem number_self (text : String) (rest : List Token) :
    number (⟨.number, text⟩ :: rest) = .ok (text, rest) :=
  number_eq_ok_iff.mpr rfl

theorem word_eq_ok_iff {text : String} {u : Unit} :
    word text items = .ok (u, rest) ↔
      ∃ token, items = token :: rest ∧ token.isWord text = true := by
  simp only [word, skipWord, bind_eq_ok_iff]
  constructor
  · intro h
    rcases h with ⟨_ | _, middle, hskip, h⟩
    · exact absurd h (unexpected_ne_ok _)
    · obtain ⟨-, rfl⟩ := pure_eq_ok_iff.mp h
      exact skipIf_eq_true_iff.mp hskip
  · intro h
    exact ⟨true, rest, skipIf_eq_true_iff.mpr h, rfl⟩

theorem word_of_isWord {text : String} {token : Token} (h : token.isWord text = true)
    (rest : List Token) : word text (token :: rest) = .ok ((), rest) :=
  word_eq_ok_iff.mpr ⟨token, rfl, h⟩

section Optional

variable {next : Bool → TokenParser α} {text : String} {token : Token}

theorem bind_skipWord_of_at (h : token.isWord text = true) :
    (skipWord text >>= next) (token :: items) = next true items :=
  bind_of_ok (skipIf_eq_true_iff.mpr ⟨token, rfl, h⟩)

theorem bind_skipWord_of_notAt (h : NotAt (·.isWord text) items) :
    (skipWord text >>= next) items = next false items :=
  bind_skipIf_of_notAt h

theorem bind_skipKeyword_self :
    (skipKeyword text >>= next) (⟨.keyword, text⟩ :: items) = next true items :=
  bind_skipIf_of_at (Token.isKeyword_iff.mpr rfl)

theorem bind_skipKeyword_of_notAt (h : NotAt (·.isKeyword text) items) :
    (skipKeyword text >>= next) items = next false items :=
  bind_skipIf_of_notAt h

theorem bind_skipSymbol_self :
    (skipSymbol text >>= next) (⟨.symbol, text⟩ :: items) = next true items :=
  bind_skipIf_of_at (Token.isSymbol_iff.mpr rfl)

theorem bind_skipSymbol_of_notAt (h : NotAt (·.isSymbol text) items) :
    (skipSymbol text >>= next) items = next false items :=
  bind_skipIf_of_notAt h

end Optional

theorem atSymbol_self (text : String) (rest : List Token) :
    atSymbol text (⟨.symbol, text⟩ :: rest) = .ok (true, ⟨.symbol, text⟩ :: rest) := by
  change Except.ok (Token.isSymbol _ text, _) = _
  rw [Token.isSymbol_iff.mpr rfl]

theorem atSymbol_of_notAt {text : String} (h : NotAt (·.isSymbol text) items) :
    atSymbol text items = .ok (false, items) := by
  cases items with
  | nil => rfl
  | cons token items =>
    change Except.ok (token.isSymbol text, _) = _
    rw [(notAt_cons ..).mp h]

theorem at_or_notAt_symbol (text : String) (items : List Token) :
    (∃ tail, items = ⟨.symbol, text⟩ :: tail) ∨ NotAt (·.isSymbol text) items := by
  cases items with
  | nil => exact .inr (notAt_nil _)
  | cons token items =>
    cases h : token.isSymbol text with
    | false => exact .inr ((notAt_cons ..).mpr h)
    | true => exact .inl ⟨items, by rw [Token.isSymbol_iff.mp h]⟩

/-! ## Values -/

theorem spellsValue_of_valueOfToken {token : Token} {v : Value}
    (h : valueOfToken token = .ok v) : SpellsValue [token] v := by
  obtain ⟨kind, text⟩ := token
  cases kind with
  | keyword => simp [valueOfToken] at h
  | literal =>
    simp only [valueOfToken, Except.ok.injEq] at h
    exact h ▸ .string text
  | number =>
    simp only [valueOfToken] at h
    split at h
    · rename_i number hnumber
      cases h
      exact .int (Text.Numeral.signed?_eq_some_iff.mp hnumber)
    · cases h
  | symbol =>
    simp only [valueOfToken] at h
    split at h
    · rename_i htext
      cases h
      exact htext ▸ .placeholder
    · cases h
  | identifier =>
    simp only [valueOfToken] at h
    split at h
    · rename_i htrue
      cases h
      exact .bool htrue
    · rename_i htrue
      split at h
      · rename_i hfalse
        cases h
        exact .bool hfalse
      · rename_i hfalse
        cases h
        refine .identifier fun truth => ?_
        cases truth
        · exact Bool.eq_false_iff.mpr hfalse
        · exact Bool.eq_false_iff.mpr htrue

theorem valueOfToken_of_spellsValue {token : Token} {v : Value}
    (h : SpellsValue [token] v) : valueOfToken token = .ok v := by
  cases h with
  | placeholder => rfl
  | string => rfl
  | int hnumber => simp [valueOfToken, Text.Numeral.signed?_eq_some_iff.mpr hnumber]
  | @bool word truth hword =>
    have hother := Text.equalIgnoringCase_of_equalIgnoringCase hword
    cases truth with
    | true => simp [valueOfToken, hother, Value.boolWord]
    | false =>
      have hne : Text.equalIgnoringCase "false" "true" = false := by decide
      simp [valueOfToken, hother, Value.boolWord, hne]
  | @identifier word hword =>
    have htrue : Text.equalIgnoringCase word "true" = false := hword true
    have hfalse : Text.equalIgnoringCase word "false" = false := hword false
    simp [valueOfToken, htrue, hfalse]

theorem valueOfToken_eq_ok_iff {token : Token} {v : Value} :
    valueOfToken token = .ok v ↔ SpellsValue [token] v :=
  ⟨spellsValue_of_valueOfToken, valueOfToken_of_spellsValue⟩

/-- A number, a dot and a number are at the front. -/
inductive AtDecimal : List Token → Prop where
  | intro (whole fraction : String) (rest : List Token) :
      AtDecimal (⟨.number, whole⟩ :: ⟨.symbol, "."⟩ :: ⟨.number, fraction⟩ :: rest)

theorem not_atDecimal_of_notAt {token : Token} (h : NotAt (·.isSymbol ".") items) :
    ¬AtDecimal (token :: items) := by
  intro hdecimal
  cases hdecimal
  simp [Token.isSymbol] at h

theorem decimal?_atDecimal (whole fraction : String) (rest : List Token) :
    decimal? (⟨.number, whole⟩ :: ⟨.symbol, "."⟩ :: ⟨.number, fraction⟩ :: rest) =
      .ok (some (.decimal (whole ++ "." ++ fraction)), rest) :=
  rfl

theorem decimal?_of_not_atDecimal (h : ¬AtDecimal items) :
    decimal? items = .ok (none, items) := by
  rw [decimal?, bind_of_ok (get_apply items)]
  split
  · rename_i whole dot fraction rest
    split
    · rename_i hdecimal
      obtain ⟨wholeKind, wholeText⟩ := whole
      obtain ⟨fractionKind, fractionText⟩ := fraction
      obtain ⟨hwhole, hdot, hfraction⟩ := hdecimal
      obtain rfl := Token.isSymbol_iff.mp hdot
      obtain rfl : wholeKind = .number := hwhole
      obtain rfl : fractionKind = .number := hfraction
      exact absurd (.intro wholeText fractionText rest) h
    · rfl
  · rfl

theorem value_of_not_atDecimal {token : Token} (h : ¬AtDecimal (token :: items)) :
    value (token :: items) = (valueOfToken token).map (·, items) := by
  rw [value, bind_of_ok (decimal?_of_not_atDecimal h)]
  change (do let constant ← liftM (valueOfToken token)
             set items
             return constant : TokenParser Value) (token :: items) = _
  cases valueOfToken token <;> rfl

theorem value_sound : Sound value SpellsValue := by
  intro items result rest h
  by_cases hdecimal : AtDecimal items
  · obtain ⟨whole, fraction, rest'⟩ := hdecimal
    rw [value, bind_of_ok (decimal?_atDecimal _ _ _)] at h
    obtain ⟨rfl, rfl⟩ := pure_eq_ok_iff.mp h
    exact ⟨_, .decimal whole fraction, rfl⟩
  · cases items with
    | nil => cases h
    | cons token items =>
      rw [value_of_not_atDecimal hdecimal] at h
      cases hvalue : valueOfToken token with
      | error error => simp [hvalue, Except.map] at h
      | ok result' =>
        simp only [hvalue, Except.map, Except.ok.injEq, Prod.mk.injEq] at h
        obtain ⟨rfl, rfl⟩ := h
        exact ⟨[token], valueOfToken_eq_ok_iff.mp hvalue, rfl⟩

/-- A value is taken whole unless a dot follows it, which could belong to a
number. -/
theorem value_complete : Complete value SpellsValue (NotAt (·.isSymbol ".")) := by
  intro phrase result rest h hrest
  have single {token : Token} (h : SpellsValue [token] result) :
      value (token :: rest) = .ok (result, rest) := by
    rw [value_of_not_atDecimal (not_atDecimal_of_notAt hrest), valueOfToken_eq_ok_iff.mpr h]
    rfl
  cases h with
  | placeholder => exact single .placeholder
  | string text => exact single (.string text)
  | int hnumber => exact single (.int hnumber)
  | decimal whole fraction =>
    exact bind_of_ok (decimal?_atDecimal whole fraction rest)
  | bool hword => exact single (.bool hword)
  | identifier hword => exact single (.identifier hword)

/-! ## Lists -/

theorem name_sound : Sound name SpellsName := by
  intro items result rest h
  exact ⟨_, .intro result, name_eq_ok_iff.mp h⟩

theorem name_complete : Complete name SpellsName (fun _ => True) := by
  intro phrase result rest h _
  cases h
  exact name_eq_ok_iff.mpr rfl

theorem number_sound : Sound number SpellsNumber := by
  intro items result rest h
  exact ⟨_, .intro result, number_eq_ok_iff.mp h⟩

theorem number_complete : Complete number SpellsNumber (fun _ => True) := by
  intro phrase result rest h _
  cases h
  exact number_eq_ok_iff.mpr rfl

theorem columnName_sound : Sound columnName SpellsColumnName := by
  intro items result rest h
  simp only [columnName, bind_eq_ok_iff, name_eq_ok_iff, pure_eq_ok_iff] at h
  obtain ⟨name, middle, rfl, rfl, rfl⟩ := h
  exact ⟨_, .intro name, rfl⟩

theorem columnName_complete : Complete columnName SpellsColumnName (fun _ => True) := by
  intro phrase result rest h _
  obtain ⟨name⟩ := h
  exact bind_of_ok (name_eq_ok_iff.mpr rfl)

section Lists

variable {item : TokenParser α} {Spells : List Token → α → Prop} {Follow : List Token → Prop}

theorem commaSeparated_sound (h : Sound item Spells) :
    Sound (sepBy1 item (skipSymbol ",")) (CommaSeparated Spells) :=
  h.sepBy1 fun _ => Token.isSymbol_iff

theorem commaSeparated_complete (h : Complete item Spells Follow) (hitem : Sound item Spells)
    (hfollow : ∀ rest, Follow (⟨.symbol, ","⟩ :: rest)) :
    Complete (sepBy1 item (skipSymbol ",")) (CommaSeparated Spells)
      (fun rest => Follow rest ∧ NotAt (·.isSymbol ",") rest) :=
  h.sepBy1 hitem (fun _ => Token.isSymbol_iff) hfollow

theorem parenthesised_sound (h : Sound item Spells) :
    Sound (parenthesised item) (Parenthesised Spells) := by
  intro items result rest hrun
  simp only [parenthesised, bind_eq_ok_iff, symbol_eq_ok_iff, pure_eq_ok_iff] at hrun
  obtain ⟨-, middle, rfl, result', last, hitem, -, last', rfl, rfl, rfl⟩ := hrun
  obtain ⟨phrase, hphrase, rfl⟩ := h _ _ _ hitem
  exact ⟨_, .intro hphrase, by simp⟩

theorem parenthesised_complete (h : Complete item Spells Follow)
    (hfollow : ∀ rest, Follow (⟨.symbol, ")"⟩ :: rest)) :
    Complete (parenthesised item) (Parenthesised Spells) (fun _ => True) := by
  intro _ result rest hphrase _
  obtain @⟨phrase, result, hphrase⟩ := hphrase
  simp only [parenthesised, bind_eq_ok_iff, symbol_eq_ok_iff, pure_eq_ok_iff]
  refine ⟨(), phrase ++ ⟨.symbol, ")"⟩ :: rest, by simp, result, _, h _ _ _ hphrase (hfollow rest),
    (), rest, rfl, rfl, rfl⟩

/-- A comma-separated list between parentheses is taken whole, since neither a
comma nor a parenthesis can be mistaken for more of a phrase. -/
theorem parenthesised_commaSeparated_complete (h : Complete item Spells Follow)
    (hitem : Sound item Spells) (hcomma : ∀ rest, Follow (⟨.symbol, ","⟩ :: rest))
    (hclose : ∀ rest, Follow (⟨.symbol, ")"⟩ :: rest)) :
    Complete (parenthesised (sepBy1 item (skipSymbol ","))) (Parenthesised (CommaSeparated Spells))
      (fun _ => True) := by
  apply parenthesised_complete (commaSeparated_complete h hitem hcomma)
  intro rest
  exact ⟨hclose rest, by simp [Token.isSymbol]⟩

end Lists

end CqlCompiler.TokenParser
