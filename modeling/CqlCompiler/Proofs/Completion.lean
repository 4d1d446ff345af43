import CqlCompiler.Proofs.Reading.Statements

/-!
# What is missing from a token list

A token list that is no statement may still be the beginning of one.  The error
tells which: if what was found is the end, tokens can be added that complete the
statement, and otherwise the error stays the same whatever is added.  Numbers
are the exception, since a number at the end may go on with a fraction.

There are three groups.

* Items to come.  `Foresees` says that a parser either settles its outcome
  whatever follows, or runs out of items that could become a phrase.  There is a
  rule for each way to build a parser.
* Phrases.  `Expects` is `Foresees` for tokens, with one lemma for each phrase of
  the grammar.
* Statements.  `foundEnd_iff_exists_completion` is the result.
-/

namespace CqlCompiler

/-! ## Items to come -/

namespace Parser

variable {τ ε α β : Type}

/-- The parser has run out of items: it took all of them and they are a phrase,
or it fails at their end and they can become a phrase. -/
inductive RunsOut (AtEnd : ε → Prop) (Spells : List τ → α → Prop) (items : List τ) :
    Except ε (α × List τ) → Prop where
  | ok {result : α} (h : Spells items result) : RunsOut AtEnd Spells items (.ok (result, []))
  | error {cause : ε} {more : List τ} {result : α} (hcause : AtEnd cause)
      (h : Spells (items ++ more) result) : RunsOut AtEnd Spells items (.error cause)

/-- The outcome on the items stays the same whatever follows them: a phrase is
taken, or something else than the end is wrong. -/
inductive Settled (AtEnd : ε → Prop) (Spells : List τ → α → Prop) (parser : Parser τ ε α)
    (items : List τ) : Except ε (α × List τ) → Prop where
  | ok {phrase rest : List τ} {result : α} (hphrase : Spells phrase result)
      (hitems : items = phrase ++ rest)
      (hmore : ∀ more, parser (items ++ more) = .ok (result, rest ++ more)) :
      Settled AtEnd Spells parser items (.ok (result, rest))
  | error {cause : ε} (hcause : ¬AtEnd cause)
      (hmore : ∀ more, parser (items ++ more) = .error cause) :
      Settled AtEnd Spells parser items (.error cause)

/-- The two ways for a parser to deal with items that more may follow. -/
def Foreseen (AtEnd : ε → Prop) (Spells : List τ → α → Prop) (parser : Parser τ ε α)
    (items : List τ) : Prop :=
  RunsOut AtEnd Spells items (parser items) ∨ Settled AtEnd Spells parser items (parser items)

/-- On no items the parser runs out of them, and on every rest of `whole` it
settles its outcome or runs out. -/
structure Foresees (AtEnd : ε → Prop) (whole : List τ) (parser : Parser τ ε α)
    (Spells : List τ → α → Prop) : Prop where
  nil : RunsOut AtEnd Spells [] (parser [])
  foreseen : ∀ items, items <:+ whole → Foreseen AtEnd Spells parser items

section Foresees

variable {AtEnd : ε → Prop} {whole items : List τ} {S : List τ → α → Prop} {N : List τ → β → Prop}

theorem RunsOut.exists_phrase {outcome : Except ε (α × List τ)}
    (h : RunsOut AtEnd S items outcome) : ∃ more result, S (items ++ more) result := by
  cases h with
  | ok h => exact ⟨[], _, by rwa [List.append_nil]⟩
  | error _ h => exact ⟨_, _, h⟩

/-- What runs out after a phrase runs out on the phrase and the rest. -/
theorem RunsOut.prepend {phrase rest : List τ} {outcome : Except ε (β × List τ)}
    (h : RunsOut AtEnd (fun tail => N (phrase ++ tail)) rest outcome) :
    RunsOut AtEnd N (phrase ++ rest) outcome := by
  cases h with
  | ok h => exact .ok h
  | error hcause h => exact .error hcause (by rwa [List.append_assoc])

theorem Settled.prepend {phrase rest : List τ} {parser next : Parser τ ε β}
    {outcome : Except ε (β × List τ)}
    (h : Settled AtEnd (fun tail => N (phrase ++ tail)) next rest outcome)
    (hparser : ∀ more, parser (phrase ++ rest ++ more) = next (rest ++ more)) :
    Settled AtEnd N parser (phrase ++ rest) outcome := by
  cases h with
  | ok hphrase hrest hmore =>
    refine .ok hphrase (by rw [hrest, List.append_assoc]) fun more => ?_
    rw [hparser, hmore]
  | error hcause hmore => exact .error hcause fun more => by rw [hparser, hmore]

/-- A parser that does after a phrase what another one does. -/
theorem Foreseen.prepend {phrase rest : List τ} {parser next : Parser τ ε β}
    (h : Foreseen AtEnd (fun tail => N (phrase ++ tail)) next rest)
    (hparser : ∀ more, parser (phrase ++ rest ++ more) = next (rest ++ more)) :
    Foreseen AtEnd N parser (phrase ++ rest) := by
  have hrest : parser (phrase ++ rest) = next rest := by simpa using hparser []
  rw [Foreseen, hrest]
  exact h.imp RunsOut.prepend fun hsettled => hsettled.prepend hparser

/-- A sequence: what its second part reads has to fit the phrase that its first
part has read. -/
theorem RunsOut.bind {parser : Parser τ ε α} {next : α → Parser τ ε β}
    (h : RunsOut AtEnd S items (parser items))
    (hnext : ∀ result phrase, S phrase result →
      RunsOut AtEnd (fun tail => N (phrase ++ tail)) [] (next result [])) :
    RunsOut AtEnd N items ((parser >>= next) items) := by
  show RunsOut AtEnd N items ((parser items).bind _)
  generalize parser items = outcome at h
  cases h with
  | @ok result hphrase =>
    have hrest := (hnext result items hphrase).prepend
    rwa [List.append_nil] at hrest
  | @error cause more result hcause hphrase =>
    -- the first part is completed, and the second part has some phrase to go on with
    obtain ⟨tail, last, htail⟩ := (hnext result _ hphrase).exists_phrase
    exact .error hcause (by rwa [List.append_assoc] at htail)

theorem Foreseen.bind {parser : Parser τ ε α} {next : α → Parser τ ε β}
    (h : Foreseen AtEnd S parser items)
    (hnil : ∀ result phrase, S phrase result →
      RunsOut AtEnd (fun tail => N (phrase ++ tail)) [] (next result []))
    (hnext : ∀ result phrase rest, parser items = .ok (result, rest) → S phrase result →
      items = phrase ++ rest → Foreseen AtEnd (fun tail => N (phrase ++ tail)) (next result) rest) :
    Foreseen AtEnd N (parser >>= next) items := by
  rcases h with hout | hsettled
  · exact .inl (hout.bind hnil)
  · generalize houtcome : parser items = outcome at hsettled
    cases hsettled with
    | @ok phrase rest result hphrase hitems hmore =>
      have hrest := hnext result phrase rest houtcome hphrase hitems
      subst hitems
      exact hrest.prepend fun more => bind_of_ok (hmore more)
    | @error cause hcause hmore =>
      have hbind : ∀ more, (parser >>= next) (items ++ more) = .error cause := by
        intro more
        show (parser (items ++ more)).bind _ = _
        rw [hmore more]
        rfl
      refine .inr ?_
      rw [← List.append_nil items, hbind [], List.append_nil]
      exact .error hcause hbind

theorem Foresees.bind {parser : Parser τ ε α} {next : α → Parser τ ε β}
    (h : Foresees AtEnd whole parser S)
    (hnext : ∀ result phrase, S phrase result →
      Foresees AtEnd whole (next result) fun tail => N (phrase ++ tail)) :
    Foresees AtEnd whole (parser >>= next) N where
  nil := h.nil.bind fun result phrase hphrase => (hnext result phrase hphrase).nil
  foreseen items hitems := by
    refine (h.foreseen items hitems).bind (fun result phrase hphrase =>
      (hnext result phrase hphrase).nil) fun result phrase rest _ hphrase hrest => ?_
    refine (hnext result phrase hphrase).foreseen rest ?_
    exact (hrest ▸ List.suffix_append phrase rest).trans hitems

theorem foresees_pure {result : β} (h : N [] result) : Foresees AtEnd whole (pure result) N where
  nil := .ok h
  foreseen _ _ := .inr (.ok h rfl fun _ => rfl)

theorem RunsOut.map {parser : Parser τ ε α} {f : α → β}
    (h : RunsOut AtEnd S items (parser items))
    (hf : ∀ phrase result, S phrase result → N phrase (f result)) :
    RunsOut AtEnd N items ((f <$> parser) items) := by
  rw [← bind_pure_comp]
  exact h.bind fun result phrase hphrase => .ok (by simpa using hf phrase result hphrase)

theorem Foreseen.map {parser : Parser τ ε α} {f : α → β} (h : Foreseen AtEnd S parser items)
    (hf : ∀ phrase result, S phrase result → N phrase (f result)) :
    Foreseen AtEnd N (f <$> parser) items := by
  rw [← bind_pure_comp]
  have hpure (phrase : List τ) (result : α) (hphrase : S phrase result) :
      N (phrase ++ []) (f result) := by
    rw [List.append_nil]
    exact hf phrase result hphrase
  exact h.bind (fun result phrase hphrase => .ok (hpure phrase result hphrase))
    fun result phrase rest _ hphrase _ => .inr (.ok (hpure phrase result hphrase) rfl fun _ => rfl)

theorem Foresees.map {parser : Parser τ ε α} {f : α → β} (h : Foresees AtEnd whole parser S)
    (hf : ∀ phrase result, S phrase result → N phrase (f result)) :
    Foresees AtEnd whole (f <$> parser) N :=
  ⟨h.nil.map hf, fun items hitems => (h.foreseen items hitems).map hf⟩

theorem Foresees.mono {T : List τ → α → Prop} {parser : Parser τ ε α}
    (h : Foresees AtEnd whole parser S) (hS : ∀ phrase result, S phrase result → T phrase result) :
    Foresees AtEnd whole parser T := by
  rw [← id_map parser]
  exact h.map hS

/-- An item that decides how to go on. -/
theorem foresees_bind_takeIf? {p : τ → Bool} {next : Option τ → Parser τ ε β}
    (hsome : ∀ item, p item = true →
      Foresees AtEnd whole (next (some item)) fun tail => N (item :: tail))
    (hnone : Foresees AtEnd whole (next none) N) :
    Foresees AtEnd whole (takeIf? p >>= next) N where
  nil := hnone.nil
  foreseen items hitems := by
    cases items with
    | nil => exact .inl hnone.nil
    | cons item items =>
      cases hitem : p item with
      | true =>
        have hrest := (hsome item hitem).foreseen items ((List.suffix_cons item items).trans hitems)
        show Foreseen AtEnd N _ ([item] ++ items)
        exact hrest.prepend fun more => bind_of_ok (takeIf?_eq_some_iff.mpr ⟨rfl, hitem⟩)
      | false =>
        have hrest := hnone.foreseen (item :: items) hitems
        show Foreseen AtEnd N _ ([] ++ item :: items)
        refine hrest.prepend fun more => bind_of_ok (takeIf?_eq_none_iff.mpr ⟨?_, rfl⟩)
        exact (notAt_cons ..).mpr hitem

theorem foresees_bind_skipIf {p : τ → Bool} {next : Bool → Parser τ ε β}
    (htrue : ∀ item, p item = true → Foresees AtEnd whole (next true) fun tail => N (item :: tail))
    (hfalse : Foresees AtEnd whole (next false) N) :
    Foresees AtEnd whole (skipIf p >>= next) N := by
  rw [skipIf, bind_assoc]
  simp only [pure_bind]
  exact foresees_bind_takeIf? htrue hfalse

/-- An item that decides how to go on and is left at the front. -/
theorem foresees_bind_peek {p : τ → Bool} {next : Bool → Parser τ ε β}
    (htrue : Foresees AtEnd whole (next true) N) (hfalse : Foresees AtEnd whole (next false) N) :
    Foresees AtEnd whole ((do return (← peek?).any p) >>= next) N where
  nil := hfalse.nil
  foreseen items hitems := by
    cases items with
    | nil => exact .inl hfalse.nil
    | cons item items =>
      have hfront : Foreseen AtEnd N (next (p item)) (item :: items) := by
        cases p item with
        | true => exact htrue.foreseen _ hitems
        | false => exact hfalse.foreseen _ hitems
      have hpeek : ∀ more, ((do return (← peek?).any p) >>= next) ([] ++ item :: items ++ more) =
          next (p item) (item :: items ++ more) := fun _ => rfl
      exact hfront.prepend hpeek

/-! ### Repetition -/

/-- The phrases of one round of a repetition, which ends where there is no
result. -/
def Round (Spells : List τ → α → Prop) (Ending : List τ → Prop) :
    List τ → Option α → Prop
  | phrase, some result => Spells phrase result
  | phrase, none => Ending phrase

/-- Phrases in a row and the ending after them. -/
def RepeatedThen (Spells : List τ → α → Prop) (Ending : List τ → Prop) (phrase : List τ)
    (results : List α) : Prop :=
  ∃ rows ending, Repeated Spells rows results ∧ Ending ending ∧ phrase = rows ++ ending

theorem RepeatedThen.cons {Ending : List τ → Prop} {phrase tail : List τ} {result : α}
    {results : List α} (hphrase : S phrase result) (htail : RepeatedThen S Ending tail results) :
    RepeatedThen S Ending (phrase ++ tail) (result :: results) := by
  obtain ⟨rows, ending, hrows, hending, rfl⟩ := htail
  exact ⟨phrase ++ rows, ending, .cons hphrase hrows, hending, (List.append_assoc ..).symm⟩

/-- A repetition runs out or is settled as its rounds are.  The induction is on
the items that are left: each further round has fewer of them. -/
theorem Foresees.many {step : Parser τ ε (Option α)} {Ending : List τ → Prop}
    (h : Foresees AtEnd whole step (Round S Ending)) (hadvances : Advances step)
    {ending : List τ} (hending : Ending ending) :
    Foresees AtEnd whole (Parser.many step) (RepeatedThen S Ending) := by
  have hnil : RunsOut AtEnd (RepeatedThen S Ending) [] (Parser.many step []) := by
    have hround := h.nil
    rw [many_eq hadvances]
    generalize houtcome : step [] = outcome at hround
    cases hround with
    | @ok result hphrase =>
      cases result with
      | none => exact .ok ⟨[], [], .nil, hphrase, rfl⟩
      | some result => exact absurd (hadvances _ _ _ houtcome) (Nat.lt_irrefl _)
    | @error cause more result hcause hphrase =>
      cases result with
      | none => exact .error hcause ⟨[], _, .nil, hphrase, rfl⟩
      | some result =>
        have hrow : RepeatedThen S Ending (more ++ ending) [result] :=
          RepeatedThen.cons hphrase ⟨[], ending, .nil, hending, rfl⟩
        exact .error hcause hrow
  have hafter : ∀ result phrase, Round S Ending phrase result →
      RunsOut AtEnd (fun tail => RepeatedThen S Ending (phrase ++ tail)) []
        (afterRound (Parser.many step) result []) := by
    intro result phrase hphrase
    cases result with
    | none => exact .ok ⟨[], phrase ++ [], .nil, by rwa [List.append_nil], rfl⟩
    | some result => exact hnil.map fun tail results htail => htail.cons hphrase
  refine ⟨hnil, fun items hitems => ?_⟩
  induction hlength : items.length using Nat.strongRecOn generalizing items with
  | ind n ih =>
    rw [many_eq_bind hadvances]
    refine (h.foreseen items hitems).bind hafter fun result phrase rest hround hphrase hrest => ?_
    cases result with
    | none =>
      have hends : RepeatedThen S Ending (phrase ++ []) [] :=
        ⟨[], phrase ++ [], .nil, by rwa [List.append_nil], rfl⟩
      exact .inr (.ok hends rfl fun _ => rfl)
    | some result =>
      have hshorter : rest.length < n := hlength ▸ hadvances _ _ _ hround
      have hsuffix : rest <:+ whole := (hrest ▸ List.suffix_append phrase rest).trans hitems
      exact (ih _ hshorter rest hsuffix rfl).map fun tail results htail => htail.cons hphrase

/-- One phrase, and one more after each mark. -/
theorem Foresees.sepBy1 {item : Parser τ ε α} {p : τ → Bool} {mark : τ}
    (h : Foresees AtEnd whole item S) (hmark : ∀ found, p found = true ↔ found = mark)
    (hadvances : Advances (nextItem item (skipIf p))) :
    Foresees AtEnd whole (Parser.sepBy1 item (skipIf p)) (Separated mark S) := by
  have hnext : Foresees AtEnd whole (nextItem item (skipIf p)) (Round (Marked mark S) (· = [])) := by
    refine foresees_bind_skipIf (fun found hfound => ?_) (foresees_pure rfl)
    rw [(hmark found).mp hfound]
    exact h.map fun phrase result hphrase => Marked.intro hphrase
  rw [sepBy1_eq]
  refine h.bind fun first phrase hphrase => ?_
  refine (hnext.many hadvances rfl).bind fun others row hrow => foresees_pure ?_
  obtain ⟨rows, _, hrows, rfl, rfl⟩ := hrow
  simp only [List.append_nil]
  exact .intro hphrase hrows

end Foresees

end Parser

/-! ## Phrases -/

/-- The error is that the end was found. -/
inductive CompileError.AtEnd : CompileError → Prop where
  | intro (expected : Expectation) : AtEnd (.unexpected expected .endOfInput)

/-- The tokens end where a number with a fraction could go on. -/
inductive EndsInNumber : List Token → Prop where
  | number (before : List Token) (text : String) : EndsInNumber (before ++ [⟨.number, text⟩])
  | dot (before : List Token) (text : String) :
      EndsInNumber (before ++ [⟨.number, text⟩, ⟨.symbol, "."⟩])

theorem EndsInNumber.of_suffix {items tokens : List Token} (h : EndsInNumber items)
    (hitems : items <:+ tokens) : EndsInNumber tokens := by
  obtain ⟨left, rfl⟩ := hitems
  cases h with
  | number before text =>
    rw [← List.append_assoc]
    exact .number _ text
  | dot before text =>
    rw [← List.append_assoc]
    exact .dot _ text

theorem EndsInNumber.getLast? {tokens : List Token} (h : EndsInNumber tokens) :
    ∃ last ∈ tokens.getLast?, last.kind = .number ∨ last = ⟨.symbol, "."⟩ := by
  cases h with
  | number before text => exact ⟨⟨.number, text⟩, by simp, .inl rfl⟩
  | dot before text => exact ⟨⟨.symbol, "."⟩, by simp, .inr rfl⟩

namespace TokenParser

open CqlCompiler.Parser

variable {α : Type} {tokens : List Token}

/-- The parser fails at the end of the tokens only where they can become one of
its phrases. -/
abbrev Expects (tokens : List Token) (parser : TokenParser α) (Spells : List Token → α → Prop) :
    Prop :=
  Foresees CompileError.AtEnd tokens parser Spells

theorem not_atEnd_of_token {expected : Expectation} {token : Token} :
    ¬CompileError.AtEnd (.unexpected expected (.token token)) := by
  intro h
  cases h

theorem expects_unexpected {Spells : List Token → α → Prop} (expected : Expectation)
    (h : ∃ phrase result, Spells phrase result) :
    Expects tokens (unexpected expected) Spells := by
  obtain ⟨phrase, result, h⟩ := h
  refine ⟨.error (.intro expected) h, fun items _ => ?_⟩
  cases items with
  | nil => exact .inl (.error (.intro expected) h)
  | cons token items => exact .inr (.error not_atEnd_of_token fun _ => rfl)

theorem expects_expect (kind : TokenKind) (text : Option String) :
    Expects tokens (expect kind text) fun phrase token =>
      phrase = [token] ∧ token.kind = kind ∧ ∀ value ∈ text, token.value = value := by
  refine foresees_bind_takeIf? (fun token htoken => foresees_pure ⟨rfl, ?_⟩) ?_
  · cases text <;> simp_all
  · have hvalue : ∀ value ∈ text, text.getD "" = value := by
      rintro value hvalue
      rw [hvalue]
      rfl
    exact expects_unexpected _ ⟨_, ⟨kind, text.getD ""⟩, rfl, rfl, hvalue⟩

theorem expects_exactly (kind : TokenKind) (text : String) :
    Expects tokens (do let _ ← expect kind (some text)) fun phrase _ =>
      phrase = [⟨kind, text⟩] := by
  refine (expects_expect kind (some text)).bind fun token phrase hphrase => foresees_pure ?_
  obtain ⟨rfl, rfl, hvalue⟩ := hphrase
  obtain rfl := hvalue text rfl
  rfl

theorem expects_keyword (text : String) :
    Expects tokens (keyword text) fun phrase _ => phrase = [⟨.keyword, text⟩] :=
  expects_exactly .keyword text

theorem expects_symbol (text : String) :
    Expects tokens (symbol text) fun phrase _ => phrase = [⟨.symbol, text⟩] :=
  expects_exactly .symbol text

theorem expects_name : Expects tokens name SpellsName := by
  refine (expects_expect .identifier none).bind fun token phrase hphrase => foresees_pure ?_
  obtain ⟨kind, value⟩ := token
  obtain ⟨rfl, rfl, -⟩ := hphrase
  exact .intro value

theorem expects_number : Expects tokens number SpellsNumber := by
  refine (expects_expect .number none).bind fun token phrase hphrase => foresees_pure ?_
  obtain ⟨kind, value⟩ := token
  obtain ⟨rfl, rfl, -⟩ := hphrase
  exact .intro value

theorem expects_word (text : String) :
    Expects tokens (word text) fun phrase _ =>
      ∃ token : Token, token.isWord text = true ∧ phrase = [token] := by
  refine foresees_bind_skipIf (fun token htoken => foresees_pure ⟨token, htoken, rfl⟩) ?_
  have hword : (⟨.identifier, text⟩ : Token).isWord text = true := by simp [Token.isWord]
  exact expects_unexpected _ ⟨_, (), _, hword, rfl⟩

theorem expects_columnName : Expects tokens columnName SpellsColumnName := by
  refine expects_name.bind fun text phrase hphrase => foresees_pure ?_
  obtain ⟨⟩ := hphrase
  exact .intro text

theorem expects_commaSeparated {item : TokenParser α} {Spells : List Token → α → Prop}
    (h : Expects tokens item Spells) (hitem : Sound item Spells) :
    Expects tokens (sepBy1 item (skipSymbol ",")) (CommaSeparated Spells) :=
  h.sepBy1 (fun _ => Token.isSymbol_iff) hitem.advances_nextItem

theorem expects_names : Expects tokens names (CommaSeparated SpellsName) :=
  expects_commaSeparated expects_name name_sound

theorem expects_parenthesised {phrase : TokenParser α} {Spells : List Token → α → Prop}
    (h : Expects tokens phrase Spells) :
    Expects tokens (parenthesised phrase) (Parenthesised Spells) := by
  refine (expects_symbol "(").bind fun _ _ hopen => h.bind fun result inner hinner => ?_
  refine (expects_symbol ")").bind fun _ _ hclose => foresees_pure ?_
  subst hopen hclose
  exact .intro hinner

/-! ### Values -/

theorem not_atEnd_of_valueOfToken {token : Token} {cause : CompileError}
    (h : valueOfToken token = .error cause) : ¬cause.AtEnd := by
  rintro ⟨expected⟩
  obtain ⟨kind, text⟩ := token
  cases kind with
  | keyword => cases h
  | literal => cases h
  | number =>
    simp only [valueOfToken] at h
    split at h <;> cases h
  | symbol =>
    simp only [valueOfToken] at h
    split at h <;> cases h
  | identifier =>
    simp only [valueOfToken] at h
    split at h
    · cases h
    · split at h <;> cases h

/-- More tokens make a number with a fraction only where the tokens end in a
number. -/
theorem not_atDecimal_append {items : List Token} (hnumber : ¬EndsInNumber items)
    (h : ¬AtDecimal items) (hne : items ≠ []) (more : List Token) :
    ¬AtDecimal (items ++ more) := by
  intro hmore
  match items with
  | [] => exact hne rfl
  | [_] =>
    cases hmore
    exact hnumber (.number [] _)
  | [_, _] =>
    cases hmore
    exact hnumber (.dot [] _)
  | _ :: _ :: _ :: _ =>
    cases hmore
    exact h (.intro ..)

/-- The first token of a value decides what it is, and a number needs the two
tokens after it as well. -/
theorem settled_value (hnumber : ¬EndsInNumber tokens) {token : Token} {items : List Token}
    (hitems : token :: items <:+ tokens) :
    Settled CompileError.AtEnd SpellsValue value (token :: items) (value (token :: items)) := by
  by_cases hdecimal : AtDecimal (token :: items)
  · obtain ⟨whole, fraction, rest⟩ := hdecimal
    exact .ok (.decimal whole fraction) rfl fun _ => rfl
  · have hmore : ∀ more, value (token :: items ++ more) =
        (valueOfToken token).map (·, items ++ more) := fun more =>
      value_of_not_atDecimal (not_atDecimal_append (mt (·.of_suffix hitems) hnumber) hdecimal
        (List.cons_ne_nil _ _) more)
    rw [value_of_not_atDecimal hdecimal]
    cases hvalue : valueOfToken token with
    | error cause =>
      refine .error (not_atEnd_of_valueOfToken hvalue) fun more => ?_
      rw [hmore, hvalue]
      rfl
    | ok result =>
      refine .ok (spellsValue_of_valueOfToken hvalue) (List.singleton_append ..).symm fun more => ?_
      rw [hmore, hvalue]
      rfl

theorem expects_value (hnumber : ¬EndsInNumber tokens) : Expects tokens value SpellsValue := by
  have hnil : RunsOut CompileError.AtEnd SpellsValue [] (value []) :=
    .error (.intro .value) .placeholder
  refine ⟨hnil, fun items hitems => ?_⟩
  cases items with
  | nil => exact .inl hnil
  | cons token items => exact .inr (settled_value hnumber hitems)

theorem expects_defaultValue (hnumber : ¬EndsInNumber tokens) :
    Expects tokens defaultValue fun phrase v => SpellsValue phrase v ∧ v ≠ .placeholder := by
  have hnil : RunsOut CompileError.AtEnd (fun phrase v => SpellsValue phrase v ∧ v ≠ .placeholder)
      [] (defaultValue []) :=
    .error (.intro .value) ⟨.string "", by simp⟩
  refine ⟨hnil, fun items hitems => ?_⟩
  rcases items with _ | ⟨token, items⟩
  · exact .inl hnil
  refine .inr ?_
  rcases at_or_notAt_symbol "?" (token :: items) with ⟨tail, htail⟩ | hmark
  · rw [htail]
    exact .error not_atEnd_of_token fun _ => rfl
  · have hmark' (more : List Token) : NotAt (·.isSymbol "?") (token :: items ++ more) := by
      simpa using hmark
    have hsettled := settled_value hnumber hitems
    rw [defaultValue_of_notAt hmark]
    generalize value (token :: items) = outcome at hsettled
    cases hsettled with
    | @ok phrase rest v hphrase hsplit hmore =>
      refine .ok ⟨hphrase, ?_⟩ hsplit fun more =>
        (defaultValue_of_notAt (hmark' more)).trans (hmore more)
      rintro rfl
      cases hphrase
      obtain ⟨rfl, -⟩ := List.cons.inj hsplit
      simp [Token.isSymbol] at hmark
    | error hcause hmore =>
      exact .error hcause fun more => (defaultValue_of_notAt (hmark' more)).trans (hmore more)

/-! ### Tables -/

theorem expects_columnClause? (hnumber : ¬EndsInNumber tokens) :
    Expects tokens columnClause? (Round SpellsClause (· = [])) := by
  unfold columnClause?
  refine foresees_bind_skipIf (fun no hno => ?_) ?_
  · refine (expects_word "NULL").bind fun _ _ hphrase => foresees_pure ?_
    obtain ⟨null, hnull, rfl⟩ := hphrase
    exact SpellsClause.notNull hno hnull
  refine foresees_bind_skipIf (fun null hnull => foresees_pure (SpellsClause.null hnull)) ?_
  refine foresees_bind_skipIf (fun word hword => ?_) ?_
  · refine (expects_defaultValue hnumber).bind fun v phrase hphrase => foresees_pure ?_
    rw [List.append_nil]
    exact SpellsClause.default hword hphrase.1 hphrase.2
  refine foresees_bind_skipIf (fun primary hprimary => ?_) (foresees_pure rfl)
  refine (expects_keyword "KEY").bind fun _ _ hphrase => foresees_pure ?_
  subst hphrase
  rw [Token.isKeyword_iff.mp hprimary]
  exact SpellsClause.primaryKey

theorem expects_sizes : Expects tokens sizes SpellsSizes := by
  unfold sizes
  refine foresees_bind_skipIf (fun paren hparen => ?_) (foresees_pure .none)
  refine (expects_commaSeparated expects_number number_sound).bind fun texts phrase hphrase => ?_
  refine (expects_symbol ")").mono fun closing _ hclosing => ?_
  subst hclosing
  rw [Token.isSymbol_iff.mp hparen]
  exact .some (.intro hphrase)

theorem expects_column (hnumber : ¬EndsInNumber tokens) : Expects tokens column SpellsElement := by
  unfold column
  refine expects_name.bind fun columnName _ hname => ?_
  refine expects_name.bind fun typeName _ htype => ?_
  refine expects_sizes.bind fun _ sizes hsizes => ?_
  refine ((expects_columnClause? hnumber).many advances_columnClause? rfl).bind
    fun clauses row hrow => foresees_pure ?_
  obtain ⟨remarks, _, hremarks, rfl, rfl⟩ := hrow
  cases hname
  cases htype
  simp only [List.append_nil, List.cons_append, List.nil_append]
  exact .column columnName typeName hsizes hremarks

theorem expects_element (hnumber : ¬EndsInNumber tokens) :
    Expects tokens element SpellsElement := by
  unfold element
  refine foresees_bind_peek ?_ (expects_column hnumber)
  refine (expects_keyword "PRIMARY").bind fun _ _ hprimary => ?_
  refine (expects_keyword "KEY").bind fun _ _ hkey => ?_
  refine (expects_parenthesised expects_names).bind fun keys phrase hphrase => foresees_pure ?_
  subst hprimary hkey
  rw [List.append_nil]
  exact .primaryKey hphrase

theorem expects_nextElement (hnumber : ¬EndsInNumber tokens) :
    Expects tokens nextElement
      (Round (Marked ⟨.symbol, ","⟩ SpellsElement) fun ending =>
        ending = [] ∨ ending = [⟨.symbol, ","⟩]) := by
  unfold nextElement
  refine foresees_bind_skipIf (fun comma hcomma => ?_) (foresees_pure (.inl rfl))
  obtain rfl := Token.isSymbol_iff.mp hcomma
  refine foresees_bind_peek (foresees_pure (.inr rfl)) ?_
  exact (expects_element hnumber).map fun phrase part hphrase => Marked.intro hphrase

/-- The elements of a table; there are none where the table ends at once. -/
theorem expects_elements (hnumber : ¬EndsInNumber tokens) :
    Expects tokens elements fun phrase parts =>
      phrase = [] ∧ parts = [] ∨ SpellsElements phrase parts := by
  unfold elements
  refine foresees_bind_peek (foresees_pure (.inl ⟨rfl, rfl⟩)) ?_
  refine (expects_element hnumber).bind fun first phrase hphrase => ?_
  refine ((expects_nextElement hnumber).many advances_nextElement (.inl rfl)).bind
    fun others row hrow => foresees_pure (.inr ?_)
  obtain ⟨phrases, ending, hphrases, rfl | rfl, rfl⟩ := hrow
  · simp only [List.append_nil]
    exact .plain (.intro hphrase hphrases)
  · rw [List.append_nil, ← List.append_assoc]
    exact .comma (.intro hphrase hphrases)

/-- A column can be added to the elements of every table. -/
theorem exists_spellsElements_append {body : List Token} {parts : List TableElement}
    (h : body = [] ∧ parts = [] ∨ SpellsElements body parts) :
    ∃ more parts', SpellsElements (body ++ more) parts' ∧ columnsOf parts' ≠ [] := by
  have hcolumn : SpellsElement [⟨.identifier, "c"⟩, ⟨.identifier, "int"⟩]
      (.column ⟨"c", .ofName "int", constraintsOf []⟩ false) :=
    .column "c" "int" .none .nil
  have hcolumns (parts : List TableElement) (column : Column) (inKey : Bool) :
      columnsOf (parts ++ [.column column inKey]) ≠ [] := by
    simp [columnsOf]
  rcases h with ⟨rfl, rfl⟩ | h
  · have hfirst : CommaSeparated SpellsElement _ _ := .intro hcolumn .nil
    exact ⟨_, _, .plain hfirst, hcolumns [] _ _⟩
  cases h with
  | plain h => exact ⟨_, _, .plain (h.append hcolumn), hcolumns _ _ _⟩
  | comma h =>
    have hmore := h.append hcolumn
    rw [List.append_cons] at hmore
    exact ⟨_, _, .plain hmore, hcolumns _ _ _⟩

theorem unexpected_bind {β : Type} (expected : Expectation) (next : α → TokenParser β) :
    (unexpected expected >>= next) = unexpected expected :=
  rfl

/-- The table and its elements, without the words that make or guard it. -/
def SpellsBody (ifNotExists : Bool) (phrase : List Token) (create : CreateTable) : Prop :=
  ∃ table body parts, SpellsElements body parts ∧ columnsOf parts ≠ [] ∧
    create = ⟨table, ifNotExists, columnsOf parts, keyOf parts⟩ ∧
    phrase = ⟨.identifier, table⟩ :: ⟨.symbol, "("⟩ :: (body ++ [⟨.symbol, ")"⟩])

theorem expects_tableBody (hnumber : ¬EndsInNumber tokens) (ifNotExists : Bool) :
    Expects tokens (tableBody ifNotExists) (SpellsBody ifNotExists) := by
  unfold tableBody
  refine expects_name.bind fun table _ htable => (expects_symbol "(").bind fun _ _ hopen => ?_
  refine (expects_elements hnumber).bind fun parts body hparts => ?_
  cases htable
  subst hopen
  split
  · rw [unexpected_bind]
    obtain ⟨more, parts', hmore, hcolumns⟩ := exists_spellsElements_append hparts
    refine expects_unexpected _ ⟨more ++ [⟨.symbol, ")"⟩], _, table, body ++ more, parts', hmore,
      hcolumns, rfl, ?_⟩
    simp
  · rename_i hcolumns
    have hcolumns : columnsOf parts ≠ [] := by simpa using hcolumns
    refine (expects_symbol ")").bind fun _ _ hclose => foresees_pure ?_
    subst hclose
    rcases hparts with ⟨rfl, rfl⟩ | hparts
    · exact absurd rfl hcolumns
    · exact ⟨table, body, parts, hparts, hcolumns, rfl, by simp⟩

theorem expects_createTable (hnumber : ¬EndsInNumber tokens) :
    Expects tokens createTable SpellsCreateTable := by
  rw [createTable_eq]
  refine (expects_keyword "CREATE").bind fun _ _ hcreate => ?_
  refine (expects_keyword "TABLE").bind fun _ _ htable => ?_
  subst hcreate htable
  refine foresees_bind_skipIf (fun guard hguard => ?_) ?_
  · refine (expects_word "NOT").bind fun _ _ hno => ?_
    refine (expects_keyword "EXISTS").bind fun _ _ hexists => ?_
    obtain ⟨no, hno, rfl⟩ := hno
    subst hexists
    refine (expects_tableBody hnumber true).mono fun phrase create hphrase => ?_
    obtain ⟨table, body, parts, hparts, hcolumns, rfl, rfl⟩ := hphrase
    rw [Token.isKeyword_iff.mp hguard]
    exact .intro table (.present hno) hparts hcolumns
  · refine (expects_tableBody hnumber false).mono fun phrase create hphrase => ?_
    obtain ⟨table, body, parts, hparts, hcolumns, rfl, rfl⟩ := hphrase
    exact .intro table .absent hparts hcolumns

theorem expects_dropTable : Expects tokens dropTable SpellsDropTable := by
  unfold dropTable
  refine (expects_keyword "DROP").bind fun _ _ hdrop => ?_
  refine (expects_keyword "TABLE").bind fun _ _ htable => ?_
  subst hdrop htable
  refine foresees_bind_skipIf (fun guard hguard => ?_) ?_
  · refine (expects_keyword "EXISTS").bind fun _ _ hexists => ?_
    refine expects_name.bind fun table _ hname => foresees_pure ?_
    subst hexists
    cases hname
    rw [Token.isKeyword_iff.mp hguard]
    exact .intro table .present
  · refine expects_name.bind fun table _ hname => foresees_pure ?_
    cases hname
    exact .intro table .absent

/-! ### Queries -/

theorem expects_condition (hnumber : ¬EndsInNumber tokens) :
    Expects tokens condition SpellsCondition := by
  unfold condition
  refine expects_columnName.bind fun column left hcolumn => ?_
  refine (expects_symbol "=").bind fun _ _ hequals => ?_
  refine (expects_value hnumber).bind fun v right hvalue => foresees_pure ?_
  subst hequals
  rw [List.append_nil]
  exact .intro hcolumn hvalue

theorem expects_conditions (hnumber : ¬EndsInNumber tokens) :
    Expects tokens conditions SpellsConditions := by
  unfold conditions
  refine foresees_bind_skipIf (fun found hfound => ?_) (foresees_pure .absent)
  rw [Token.isKeyword_iff.mp hfound]
  refine ((expects_condition hnumber).sepBy1 (fun _ => Token.isKeyword_iff)
    condition_sound.advances_nextItem).mono fun phrase conditions hphrase => ?_
  exact .present hphrase

/-- A number that is no row count stays none. -/
theorem settled_rowCount (text : String) (items : List Token) :
    Settled CompileError.AtEnd (fun tail => SpellsLimit (⟨.keyword, "LIMIT"⟩ :: tail)) rowCount
      (⟨.number, text⟩ :: items) (rowCount (⟨.number, text⟩ :: items)) := by
  have hmore (more : List Token) := rowCount_number text (items ++ more)
  rw [rowCount_number]
  cases hcount : Text.Numeral.unsigned? text with
  | none =>
    rw [hcount] at hmore
    exact .error (fun h => nomatch h) hmore
  | some count =>
    rw [hcount] at hmore
    have hphrase : SpellsLimit [⟨.keyword, "LIMIT"⟩, ⟨.number, text⟩] count :=
      .intro (Text.Numeral.unsigned?_eq_some_iff.mp hcount)
    exact .ok hphrase rfl hmore

theorem expects_rowCount :
    Expects tokens rowCount fun tail => SpellsLimit (⟨.keyword, "LIMIT"⟩ :: tail) := by
  have hzero : SpellsLimit [⟨.keyword, "LIMIT"⟩, ⟨.number, "0"⟩] 0 :=
    .intro (Text.Numeral.unsigned?_eq_some_iff.mp (by decide))
  refine ⟨.error (.intro _) hzero, fun items _ => ?_⟩
  cases items with
  | nil => exact .inl (.error (.intro _) hzero)
  | cons token items =>
    refine .inr ?_
    obtain ⟨kind, text⟩ := token
    cases kind with
    | number => exact settled_rowCount text items
    | keyword | identifier | literal | symbol => exact .error not_atEnd_of_token fun _ => rfl

theorem expects_limit? : Expects tokens limit? (Round SpellsLimit (· = [])) := by
  rw [limit?_eq]
  refine foresees_bind_skipIf (fun found hfound => ?_) (foresees_pure rfl)
  rw [Token.isKeyword_iff.mp hfound]
  exact expects_rowCount.map fun _ _ hphrase => hphrase

theorem expects_direction : Expects tokens direction SpellsDirection := by
  unfold direction
  refine foresees_bind_skipIf (fun word hword => foresees_pure (.descending hword)) ?_
  exact foresees_bind_skipIf (fun word hword => foresees_pure (.ascending hword))
    (foresees_pure .unsaid)

theorem expects_order? : Expects tokens order? (Round SpellsOrder (· = [])) := by
  unfold order?
  refine foresees_bind_skipIf (fun found hfound => ?_) (foresees_pure rfl)
  rw [Token.isKeyword_iff.mp hfound]
  refine (expects_keyword "BY").bind fun _ _ hby => ?_
  refine expects_columnName.bind fun column name hcolumn => ?_
  refine expects_direction.bind fun way phrase hway => foresees_pure ?_
  subst hby
  simp only [List.append_nil, List.cons_append, List.nil_append]
  exact SpellsOrder.intro hcolumn hway

theorem expects_options :
    Expects tokens options fun phrase found => SpellsOptions phrase found.1 found.2 := by
  unfold options
  refine expects_limit?.bind fun early first hearly => ?_
  refine expects_order?.bind fun order second horder => ?_
  cases early with
  | some count =>
    refine foresees_pure ?_
    rw [List.append_nil]
    cases order with
    | none =>
      obtain rfl : second = [] := horder
      rw [List.append_nil]
      exact .limit hearly
    | some order => exact .limitOrder hearly horder
  | none =>
    obtain rfl : first = [] := hearly
    refine expects_limit?.bind fun late third hlate => foresees_pure ?_
    rw [List.append_nil, List.nil_append]
    cases order with
    | none =>
      obtain rfl : second = [] := horder
      cases late with
      | none =>
        obtain rfl : third = [] := hlate
        exact .none
      | some count => exact .limit hlate
    | some order =>
      cases late with
      | none =>
        obtain rfl : third = [] := hlate
        rw [List.append_nil]
        exact .order horder
      | some count => exact .orderLimit horder hlate

theorem expects_select (hnumber : ¬EndsInNumber tokens) : Expects tokens select SpellsSelect := by
  rw [select_eq]
  refine (expects_keyword "SELECT").bind fun _ _ hselect => ?_
  refine (expects_commaSeparated expects_columnName columnName_sound).bind
    fun names projected hnames => ?_
  refine (expects_keyword "FROM").bind fun _ _ hfrom => expects_name.bind fun table _ htable => ?_
  refine (expects_conditions hnumber).bind fun conditions filters hconditions => ?_
  refine expects_options.bind fun found phrase hoptions => foresees_pure ?_
  subst hselect hfrom
  cases htable
  simp only [List.append_nil, List.cons_append, List.nil_append]
  exact .intro table hnames hconditions hoptions

/-! ### Whole statements -/

theorem expects_nothing :
    Expects tokens (do unless (← get).isEmpty do unexpected .endOfInput) fun phrase _ =>
      phrase = [] := by
  refine ⟨.ok rfl, fun items _ => ?_⟩
  cases items with
  | nil => exact .inl (.ok rfl)
  | cons token items => exact .inr (.error not_atEnd_of_token fun _ => rfl)

theorem expects_ending :
    Expects tokens ending fun phrase _ => phrase = [] ∨ phrase = [⟨.symbol, ";"⟩] := by
  refine foresees_bind_skipIf (fun semicolon hsemicolon => ?_)
    (expects_nothing.mono fun _ _ => .inl)
  refine expects_nothing.mono fun phrase _ hphrase => .inr ?_
  rw [hphrase, Token.isSymbol_iff.mp hsemicolon]

/-- A statement of one kind that is all there is. -/
theorem expects_whole {kind : TokenParser α} {Spells : List Token → α → Prop} {f : α → Statement}
    (h : Expects tokens kind Spells)
    (hf : ∀ phrase result, Spells phrase result → SpellsBare phrase (f result)) :
    Expects tokens (do let result ← f <$> kind; ending; return result) SpellsStatement := by
  refine (h.map hf).bind fun result phrase hphrase => ?_
  refine expects_ending.bind fun _ last hlast => foresees_pure ?_
  rw [List.append_nil]
  rcases hlast with rfl | rfl
  · rw [List.append_nil]
    exact .plain hphrase
  · exact .semicolon hphrase

/-- The first token decides on the kind of statement, whatever follows it. -/
theorem foreseen_wholeStatement {first : Token} {rest : List Token}
    (hfirst : first ∈ [⟨.keyword, "CREATE"⟩, ⟨.keyword, "DROP"⟩, ⟨.keyword, "SELECT"⟩])
    (hnumber : ¬EndsInNumber (first :: rest)) :
    Foreseen CompileError.AtEnd SpellsStatement wholeStatement (first :: rest) := by
  have hself := List.suffix_refl (first :: rest)
  simp only [List.mem_cons, List.not_mem_nil, or_false] at hfirst
  rw [← List.nil_append (first :: rest)]
  rcases hfirst with rfl | rfl | rfl
  · refine ((expects_whole (expects_createTable hnumber) fun _ _ => SpellsBare.createTable).foreseen
      _ hself).prepend fun more => ?_
    rfl
  · refine ((expects_whole expects_dropTable fun _ _ => SpellsBare.dropTable).foreseen
      _ hself).prepend fun more => ?_
    rfl
  · refine ((expects_whole (expects_select hnumber) fun _ _ => SpellsBare.select).foreseen
      _ hself).prepend fun more => ?_
    rfl

end TokenParser

/-! ## Statements -/

/-- The error says that the end of the input was found. -/
def CompileError.FoundEnd (cause : CompileError) : Prop :=
  ∃ expected found, cause = .unexpected expected found ∧ found.description = "end of input"

/-- No wording but that of the end is the wording of the end. -/
theorem Finding.description_eq_endOfInput_iff {found : Finding} :
    found.description = "end of input" ↔ found = .endOfInput := by
  refine ⟨fun h => ?_, fun h => h ▸ rfl⟩
  replace h := congrArg (fun text => text.toList.head?) h
  cases found with
  | endOfInput => rfl
  | token token =>
    obtain ⟨kind, text⟩ := token
    cases kind <;> simp [description, TokenKind.name] at h
  | number text => simp [description] at h
  | valueCount count =>
    cases hdigits : Nat.toDigits 10 count with
    | nil => exact absurd hdigits Nat.toDigits_ne_nil
    | cons digit digits =>
      have hdigit : digit.isDigit = true :=
        Nat.isDigit_of_mem_toDigits (by decide) (by decide) (hdigits ▸ List.mem_cons_self)
      simp [description, Text.Numeral.ofNat, hdigits] at h
      subst h
      cases hdigit

theorem CompileError.foundEnd_iff_atEnd {cause : CompileError} : cause.FoundEnd ↔ cause.AtEnd := by
  constructor
  · rintro ⟨expected, found, rfl, hfound⟩
    rw [Finding.description_eq_endOfInput_iff.mp hfound]
    exact .intro expected
  · rintro ⟨expected⟩
    exact ⟨expected, .endOfInput, rfl, rfl⟩

/-- Tokens that begin as a definition, a removal or a query and do not end in a
number are rejected at their end exactly when more tokens make them a statement.
Any other error stays the same whatever follows. -/
theorem foundEnd_iff_exists_completion {first : Token} {rest : List Token} {cause : CompileError}
    (hfirst : first ∈ [⟨.keyword, "CREATE"⟩, ⟨.keyword, "DROP"⟩, ⟨.keyword, "SELECT"⟩])
    (hnumber : ¬EndsInNumber (first :: rest))
    (herror : Statement.ofTokens (first :: rest) = .error cause) :
    (cause.FoundEnd ↔ ∃ more ≠ [], ∃ statement,
      Statement.ofTokens (first :: rest ++ more) = .ok statement) ∧
    (¬cause.FoundEnd → ∀ more, Statement.ofTokens (first :: rest ++ more) = .error cause) := by
  have hmap (tokens : List Token) :
      Statement.ofTokens tokens = (TokenParser.wholeStatement tokens).map (·.1) := rfl
  rw [CompileError.foundEnd_iff_atEnd]
  have hforeseen := TokenParser.foreseen_wholeStatement hfirst hnumber
  rw [hmap] at herror
  generalize houtcome : TokenParser.wholeStatement (first :: rest) = outcome at herror
  rw [Parser.Foreseen, houtcome] at hforeseen
  rcases hforeseen with hout | hsettled
  · cases hout with
    | ok _ => cases herror
    | @error other more statement hend hspells =>
      obtain rfl : cause = other := (Except.error.inj herror).symm
      have hcompletion := Statement.ofTokens_eq_ok_iff.mpr hspells
      refine ⟨iff_of_true hend ⟨more, ?_, statement, hcompletion⟩, fun h => absurd hend h⟩
      rintro rfl
      rw [List.append_nil, hmap, houtcome] at hcompletion
      cases hcompletion
  · cases hsettled with
    | ok _ _ _ => cases herror
    | @error other hend hmore =>
      obtain rfl : cause = other := (Except.error.inj herror).symm
      have hstays (more : List Token) :
          Statement.ofTokens (first :: rest ++ more) = .error cause := by
        rw [hmap, hmore]
        rfl
      refine ⟨iff_of_false hend ?_, fun _ => hstays⟩
      rintro ⟨more, -, statement, hstatement⟩
      rw [hstays] at hstatement
      cases hstatement

/-- The definition of a table with a key and without columns, cut off. -/
def loneKey : List Token :=
  [⟨.keyword, "CREATE"⟩, ⟨.keyword, "TABLE"⟩, ⟨.identifier, "t"⟩, ⟨.symbol, "("⟩,
    ⟨.keyword, "PRIMARY"⟩, ⟨.keyword, "KEY"⟩, ⟨.symbol, "("⟩, ⟨.identifier, "a"⟩, ⟨.symbol, ")"⟩]

/-- A query that goes on after its row count with another one, cut off. -/
def secondLimit : List Token :=
  [⟨.keyword, "SELECT"⟩, ⟨.identifier, "a"⟩, ⟨.keyword, "FROM"⟩, ⟨.identifier, "t"⟩,
    ⟨.keyword, "LIMIT"⟩, ⟨.number, "5"⟩, ⟨.keyword, "LIMIT"⟩]

theorem foundEnd_iff_exists_completion_of_loneKey_of_secondLimit :
    (Statement.ofTokens loneKey = .error (.unexpected .columnDefinition .endOfInput) ∧
      ∃ more ≠ [], ∃ statement, Statement.ofTokens (loneKey ++ more) = .ok statement) ∧
    ∀ more, Statement.ofTokens (secondLimit ++ more) =
      .error (.unexpected .endOfInput (.token ⟨.keyword, "LIMIT"⟩)) := by
  refine ⟨⟨rfl, ?_⟩, ?_⟩
  · have hnumber : ¬EndsInNumber loneKey := fun h => by simpa [loneKey] using h.getLast?
    exact (foundEnd_iff_exists_completion (by decide) hnumber rfl).1.mp ⟨_, _, rfl, rfl⟩
  · have hnumber : ¬EndsInNumber secondLimit := fun h => by simpa [secondLimit] using h.getLast?
    refine (foundEnd_iff_exists_completion (by decide) hnumber rfl).2 ?_
    rw [CompileError.foundEnd_iff_atEnd]
    exact TokenParser.not_atEnd_of_token

end CqlCompiler
