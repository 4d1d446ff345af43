import CqlCompiler.Proofs.Respelling

/-!
# The contents of literals decide nothing

What stands between the quotes of a literal is data.  It may end up in a value
of the statement, but it has no say in which statement that is: if the literals
of a token list get other contents, the statement gets the new contents in the
same places and stays as it is otherwise, and a token list that is no statement
fails for a cause of the same kind.

There are two groups.

* New contents.  They are a respelling that leaves words as they are, so
  `Statement.ofTokens_mapLiteral` is a case of `Statement.ofTokens_respell`.
* Two token lists.  They are compared in `ofTokens_of_sameButLiterals` by way of
  a third one, in which the contents of a literal are its own number.
-/

namespace CqlCompiler

/-! ## New contents -/

/-- The token with other contents, if it is a literal. -/
def Token.mapLiteral (f : String → String) (token : Token) : Token :=
  if token.kind = .literal then { token with value := f token.value } else token

namespace Token

variable {f : String → String}

theorem mapLiteral_of_kind {token : Token} (h : token.kind = .literal) :
    token.mapLiteral f = ⟨.literal, f token.value⟩ := by
  rw [mapLiteral, if_pos h, h]

theorem mapLiteral_of_ne {token : Token} (h : token.kind ≠ .literal) :
    token.mapLiteral f = token :=
  if_neg h

@[simp] theorem kind_mapLiteral (token : Token) : (token.mapLiteral f).kind = token.kind := by
  unfold mapLiteral
  split <;> rfl

end Token

/-- The value with other contents, if it is a string. -/
def Value.mapString (f : String → String) : Value → Value
  | .string text => .string (f text)
  | value => value

def Condition.mapString (f : String → String) (condition : Condition) : Condition :=
  { condition with value := condition.value.mapString f }

def Constraints.mapString (f : String → String) (constraints : Constraints) : Constraints :=
  { constraints with default := constraints.default.map (Value.mapString f) }

def Column.mapString (f : String → String) (column : Column) : Column :=
  { column with constraints := column.constraints.mapString f }

def CreateTable.mapStrings (f : String → String) (create : CreateTable) : CreateTable :=
  { create with columns := create.columns.map (Column.mapString f) }

def Select.mapStrings (f : String → String) (query : Select) : Select :=
  { query with conditions := query.conditions.map (Condition.mapString f) }

def Insert.mapStrings (f : String → String) (row : Insert) : Insert :=
  { row with values := row.values.map (Value.mapString f) }

/-- The statement with other contents of its strings. -/
def Statement.mapStrings (f : String → String) : Statement → Statement
  | .createTable create => .createTable (create.mapStrings f)
  | .dropTable drop => .dropTable drop
  | .select query => .select (query.mapStrings f)
  | .insert row => .insert (row.mapStrings f)

/-- Other contents of literals, with every word as it is. -/
def Respelling.literals (f : String → String) : Respelling where
  letter := id
  toLower_letter _ := rfl
  contents := f

section Literals

variable (f : String → String)

@[simp] theorem Respelling.text_literals : (literals f).text = id := by
  funext text
  show String.ofList (text.toList.map id) = text
  rw [List.map_id, String.ofList_toList]

theorem Token.respell_literals : respell (.literals f) = mapLiteral f := by
  funext token
  obtain ⟨kind, text⟩ := token
  cases kind with
  | identifier => exact congrArg (Token.mk .identifier) (congrFun (Respelling.text_literals f) text)
  | keyword | literal | number | symbol => rfl

theorem Value.respell_literals : respell (.literals f) = mapString f := by
  funext value
  cases value with
  | identifier word => exact congrArg Value.identifier (congrFun (Respelling.text_literals f) word)
  | string | int | decimal | bool | placeholder => rfl

theorem Condition.respell_literals : respell (.literals f) = mapString f := by
  funext condition
  rw [respell, Respelling.text_literals, Value.respell_literals]
  rfl

theorem Column.respell_literals : respell (.literals f) = mapString f := by
  funext column
  rw [respell, Respelling.text_literals, Constraints.respell, Value.respell_literals]
  rfl

theorem Projection.respell_literals (projection : Projection) :
    projection.respell (.literals f) = projection := by
  cases projection with
  | all => rfl
  | columns names => rw [respell, Respelling.text_literals, List.map_id]

theorem Statement.respell_literals (statement : Statement) :
    statement.respell (.literals f) = statement.mapStrings f := by
  cases statement with
  | createTable create =>
    simp [respell, CreateTable.respell, mapStrings, CreateTable.mapStrings,
      Column.respell_literals]
  | dropTable drop => simp [respell, DropTable.respell, mapStrings]
  | select query =>
    have horder : query.order.map (RowOrder.respell (.literals f)) = query.order := by
      cases query.order <;> simp [RowOrder.respell]
    simp [respell, Select.respell, mapStrings, Select.mapStrings, Condition.respell_literals,
      Projection.respell_literals, horder]
  | insert row =>
    simp [respell, Insert.respell, mapStrings, Insert.mapStrings, Value.respell_literals]

end Literals

/-- If the literals of a token list get other contents, so do the strings of the
statement, and nothing else changes. -/
theorem Statement.ofTokens_mapLiteral (f : String → String) (tokens : List Token) :
    (∃ statement, ofTokens tokens = .ok statement ∧
      ofTokens (tokens.map (Token.mapLiteral f)) = .ok (statement.mapStrings f)) ∨
    ∃ cause cause', ofTokens tokens = .error cause ∧
      ofTokens (tokens.map (Token.mapLiteral f)) = .error cause' ∧ cause.Alike cause' := by
  have houtcome := ofTokens_respell (.literals f) tokens
  simpa only [Token.respell_literals, respell_literals] using houtcome

/-! ## Two token lists -/

theorem CompileError.Alike.of_common {cause left right : CompileError} (hleft : cause.Alike left)
    (hright : cause.Alike right) : left.Alike right := by
  cases hleft with
  | unexpected =>
    cases hright with
    | unexpected => exact .unexpected
  | unsupported =>
    cases hright with
    | unsupported => exact .unsupported

/-- The strings of a value: itself or none. -/
def Value.strings : Value → List String
  | .string text => [text]
  | _ => []

/-- The strings among the values of a statement. -/
def Statement.strings : Statement → List String
  | .createTable create =>
    create.columns.flatMap fun column => column.constraints.default.toList.flatMap Value.strings
  | .dropTable _ => []
  | .select query => query.conditions.flatMap fun condition => condition.value.strings
  | .insert row => row.values.flatMap Value.strings

theorem Value.strings_mapString (f : String → String) (value : Value) :
    (value.mapString f).strings = value.strings.map f := by
  cases value <;> rfl

theorem Statement.strings_mapStrings (f : String → String) (statement : Statement) :
    (statement.mapStrings f).strings = statement.strings.map f := by
  cases statement with
  | createTable create =>
    simp only [mapStrings, strings, CreateTable.mapStrings, List.flatMap_map, List.map_flatMap]
    congr 1
    funext column
    cases hdefault : column.constraints.default with
    | none => simp [Column.mapString, Constraints.mapString, hdefault]
    | some value =>
      simp [Column.mapString, Constraints.mapString, hdefault, Value.strings_mapString]
  | dropTable => rfl
  | select query =>
    simp only [mapStrings, strings, Select.mapStrings, List.flatMap_map, List.map_flatMap,
      Condition.mapString, Value.strings_mapString]
  | insert row =>
    simp only [mapStrings, strings, Insert.mapStrings, List.flatMap_map, List.map_flatMap,
      Value.strings_mapString]

/-- A renaming that keeps the literals of the tokens keeps the strings of the
statement. -/
theorem Statement.map_strings_of_map_eq {f : String → String} {tokens : List Token}
    {statement : Statement} (h : ofTokens tokens = .ok statement)
    (hfixed : tokens.map (Token.mapLiteral f) = tokens) :
    statement.strings.map f = statement.strings := by
  rcases ofTokens_mapLiteral f tokens with ⟨found, hfound, hrenamed⟩ | ⟨cause, cause', hcause, -⟩
  · rw [hfixed, h] at hrenamed
    rw [h] at hfound
    obtain rfl := Except.ok.inj hfound
    rw [← strings_mapStrings, ← Except.ok.inj hrenamed]
  · rw [h] at hcause
    cases hcause

/-- Keeps the literals of the tokens and changes every other text. -/
def Token.keepLiterals (tokens : List Token) (text : String) : String :=
  if ⟨.literal, text⟩ ∈ tokens then text else text ++ "'"

theorem Token.map_keepLiterals (tokens : List Token) :
    tokens.map (mapLiteral (keepLiterals tokens)) = tokens := by
  refine (List.map_congr_left fun token htoken => ?_).trans (List.map_id tokens)
  by_cases hkind : token.kind = .literal
  · obtain ⟨kind, text⟩ := token
    obtain rfl := hkind
    rw [mapLiteral_of_kind rfl, keepLiterals, if_pos htoken]
    rfl
  · exact mapLiteral_of_ne hkind

theorem Token.mem_of_keepLiterals_eq {tokens : List Token} {text : String}
    (h : keepLiterals tokens text = text) : ⟨.literal, text⟩ ∈ tokens := by
  by_cases hmem : ⟨.literal, text⟩ ∈ tokens
  · exact hmem
  · rw [keepLiterals, if_neg hmem] at h
    have hlength := congrArg String.length h
    rw [String.length_append] at hlength
    exact absurd hlength (Nat.succ_ne_self _)

/-- Every string of a statement is a literal of its tokens: otherwise a renaming
could change it and keep all of the literals. -/
theorem Statement.mem_tokens_of_mem_strings {tokens : List Token} {statement : Statement}
    (h : ofTokens tokens = .ok statement) {text : String} (htext : text ∈ statement.strings) :
    ⟨.literal, text⟩ ∈ tokens := by
  have hstrings := map_strings_of_map_eq h (Token.map_keepLiterals tokens)
  have hkept := List.map_inj_left.mp (hstrings.trans (List.map_id _).symm) text htext
  exact Token.mem_of_keepLiterals_eq hkept

/-- The token list with the number of each literal in place of its contents. -/
def Token.numbered (tokens : List Token) : List Token :=
  tokens.mapIdx fun i token => token.mapLiteral fun _ => Text.Numeral.ofNat i

/-- The contents of the token with the number that the text is. -/
def Token.contentsAt (tokens : List Token) (text : String) : String :=
  match (Text.Numeral.digits? text.toList).bind (tokens[·]?) with
  | some token => token.value
  | none => text

/-- Two token lists that are the same but for the contents of literals. -/
structure Token.SameButLiterals (left right : List Token) : Prop where
  length_eq : left.length = right.length
  same : ∀ (i : Nat) (token token' : Token), left[i]? = some token → right[i]? = some token' →
    token = token' ∨ (token.kind = .literal ∧ token'.kind = .literal)

theorem Token.SameButLiterals.refl (tokens : List Token) : SameButLiterals tokens tokens :=
  ⟨rfl, fun _ _ _ h h' => .inl (Option.some.inj (h.symm.trans h'))⟩

theorem Token.sameButLiterals_map (f : String → String) (tokens : List Token) :
    SameButLiterals tokens (tokens.map (mapLiteral f)) := by
  refine ⟨(List.length_map _).symm, fun i token token' h h' => ?_⟩
  rw [List.getElem?_map, h] at h'
  obtain rfl := Option.some.inj h'
  by_cases hkind : token.kind = .literal
  · exact .inr ⟨hkind, (kind_mapLiteral token).trans hkind⟩
  · exact .inl (mapLiteral_of_ne hkind).symm

theorem Token.contentsAt_ofNat {tokens : List Token} {i : Nat} {token : Token}
    (h : tokens[i]? = some token) : contentsAt tokens (Text.Numeral.ofNat i) = token.value := by
  rw [contentsAt, Text.Numeral.ofNat, String.toList_ofList, Text.Numeral.digits?_toDigits,
    Option.bind_some, h]

/-- The numbers stand for the contents of either list. -/
theorem Token.SameButLiterals.map_numbered {left right : List Token}
    (h : SameButLiterals left right) :
    (numbered left).map (mapLiteral (contentsAt right)) = right := by
  apply List.ext_getElem?
  intro i
  rw [List.getElem?_map, numbered, List.getElem?_mapIdx]
  cases hleft : left[i]? with
  | none =>
    rw [List.getElem?_eq_none_iff, h.length_eq, ← List.getElem?_eq_none_iff] at hleft
    rw [hleft]
    rfl
  | some token =>
    have hlt : i < right.length := h.length_eq ▸ (List.getElem?_eq_some_iff.mp hleft).1
    obtain ⟨token', hright⟩ : ∃ token', right[i]? = some token' := ⟨_, List.getElem?_eq_getElem hlt⟩
    rw [hright]
    refine congrArg some ?_
    dsimp only
    by_cases hkind : token.kind = .literal
    · have hkind' : token'.kind = .literal := by
        rcases h.same i token token' hleft hright with rfl | ⟨-, hkind'⟩
        · exact hkind
        · exact hkind'
      rw [mapLiteral_of_kind hkind, mapLiteral_of_kind rfl, contentsAt_ofNat hright, ← hkind']
    · have hsame : token = token' := by
        rcases h.same i token token' hleft hright with hsame | ⟨hliteral, -⟩
        · exact hsame
        · exact absurd hliteral hkind
      rw [mapLiteral_of_ne hkind, mapLiteral_of_ne hkind, hsame]

theorem Token.exists_of_mem_numbered {tokens : List Token} {text : String}
    (h : ⟨.literal, text⟩ ∈ numbered tokens) :
    ∃ (i : Nat) (token : Token), tokens[i]? = some token ∧ token.kind = .literal ∧
      text = Text.Numeral.ofNat i := by
  obtain ⟨i, hlt, htoken⟩ := List.mem_mapIdx.mp h
  have hkind := congrArg Token.kind htoken
  rw [kind_mapLiteral] at hkind
  rw [mapLiteral_of_kind hkind] at htoken
  exact ⟨i, tokens[i], List.getElem?_eq_getElem hlt, hkind, (Token.mk.inj htoken).2.symm⟩

/-- Token lists that are the same but for the contents of literals are both
statements or both not.  The statements differ in the contents of their strings
alone, and each string holds the contents of the same literal on both sides. -/
theorem ofTokens_of_sameButLiterals {left right : List Token}
    (h : Token.SameButLiterals left right) :
    (∃ template, Statement.ofTokens (Token.numbered left) = .ok template ∧
      (∀ text ∈ template.strings, ∃ (i : Nat) (token : Token), left[i]? = some token ∧
        token.kind = .literal ∧ text = Text.Numeral.ofNat i) ∧
      Statement.ofTokens left = .ok (template.mapStrings (Token.contentsAt left)) ∧
      Statement.ofTokens right = .ok (template.mapStrings (Token.contentsAt right))) ∨
    ∃ cause cause', Statement.ofTokens left = .error cause ∧
      Statement.ofTokens right = .error cause' ∧ cause.Alike cause' := by
  have hleft := Statement.ofTokens_mapLiteral (Token.contentsAt left) (Token.numbered left)
  have hright := Statement.ofTokens_mapLiteral (Token.contentsAt right) (Token.numbered left)
  rw [(Token.SameButLiterals.refl left).map_numbered] at hleft
  rw [h.map_numbered] at hright
  rcases hleft with ⟨template, htemplate, hleft⟩ | ⟨cause, left', htemplate, hleft, halike⟩
  · rw [htemplate] at hright
    rcases hright with ⟨_, ⟨⟩, hright⟩ | ⟨_, _, ⟨⟩, -⟩
    refine .inl ⟨template, htemplate, ?_, hleft, hright⟩
    intro text htext
    exact Token.exists_of_mem_numbered (Statement.mem_tokens_of_mem_strings htemplate htext)
  · rw [htemplate] at hright
    rcases hright with ⟨_, ⟨⟩, -⟩ | ⟨_, right', ⟨⟩, hright, halike'⟩
    exact .inr ⟨left', right', hleft, hright, halike.of_common halike'⟩

theorem ofTokens_of_sameButLiterals_of_quote :
    Token.SameButLiterals
        [⟨.keyword, "SELECT"⟩, ⟨.identifier, "a"⟩, ⟨.keyword, "FROM"⟩, ⟨.identifier, "t"⟩,
          ⟨.keyword, "WHERE"⟩, ⟨.identifier, "b"⟩, ⟨.symbol, "="⟩, ⟨.literal, "x"⟩]
        [⟨.keyword, "SELECT"⟩, ⟨.identifier, "a"⟩, ⟨.keyword, "FROM"⟩, ⟨.identifier, "t"⟩,
          ⟨.keyword, "WHERE"⟩, ⟨.identifier, "b"⟩, ⟨.symbol, "="⟩, ⟨.literal, "x' LIMIT 1"⟩] ∧
      Statement.ofTokens
          [⟨.keyword, "SELECT"⟩, ⟨.identifier, "a"⟩, ⟨.keyword, "FROM"⟩, ⟨.identifier, "t"⟩,
            ⟨.keyword, "WHERE"⟩, ⟨.identifier, "b"⟩, ⟨.symbol, "="⟩, ⟨.literal, "x' LIMIT 1"⟩] =
        .ok (.select ⟨.columns ["a"], "t", [⟨"b", .string "x' LIMIT 1"⟩], none, none⟩) := by
  have hsame : Token.SameButLiterals
      [⟨.keyword, "SELECT"⟩, ⟨.identifier, "a"⟩, ⟨.keyword, "FROM"⟩, ⟨.identifier, "t"⟩,
        ⟨.keyword, "WHERE"⟩, ⟨.identifier, "b"⟩, ⟨.symbol, "="⟩, ⟨.literal, "x"⟩]
      [⟨.keyword, "SELECT"⟩, ⟨.identifier, "a"⟩, ⟨.keyword, "FROM"⟩, ⟨.identifier, "t"⟩,
        ⟨.keyword, "WHERE"⟩, ⟨.identifier, "b"⟩, ⟨.symbol, "="⟩, ⟨.literal, "x' LIMIT 1"⟩] :=
    Token.sameButLiterals_map (fun _ => "x' LIMIT 1") _
  refine ⟨hsame, ?_⟩
  rcases ofTokens_of_sameButLiterals hsame with ⟨template, htemplate, -, -, hright⟩ | ⟨_, _, ⟨⟩, -⟩
  rw [hright]
  obtain rfl := Except.ok.inj htemplate
  rfl

end CqlCompiler
