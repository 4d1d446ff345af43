import CqlCompiler.Proofs.Progress.Lexer

/-!
# Progress of the parser

No function of the parser goes back to an earlier token, and every loop moves
forward in each round that another one follows.  So reading a statement comes to
its end, whatever the tokens are.

There are three groups.

* Routines.  `IsRoutine` are the functions of the parser, and
  `IsRoutine.leavesEnd` says that none of them goes back.
* Loops.  `IsLoop` are the loops of the parser, each with its round, and
  `IsLoop.loop` says that they progress.
* Cursors.  `parser_progress` says the same of places in a token list, and
  `every_loop_progresses` is the result for lexer and parser.
-/

namespace CqlCompiler

open CqlCompiler.Parser

namespace TokenParser

/-! ## Routines -/

/-- The functions that read a statement off its tokens. -/
inductive IsRoutine : {α : Type} → TokenParser α → Prop where
  | current : IsRoutine peek?
  | eat (p : Token → Bool) : IsRoutine (skipIf p)
  | expect (kind : TokenKind) (text : Option String) : IsRoutine (expect kind text)
  | keyword (text : String) : IsRoutine (keyword text)
  | symbol (text : String) : IsRoutine (symbol text)
  | name : IsRoutine name
  | number : IsRoutine number
  | skipKeyword (text : String) : IsRoutine (skipKeyword text)
  | skipSymbol (text : String) : IsRoutine (skipSymbol text)
  | skipWord (text : String) : IsRoutine (skipWord text)
  | word (text : String) : IsRoutine (word text)
  | atKeyword (text : String) : IsRoutine (atKeyword text)
  | atSymbol (text : String) : IsRoutine (atSymbol text)
  | names : IsRoutine names
  | decimal : IsRoutine decimal?
  | value : IsRoutine value
  | defaultValue : IsRoutine defaultValue
  | columnClause : IsRoutine columnClause?
  | sizes : IsRoutine sizes
  | column : IsRoutine column
  | element : IsRoutine element
  | elements : IsRoutine elements
  | createTable : IsRoutine createTable
  | dropTable : IsRoutine dropTable
  | columnName : IsRoutine columnName
  | condition : IsRoutine condition
  | conditions : IsRoutine conditions
  | limit : IsRoutine limit?
  | direction : IsRoutine direction
  | order : IsRoutine order?
  | select : IsRoutine select
  | insert : IsRoutine insert
  | statement : IsRoutine statement
  | ending : IsRoutine ending
  | wholeStatement : IsRoutine wholeStatement
  | parenthesised {α : Type} {phrase : TokenParser α} (h : IsRoutine phrase) :
      IsRoutine (parenthesised phrase)

theorem leavesEnd_decimal? : LeavesEnd decimal? := by
  intro items result rest h
  by_cases hdecimal : AtDecimal items
  · obtain ⟨whole, fraction, tail⟩ := hdecimal
    cases h
    exact List.suffix_append [_, _, _] _
  · rw [decimal?_of_not_atDecimal hdecimal] at h
    cases h
    exact List.suffix_rfl

theorem leavesEnd_insert : LeavesEnd insert :=
  .of_within within_insert

theorem leavesEnd_statement : LeavesEnd statement := by
  intro items result rest h
  cases items with
  | nil => cases h
  | cons first tail =>
    by_cases hfirst : first ∈ Statement.beginnings
    · have hwithin := Statement.within_statement hfirst tail
      rw [h] at hwithin
      cases hwithin
      assumption
    · rw [Statement.statement_of_not_mem hfirst] at h
      cases h

theorem leavesEnd_ending : LeavesEnd ending :=
  .of_staysWithin fun _ => blames_ending

/-- No routine goes back. -/
theorem IsRoutine.leavesEnd {α : Type} {routine : TokenParser α} (h : IsRoutine routine) :
    LeavesEnd routine := by
  induction h with
  | current => exact leavesEnd_peek?
  | eat p => exact leavesEnd_skipIf p
  | expect kind text => exact .of_staysWithin fun _ => blames_expect kind text
  | keyword text => exact .of_staysWithin fun _ => blames_keyword text
  | symbol text => exact .of_staysWithin fun _ => blames_symbol text
  | name => exact .of_staysWithin fun _ => blames_name
  | number => exact .of_staysWithin fun _ => blames_number
  | skipKeyword text => exact leavesEnd_skipIf _
  | skipSymbol text => exact leavesEnd_skipIf _
  | skipWord text => exact leavesEnd_skipIf _
  | word text => exact .of_staysWithin fun _ => blames_word text
  | atKeyword text => exact .of_staysWithin fun _ => blames_atKeyword text
  | atSymbol text => exact .of_staysWithin fun _ => blames_atSymbol text
  | names => exact .of_staysWithin fun _ => blames_names
  | decimal => exact leavesEnd_decimal?
  | value => exact .of_staysWithin fun _ => blames_value
  | defaultValue => exact .of_staysWithin fun _ => blames_defaultValue
  | columnClause => exact .of_staysWithin fun _ => blames_columnClause?
  | sizes => exact .of_staysWithin fun _ => blames_sizes
  | column => exact .of_staysWithin fun _ => blames_column
  | element => exact .of_staysWithin fun _ => blames_element
  | elements => exact .of_staysWithin fun _ => blames_elements
  | createTable => exact .of_staysWithin fun _ => blames_createTable
  | dropTable => exact .of_staysWithin fun _ => blames_dropTable
  | columnName => exact .of_staysWithin fun _ => blames_columnName
  | condition => exact .of_staysWithin fun _ => blames_condition
  | conditions => exact .of_staysWithin fun _ => blames_conditions
  | limit => exact .of_staysWithin fun _ => blames_limit?
  | direction => exact .of_staysWithin fun _ => blames_direction
  | order => exact .of_staysWithin fun _ => blames_order?
  | select => exact .of_staysWithin fun _ => blames_select
  | insert => exact leavesEnd_insert
  | statement => exact leavesEnd_statement
  | ending => exact leavesEnd_ending
  | wholeStatement =>
    exact leavesEnd_statement.bind fun _ => leavesEnd_ending.bind fun _ => leavesEnd_pure _
  | parenthesised _ ih =>
    have hopen : LeavesEnd (TokenParser.symbol "(") := .of_staysWithin fun _ => blames_symbol "("
    have hclose : LeavesEnd (TokenParser.symbol ")") := .of_staysWithin fun _ => blames_symbol ")"
    exact hopen.bind fun _ => ih.bind fun _ => hclose.bind fun _ => leavesEnd_pure _

/-! ## Loops -/

/-- One round of the elements of a table, which goes on after a comma. -/
def elementRound : LoopRound Token CompileError (List TableElement) := fun parts => do
  if ← atSymbol ")" then
    return (parts, false)
  else
    let part ← element
    return (parts ++ [part], ← skipSymbol ",")

theorem elements_eq_bind :
    elements = (do
      if ← atSymbol ")" then
        return []
      else
        let first ← element
        if ← skipSymbol "," then (first :: ·) <$> elements else return [first]) := by
  have hothers : many nextElement = (do
      if ← skipSymbol "," then elements else return []) := by
    rw [many_eq_bind advances_nextElement]
    unfold nextElement
    rw [bind_assoc]
    refine bind_congr fun more => ?_
    cases more with
    | false => simp [afterRound]
    | true =>
      unfold elements
      simp only [reduceIte, bind_assoc]
      refine bind_congr fun closed => ?_
      cases closed <;> simp [afterRound]
  calc
    elements = (do
        if ← atSymbol ")" then
          return []
        else
          let first ← element
          (first :: ·) <$> many nextElement) := rfl
    _ = _ := by
      rw [hothers]
      refine bind_congr fun closed => ?_
      cases closed with
      | true => rfl
      | false =>
        simp only [Bool.false_eq_true, reduceIte, map_bind]
        refine bind_congr fun first => bind_congr fun more => ?_
        cases more <;> simp

theorem elementRound_progresses : Progresses elementRound := by
  intro parts items parts' rest h
  obtain ⟨closed, hat⟩ : ∃ closed, atSymbol ")" items = .ok (closed, items) := ⟨_, rfl⟩
  rw [elementRound, bind_of_ok hat] at h
  cases closed with
  | true => cases h
  | false =>
    simp only [Bool.false_eq_true, reduceIte, bind_eq_ok_iff, pure_eq_ok_iff,
      Prod.mk.injEq] at h
    obtain ⟨part, middle, hpart, more, _, hskip, ⟨-, rfl⟩, rfl⟩ := h
    exact (shorter_of_skipIf hskip).of_suffix (IsRoutine.element.leavesEnd _ _ _ hpart)

theorem collect_elements_unfolds : Unfolds elementRound (collect elements) := by
  intro parts
  calc
    collect elements parts = (do
        let closed ← atSymbol ")"
        (parts ++ ·) <$>
          if closed then pure []
          else do
            let first ← element
            if ← skipSymbol "," then (first :: ·) <$> elements else return [first]) := by
      conv => lhs; rw [collect, elements_eq_bind]
      simp only [map_bind]
    _ = elementRound parts >>= goOn (collect elements) := by
      unfold elementRound
      rw [bind_assoc]
      refine bind_congr fun closed => ?_
      cases closed with
      | true => simp [goOn]
      | false =>
        simp only [Bool.false_eq_true, reduceIte, bind_assoc, pure_bind, map_bind]
        refine bind_congr fun first => bind_congr fun more => ?_
        cases more <;> simp [goOn, collect]

theorem elements_loop : Loop elementRound (collect elements) :=
  .of_unfolds elementRound_progresses collect_elements_unfolds

/-- Looks for something unless there is one already. -/
def unlessFound {α : Type} (found : Option α) (parser : TokenParser (Option α)) :
    TokenParser (Option α) :=
  if found.isSome then return none else parser

/-- One round of the row count and the order of a query, which goes on after
each of them. -/
def optionRound : LoopRound Token CompileError (Option UInt64 × Option RowOrder) :=
  fun (limit, order) => do
    match ← unlessFound limit limit? with
    | some count => return ((some count, order), true)
    | none =>
      match ← unlessFound order order? with
      | some way => return ((limit, some way), true)
      | none => return ((limit, order), false)

/-- What is left to be found of the row count and the order. -/
def optionsAfter : Option UInt64 × Option RowOrder → TokenParser (Option UInt64 × Option RowOrder)
  | (none, none) => options
  | (some count, none) => return (some count, ← order?)
  | (none, some way) => return (← limit?, some way)
  | found => return found

/-- A parser that takes something where it finds it, and nothing elsewhere. -/
structure TakesWhatItFinds {α : Type} (parser : TokenParser (Option α)) : Prop where
  shorter : ∀ {items found rest}, parser items = .ok (some found, rest) → Shorter rest items
  stays : ∀ {items rest}, parser items = .ok (none, rest) → rest = items

theorem takesWhatItFinds_limit? : TakesWhatItFinds limit? where
  shorter {items count rest} h := by
    rcases limit?_sound h with ⟨hnone, -⟩ | ⟨found, phrase, -, hphrase, rfl⟩
    · cases hnone
    · cases hphrase
      exact shorter_cons (List.suffix_append [_] rest) _
  stays {items rest} h := by
    rcases limit?_sound h with ⟨-, hrest⟩ | ⟨found, phrase, hsome, -⟩
    · exact hrest
    · cases hsome

theorem takesWhatItFinds_order? : TakesWhatItFinds order? where
  shorter {items way rest} h := by
    rcases order?_sound h with ⟨hnone, -⟩ | ⟨found, phrase, -, hphrase, rfl⟩
    · cases hnone
    · cases hphrase
      exact shorter_cons (List.suffix_append (_ :: _) rest) _
  stays {items rest} h := by
    rcases order?_sound h with ⟨-, hrest⟩ | ⟨found, phrase, hsome, -⟩
    · exact hrest
    · cases hsome

theorem TakesWhatItFinds.unlessFound {α : Type} {parser : TokenParser (Option α)}
    (h : TakesWhatItFinds parser) (found : Option α) :
    TakesWhatItFinds (unlessFound found parser) := by
  cases found with
  | none => exact h
  | some found =>
    refine ⟨fun hrun => ?_, fun hrun => ?_⟩
    · cases hrun
    · cases hrun
      rfl

theorem optionRound_progresses : Progresses optionRound := by
  rintro ⟨limit, order⟩ items found rest h
  rw [optionRound, bind_eq_ok_iff] at h
  obtain ⟨_ | count, middle, hlimit, h⟩ := h
  · -- without a row count the order is looked for at the same place
    obtain rfl := (takesWhatItFinds_limit?.unlessFound limit).stays hlimit
    obtain ⟨_ | way, middle, horder, h⟩ := bind_eq_ok_iff.mp h
    · cases h
    · cases h
      exact (takesWhatItFinds_order?.unlessFound order).shorter horder
  · cases h
    exact (takesWhatItFinds_limit?.unlessFound limit).shorter hlimit

/-- If neither is there, it makes no difference that the row count is looked for
once more. -/
theorem options_eq : options = (do
    match ← limit? with
    | some count => return (some count, ← order?)
    | none =>
      match ← order? with
      | some way => return (← limit?, some way)
      | none => return (none, none)) := by
  funext items
  unfold options
  cases hcount : limit? items with
  | error cause => rw [bind_of_error hcount, bind_of_error hcount]
  | ok pair =>
    obtain ⟨_ | count, rest⟩ := pair
    · obtain rfl := takesWhatItFinds_limit?.stays hcount
      rw [bind_of_ok hcount, bind_of_ok hcount]
      dsimp only
      cases horder : order? rest with
      | error cause => rw [bind_of_error horder, bind_of_error horder]
      | ok pair =>
        obtain ⟨_ | way, rest'⟩ := pair
        · obtain rfl := takesWhatItFinds_order?.stays horder
          rw [bind_of_ok horder, bind_of_ok horder]
          exact bind_of_ok hcount
        · rw [bind_of_ok horder, bind_of_ok horder]
          rfl
    · rw [bind_of_ok hcount, bind_of_ok hcount]
      rfl

theorem optionsAfter_unfolds : Unfolds optionRound optionsAfter := by
  rintro ⟨_ | count, _ | way⟩
  · show options = _
    rw [options_eq, optionRound, bind_assoc]
    refine bind_congr fun count => ?_
    cases count with
    | some count => rfl
    | none =>
      show (order? >>= _) = (order? >>= _) >>= _
      rw [bind_assoc]
      refine bind_congr fun way => ?_
      cases way <;> rfl
  · show (limit? >>= _) = (limit? >>= _) >>= _
    rw [bind_assoc]
    refine bind_congr fun count => ?_
    cases count <;> rfl
  · have hround : optionRound (some count, none) = order? >>= fun
        | some way => pure ((some count, some way), true)
        | none => pure ((some count, none), false) := rfl
    rw [hround, bind_assoc]
    refine bind_congr fun way => ?_
    cases way <;> rfl
  · rfl

theorem options_loop : Loop optionRound optionsAfter :=
  .of_unfolds optionRound_progresses optionsAfter_unfolds

/-- The loops that read a statement off its tokens, each with its round. -/
inductive IsLoop : {σ : Type} → LoopRound Token CompileError σ → (σ → TokenParser σ) → Prop where
  | elements : IsLoop elementRound (collect elements)
  | clauses : IsLoop (whileRound columnClause?) (collect (many columnClause?))
  | sizes : IsLoop (itemRound number (skipSymbol ",")) (collect (sepBy1 number (skipSymbol ",")))
  | conditions : IsLoop (itemRound condition (skipKeyword "AND"))
      (collect (sepBy1 condition (skipKeyword "AND")))
  | options : IsLoop optionRound optionsAfter
  | names : IsLoop (whileRound (nextItem name (skipSymbol ",")))
      (collect (many (nextItem name (skipSymbol ","))))
  | columnNames : IsLoop (whileRound (nextItem columnName (skipSymbol ",")))
      (collect (many (nextItem columnName (skipSymbol ","))))
  | values : IsLoop (whileRound (nextItem value (skipSymbol ",")))
      (collect (many (nextItem value (skipSymbol ","))))

/-- A loop that takes an item after each separator. -/
theorem many_nextItem_loop {α : Type} {item : TokenParser α} (h : IsRoutine item)
    (p : Token → Bool) :
    Loop (whileRound (nextItem item (skipIf p))) (collect (many (nextItem item (skipIf p)))) :=
  many_loop (advances_nextItem h.leavesEnd) (leavesEnd_nextItem h.leavesEnd)

/-- Every loop takes something in each round that another one follows. -/
theorem IsLoop.loop {σ : Type} {round : LoopRound Token CompileError σ}
    {routine : σ → TokenParser σ} (h : IsLoop round routine) : Loop round routine := by
  cases h with
  | elements => exact elements_loop
  | clauses => exact many_loop advances_columnClause? IsRoutine.columnClause.leavesEnd
  | sizes => exact sepBy1_loop IsRoutine.number.leavesEnd
  | conditions => exact sepBy1_loop IsRoutine.condition.leavesEnd
  | options => exact options_loop
  | names => exact many_nextItem_loop .name _
  | columnNames => exact many_nextItem_loop .columnName _
  | values => exact many_nextItem_loop .value _

/-! ## Cursors -/

/-- An end of what follows a cursor follows a cursor that is no smaller. -/
theorem exists_cursor {tokens rest : List Token} {cursor : Nat} (hcursor : cursor ≤ tokens.length)
    (h : rest <:+ tokens.drop cursor) :
    ∃ next, cursor ≤ next ∧ next ≤ tokens.length ∧ rest = tokens.drop next ∧
      next + rest.length = tokens.length := by
  obtain ⟨taken, htaken⟩ := h
  have hlength := congrArg List.length htaken
  rw [List.length_append, List.length_drop] at hlength
  refine ⟨cursor + taken.length, by omega, by omega, ?_, by omega⟩
  rw [← List.drop_drop, ← htaken, List.drop_left]

/-- How the parser gets through its tokens.  A routine that fails ends the whole
reading, and no cursor is left then. -/
structure Progress (tokens : List Token) : Prop where
  /-- A routine leaves the cursor where it is or moves it forward, and not beyond
  the last token. -/
  routine : ∀ {α : Type} {routine : TokenParser α}, IsRoutine routine →
    ∀ {cursor result rest}, cursor ≤ tokens.length →
      routine (tokens.drop cursor) = .ok (result, rest) →
      ∃ next, cursor ≤ next ∧ next ≤ tokens.length ∧ rest = tokens.drop next
  /-- Each round that another one follows moves the cursor forward. -/
  round : ∀ {σ : Type} {round : LoopRound Token CompileError σ} {routine : σ → TokenParser σ},
    IsLoop round routine → ∀ {cursor state state' rest}, cursor ≤ tokens.length →
      round state (tokens.drop cursor) = .ok ((state', true), rest) →
      ∃ next, cursor < next ∧ next ≤ tokens.length ∧ rest = tokens.drop next
  /-- Every loop comes to its end, wherever it starts. -/
  run : ∀ {σ : Type} {round : LoopRound Token CompileError σ} {routine : σ → TokenParser σ},
    IsLoop round routine → ∀ state cursor,
      LoopRun round state (tokens.drop cursor) (routine state (tokens.drop cursor))

theorem parser_progress (tokens : List Token) : Progress tokens := by
  constructor
  case routine =>
    intro α routine hroutine cursor result rest hcursor hrun
    obtain ⟨next, hle, hbound, hrest, -⟩ :=
      exists_cursor hcursor (hroutine.leavesEnd _ _ _ hrun)
    exact ⟨next, hle, hbound, hrest⟩
  case round =>
    intro σ round routine hloop cursor state state' rest hcursor hround
    obtain ⟨hsuffix, hlength⟩ := hloop.loop.progresses _ _ _ _ hround
    obtain ⟨next, hle, hbound, hrest, hnext⟩ := exists_cursor hcursor hsuffix
    rw [List.length_drop] at hlength
    exact ⟨next, by omega, hbound, hrest⟩
  case run =>
    intro σ round routine hloop state cursor
    exact hloop.loop.run state _

end TokenParser

/-- Every loop of the lexer and of the parser takes something in each round that
another one follows, and so it comes to its end, whatever the text or the tokens
are. -/
theorem every_loop_progresses :
    (∀ sql, Token.Progress sql) ∧ ∀ tokens, TokenParser.Progress tokens :=
  ⟨Token.lexer_progress, TokenParser.parser_progress⟩

end CqlCompiler
