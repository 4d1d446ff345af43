import CqlCompiler.Proofs.Unambiguity
import Mathlib

/-!
# Placeholders keep their number and their places

Values are bound to placeholders by position, so the placeholders of the CQL
text have to be those of the SQL text, in the same order.  A question mark in
quotes is not a placeholder, on either side.

The value that a placeholder stands for is known by its index among the values
of the statement.  `SpellsBefore` and `WrittenBefore` say what stands before the
value at an index, in tokens and in CQL text; a placeholder is known by the
number of placeholders before it.

There are three groups.

* Counting.  `Counts` says how many placeholders the tokens of a phrase have,
  `ShowsPlaceholders` how many a text has outside quotes.
* Lists.  A list is cut before one of its items, `Separated.exists_split` among
  the tokens and `intercalate_append_cons` in the text.
* Statements.  `exists_placeholders` finds each placeholder on both sides, and
  `compile_placeholders` is the result.
-/

namespace CqlCompiler

open CqlCompiler.Parser CqlCompiler.Cql

/-! ## Counting -/

/-- The token of a placeholder. -/
def Token.placeholder : Token :=
  ⟨.symbol, "?"⟩

/-- How many placeholders the value is. -/
def Value.placeholders : Value → Nat
  | .placeholder => 1
  | _ => 0

theorem Value.placeholders_le (value : Value) : value.placeholders ≤ 1 := by
  cases value <;> simp [placeholders]

theorem Value.placeholders_eq_one_iff {value : Value} :
    value.placeholders = 1 ↔ value = .placeholder := by
  cases value <;> simp [placeholders]

def Condition.placeholders (condition : Condition) : Nat :=
  condition.value.placeholders

def Select.placeholders (query : Select) : Nat :=
  (query.conditions.map Condition.placeholders).sum

def Insert.placeholders (row : Insert) : Nat :=
  (row.values.map Value.placeholders).sum

/-- A phrase has as many placeholders as its result. -/
def Counts {α : Type} (Spells : List Token → α → Prop) (size : α → Nat) : Prop :=
  ∀ phrase result, Spells phrase result → phrase.count .placeholder = size result

section Counts

variable {α : Type} {Spells : List Token → α → Prop} {size : α → Nat} {mark : Token}

theorem Counts.repeated (h : Counts Spells size) :
    Counts (Repeated Spells) fun results => (results.map size).sum := by
  intro phrases results hspells
  induction hspells with
  | nil => rfl
  | cons hphrase _ ih => rw [List.count_append, h _ _ hphrase, ih]; rfl

theorem Counts.marked (h : Counts Spells size) (hmark : mark ≠ .placeholder) :
    Counts (Marked mark Spells) size := by
  intro phrase result hspells
  obtain ⟨hphrase⟩ := hspells
  rw [List.count_cons_of_ne hmark, h _ _ hphrase]

theorem Counts.separated (h : Counts Spells size) (hmark : mark ≠ .placeholder) :
    Counts (Separated mark Spells) fun results => (results.map size).sum := by
  intro phrase results hspells
  obtain ⟨hphrase, hothers⟩ := hspells
  rw [List.count_append, h _ _ hphrase, (h.marked hmark).repeated _ _ hothers]
  rfl

theorem Counts.followed (h : Counts Spells size) (hmark : mark ≠ .placeholder) :
    Counts (Followed mark Spells) size := by
  intro phrase result hspells
  obtain ⟨hphrase⟩ := hspells
  rw [List.count_append, h _ _ hphrase, List.count_singleton, if_neg (by simpa using hmark)]
  rfl

end Counts

theorem counts_name : Counts SpellsName fun _ => 0 := by
  intro phrase name hspells
  obtain ⟨⟩ := hspells
  rfl

theorem counts_columnName : Counts SpellsColumnName fun _ => 0 := by
  intro phrase name hspells
  obtain ⟨⟩ := hspells
  rfl

theorem counts_value : Counts SpellsValue Value.placeholders := by
  intro phrase value hspells
  cases hspells <;> rfl

theorem counts_condition : Counts SpellsCondition Condition.placeholders := by
  intro phrase condition hspells
  obtain ⟨hcolumn, hvalue⟩ := hspells
  rw [List.count_append, counts_columnName _ _ hcolumn, Nat.zero_add,
    List.count_cons_of_ne (by decide), counts_value _ _ hvalue]
  rfl

theorem counts_conditions : Counts SpellsConditions
    fun conditions => (conditions.map Condition.placeholders).sum := by
  intro phrase conditions hspells
  cases hspells with
  | absent => rfl
  | present hconditions =>
    rw [List.count_cons_of_ne (by decide)]
    exact counts_condition.separated (by decide) _ _ hconditions

theorem counts_limit : Counts SpellsLimit fun _ => 0 := by
  intro phrase count hspells
  obtain ⟨-⟩ := hspells
  rfl

theorem Token.ne_placeholder_of_isWord {token : Token} {word : String}
    (h : token.isWord word = true) : token ≠ .placeholder := by
  rintro rfl
  exact Bool.false_ne_true h

theorem counts_direction : Counts SpellsDirection fun _ => 0 := by
  intro phrase direction hspells
  cases hspells with
  | unsaid => rfl
  | ascending hword => rw [List.count_cons_of_ne (Token.ne_placeholder_of_isWord hword)]; rfl
  | descending hword => rw [List.count_cons_of_ne (Token.ne_placeholder_of_isWord hword)]; rfl

theorem counts_order : Counts SpellsOrder fun _ => 0 := by
  intro phrase order hspells
  obtain ⟨hcolumn, hdirection⟩ := hspells
  rw [List.count_cons_of_ne (by decide), List.count_cons_of_ne (by decide), List.count_append,
    counts_columnName _ _ hcolumn, counts_direction _ _ hdirection]
  rfl

theorem SpellsOptions.count_placeholder {phrase : List Token} {limit : Option UInt64}
    {order : Option RowOrder} (h : SpellsOptions phrase limit order) :
    phrase.count .placeholder = 0 := by
  cases h with
  | none => rfl
  | limit hlimit => exact counts_limit _ _ hlimit
  | order horder => exact counts_order _ _ horder
  | limitOrder hlimit horder =>
    rw [List.count_append, counts_limit _ _ hlimit, counts_order _ _ horder]
    rfl
  | orderLimit horder hlimit =>
    rw [List.count_append, counts_order _ _ horder, counts_limit _ _ hlimit]
    rfl

theorem Counts.parenthesised {α : Type} {Spells : List Token → α → Prop} {size : α → Nat}
    (h : Counts Spells size) : Counts (Parenthesised Spells) size := by
  intro phrase result hspells
  obtain ⟨hphrase⟩ := hspells
  rw [List.count_cons_of_ne (by decide), List.count_append, h _ _ hphrase]
  rfl

/-- A list of names has no placeholder. -/
theorem Counts.commaSeparated_zero {α : Type} {Spells : List Token → α → Prop}
    (h : Counts Spells fun _ => 0) : Counts (CommaSeparated Spells) fun _ => 0 := by
  intro phrase results hspells
  have hsum := h.separated (by decide) _ _ hspells
  dsimp only at hsum
  rw [List.map_const', List.sum_replicate_nat] at hsum
  exact hsum

theorem counts_select : Counts SpellsSelect Select.placeholders := by
  intro phrase query hspells
  obtain ⟨table, hnames, hconditions, hoptions⟩ := hspells
  rw [List.count_cons_of_ne (by decide), List.count_append,
    counts_columnName.commaSeparated_zero _ _ hnames, List.count_cons_of_ne (by decide),
    List.count_cons_of_ne (by simp [Token.placeholder]), List.count_append,
    counts_conditions _ _ hconditions, hoptions.count_placeholder]
  simp [Select.placeholders]

theorem counts_insert : Counts SpellsInsert Insert.placeholders := by
  intro phrase row hspells
  obtain ⟨table, hcolumns, hvalues, -⟩ := hspells
  rw [List.count_cons_of_ne (by decide), List.count_cons_of_ne (by decide),
    List.count_cons_of_ne (by simp [Token.placeholder]), List.count_append,
    counts_name.commaSeparated_zero.parenthesised _ _ hcolumns, List.count_cons_of_ne (by decide),
    (counts_value.separated (by decide)).parenthesised _ _ hvalues]
  simp [Insert.placeholders]

/-- The text ends outside quotes, and so many placeholders are met there. -/
structure ShowsPlaceholders (text : List Char) (number : Nat) : Prop where
  closed : Region.outside.after text = .outside
  count : (Region.outside.exposed text).count '?' = number

theorem ShowsPlaceholders.append {left right : List Char} {m n : Nat}
    (hleft : ShowsPlaceholders left m) (hright : ShowsPlaceholders right n) :
    ShowsPlaceholders (left ++ right) (m + n) := by
  constructor
  · rw [Region.after_append, hleft.closed, hright.closed]
  · rw [Region.exposed_append, List.count_append, hleft.closed, hleft.count, hright.count]

theorem showsPlaceholders_of_harmless {text : List Char} (h : Harmless ['?'] text) :
    ShowsPlaceholders text 0 := by
  refine ⟨h.closed, List.count_eq_zero.mpr fun hmem => ?_⟩
  exact h.hidden '?' hmem (List.mem_singleton.mpr rfl)

theorem showsPlaceholders_of_plain {text : List Char} (h : Plain ['?'] text) :
    ShowsPlaceholders text 0 :=
  showsPlaceholders_of_harmless h.harmless

theorem showsPlaceholders_of_isWordChar {text : List Char}
    (h : ∀ c ∈ text, Token.isWordChar c = true) : ShowsPlaceholders text 0 :=
  showsPlaceholders_of_plain (plain_of_forall_isWordChar (by decide) h)

theorem showsPlaceholders_flatMap {α : Type} {write : α → List Char} {size : α → Nat}
    {items : List α} (h : ∀ item ∈ items, ShowsPlaceholders (write item) (size item)) :
    ShowsPlaceholders (items.flatMap write) (items.map size).sum := by
  induction items with
  | nil => exact ⟨rfl, rfl⟩
  | cons item items ih =>
    obtain ⟨hitem, hitems⟩ := List.forall_mem_cons.mp h
    rw [List.flatMap_cons, List.map_cons, List.sum_cons]
    exact hitem.append (ih hitems)

/-- A question mark in a string is in quotes. -/
theorem Value.WellShaped.showsPlaceholders {value : Value} (h : value.WellShaped) :
    ShowsPlaceholders value.toCql.toList value.placeholders := by
  by_cases hplaceholder : value = .placeholder
  · rw [hplaceholder]
    exact ⟨by decide, by decide⟩
  have hnone : value.placeholders = 0 := by
    have hle := value.placeholders_le
    have hne := mt placeholders_eq_one_iff.mp hplaceholder
    omega
  rw [hnone]
  rcases value.string_or_not with ⟨text, rfl⟩ | hstring
  · have hquote : Region.opened? '\'' = some .single := rfl
    exact showsPlaceholders_of_harmless (harmless_enclosed hquote (by decide) text)
  · exact showsPlaceholders_of_isWordChar (h.isWordChar hstring hplaceholder)

theorem Condition.WellShaped.showsPlaceholders {condition : Condition} (h : condition.WellShaped) :
    ShowsPlaceholders condition.toCql.toList condition.placeholders := by
  have hcolumn := showsPlaceholders_of_isWordChar h.column.chars
  have hequals : ShowsPlaceholders " = ".toList 0 := showsPlaceholders_of_plain (by decide)
  have htext := (hcolumn.append hequals).append h.value.showsPlaceholders
  rw [Nat.zero_add] at htext
  rw [Condition.toCql, String.toList_append, String.toList_append]
  exact htext

/-! ## Lists -/

/-- The item with a given number before it. -/
theorem exists_split_of_lt_sum {α : Type} {size : α → Nat} (hsize : ∀ item, size item ≤ 1)
    {items : List α} {k : Nat} (hk : k < (items.map size).sum) :
    ∃ earlier item later, items = earlier ++ item :: later ∧ size item = 1 ∧
      (earlier.map size).sum = k := by
  induction items generalizing k with
  | nil => simp at hk
  | cons first items ih =>
    rw [List.map_cons, List.sum_cons] at hk
    have hfirst := hsize first
    by_cases hhere : size first = 1 ∧ k = 0
    · exact ⟨[], first, items, rfl, hhere.1, hhere.2.symm⟩
    · have hlater : k - size first < (items.map size).sum := by omega
      obtain ⟨earlier, item, later, rfl, hitem, hsum⟩ := ih hlater
      refine ⟨first :: earlier, item, later, rfl, hitem, ?_⟩
      rw [List.map_cons, List.sum_cons, hsum]
      omega

theorem Parser.Separated.exists_of_cons {τ α : Type} {mark : τ} {Spells : List τ → α → Prop}
    {phrase : List τ} {first : α} {results : List α}
    (h : Separated mark Spells phrase (first :: results)) (hne : results ≠ []) :
    ∃ front others, phrase = front ++ mark :: others ∧ Spells front first ∧
      Separated mark Spells others results := by
  obtain ⟨hfirst, hothers⟩ := h
  cases hothers with
  | nil => exact absurd rfl hne
  | cons hsecond hothers =>
    obtain ⟨hsecond⟩ := hsecond
    exact ⟨_, _, rfl, hfirst, .intro hsecond hothers⟩

/-- A list is what stands before an item, the item and what stands after it. -/
theorem Parser.Separated.exists_split {α : Type} {mark : Token} {Spells : List Token → α → Prop}
    {phrase : List Token} {earlier later : List α} {item : α}
    (h : Separated mark Spells phrase (earlier ++ item :: later)) :
    ∃ front middle back, phrase = front ++ (middle ++ back) ∧
      Repeated (Followed mark Spells) front earlier ∧ Spells middle item := by
  induction earlier generalizing phrase with
  | nil =>
    obtain ⟨hphrase, hothers⟩ := h
    exact ⟨[], _, _, rfl, .nil, hphrase⟩
  | cons first earlier ih =>
    obtain ⟨begins, others, rfl, hfirst, hothers⟩ := h.exists_of_cons (by simp)
    obtain ⟨front, middle, back, rfl, hfront, hmiddle⟩ := ih hothers
    exact ⟨(begins ++ [mark]) ++ front, middle, back, by simp, .cons (.intro hfirst) hfront,
      hmiddle⟩

theorem intercalate_append_cons (separator item : List Char) (earlier later : List (List Char)) :
    separator.intercalate (earlier ++ item :: later) =
      earlier.flatMap (· ++ separator) ++ (item ++ later.flatMap (separator ++ ·)) := by
  induction earlier with
  | nil => exact intercalate_cons_eq separator item later
  | cons first earlier ih =>
    have hne : earlier ++ item :: later ≠ [] := by simp
    rw [List.cons_append, List.intercalate_cons_of_ne_nil hne, ih, List.flatMap_cons]
    simp only [List.append_assoc]

theorem showsPlaceholders_intercalate {α : Type} {write : α → List Char} {size : α → Nat}
    {separator : List Char} {items : List α}
    (hshows : ∀ item ∈ items, ShowsPlaceholders (write item) (size item))
    (hseparator : ShowsPlaceholders separator 0) :
    ShowsPlaceholders (separator.intercalate (items.map write)) (items.map size).sum := by
  cases items with
  | nil => exact ⟨rfl, rfl⟩
  | cons first items =>
    obtain ⟨hfirst, hothers⟩ := List.forall_mem_cons.mp hshows
    rw [List.map_cons, intercalate_cons_eq, List.flatMap_map, List.map_cons, List.sum_cons]
    refine hfirst.append (showsPlaceholders_flatMap fun item hitem => ?_)
    have hitem := hseparator.append (hothers item hitem)
    rwa [Nat.zero_add] at hitem

/-! ## Statements -/

/-- The value at an index: the right side of a condition, or the value of a
column of a row. -/
def Statement.value? : Statement → Nat → Option Value
  | .select query, i => query.conditions[i]?.map (·.value)
  | .insert row, i => row.values[i]?
  | .createTable _, _ => none
  | .dropTable _, _ => none

/-- The tokens spell all that stands before the value at an index. -/
inductive SpellsBefore : List Token → Statement → Nat → Prop where
  | select {query : Select} {projected front left : List Token} {names : List String}
      {earlier later : List Condition} {condition : Condition}
      (hnames : CommaSeparated SpellsColumnName projected names)
      (hprojection : query.projection = .ofNames names)
      (hconditions : query.conditions = earlier ++ condition :: later)
      (hearlier : Repeated (Followed ⟨.keyword, "AND"⟩ SpellsCondition) front earlier)
      (hcolumn : SpellsColumnName left condition.column) :
      SpellsBefore
        (⟨.keyword, "SELECT"⟩ :: (projected ++ ⟨.keyword, "FROM"⟩ :: ⟨.identifier, query.table⟩ ::
          ⟨.keyword, "WHERE"⟩ :: (front ++ (left ++ [⟨.symbol, "="⟩]))))
        (.select query) earlier.length
  | insert {row : Insert} {left front : List Token} {earlier later : List Value} {value : Value}
      (hcolumns : Parenthesised (CommaSeparated SpellsName) left row.columns)
      (hvalues : row.values = earlier ++ value :: later)
      (hearlier : Repeated (Followed ⟨.symbol, ","⟩ SpellsValue) front earlier) :
      SpellsBefore
        (⟨.keyword, "INSERT"⟩ :: ⟨.keyword, "INTO"⟩ :: ⟨.identifier, row.table⟩ ::
          (left ++ ⟨.keyword, "VALUES"⟩ :: ⟨.symbol, "("⟩ :: front))
        (.insert row) earlier.length

/-- The CQL text is all that stands before the value at an index. -/
inductive WrittenBefore : List Char → Statement → Nat → Prop where
  | select {query : Select} {earlier later : List Condition} {condition : Condition}
      (hconditions : query.conditions = earlier ++ condition :: later) :
      WrittenBefore
        ("SELECT ".toList ++ query.projection.toCql.toList ++ " FROM ".toList ++
          query.table.toList ++ " WHERE ".toList ++
          earlier.flatMap (fun condition => condition.toCql.toList ++ " AND ".toList) ++
          condition.column.toList ++ " = ".toList)
        (.select query) earlier.length
  | insert {row : Insert} {earlier later : List Value} {value : Value}
      (hvalues : row.values = earlier ++ value :: later) :
      WrittenBefore
        ("INSERT INTO ".toList ++ row.table.toList ++ " (".toList ++
          (commaSeparated row.columns).toList ++ ") VALUES (".toList ++
          earlier.flatMap (fun value => value.toCql.toList ++ ", ".toList))
        (.insert row) earlier.length

/-- A placeholder stands after these tokens, and so many of them before. -/
structure Token.PlaceholderAfter (tokens before : List Token) (k : Nat) : Prop where
  next : before ++ [.placeholder] <+: tokens
  count : before.count .placeholder = k

/-- A question mark stands outside quotes after this text, and so many of them
before. -/
structure Cql.PlaceholderAfter (text before : List Char) (k : Nat) : Prop where
  next : before ++ ['?'] <+: text
  shows : ShowsPlaceholders before k

/-- The value that stands after the tokens and the one that stands after the
text are the same placeholder of the statement. -/
def SameValue (statement : Statement) (before : List Token) (before' : List Char) : Prop :=
  ∃ i, statement.value? i = some .placeholder ∧ SpellsBefore before statement i ∧
    WrittenBefore before' statement i

/-- The placeholders with the same number before them. -/
def ExistsPlace (tokens : List Token) (text : List Char) (statement : Statement) (k : Nat) : Prop :=
  ∃ before before', Token.PlaceholderAfter tokens before k ∧ Cql.PlaceholderAfter text before' k ∧
    SameValue statement before before'

theorem showsPlaceholders_commaSeparated {names : List String}
    (h : ∀ name ∈ names, ∀ c ∈ name.toList, Token.isWordChar c = true) :
    ShowsPlaceholders (commaSeparated names).toList 0 := by
  rw [commaSeparated, String.toList_intercalate]
  refine showsPlaceholders_of_plain (Plain.intercalate (by decide) ?_)
  intro text htext
  obtain ⟨name, hname, rfl⟩ := List.mem_map.mp htext
  exact plain_of_forall_isWordChar (by decide) (h name hname)

/-! ### Queries -/

theorem Select.WellShaped.showsPlaceholders_projection {query : Select} (h : query.WellShaped) :
    ShowsPlaceholders query.projection.toCql.toList 0 := by
  cases hprojection : query.projection with
  | all => exact showsPlaceholders_of_plain (by decide)
  | columns names =>
    exact showsPlaceholders_commaSeparated fun name hname =>
      (h.projection names hprojection name hname).chars

theorem showsPlaceholders_limitClause (query : Select) :
    ShowsPlaceholders query.limitClause.toList 0 := by
  unfold Select.limitClause
  split
  · exact showsPlaceholders_of_plain (by decide)
  · rename_i count _
    rw [String.toList_append]
    exact (showsPlaceholders_of_plain (by decide)).append
      (showsPlaceholders_of_isWordChar (isDigits_ofNat count.toNat).isWordChar)

theorem Select.toList_whereClause {query : Select} (h : query.conditions ≠ []) :
    query.whereClause.toList = " WHERE ".toList ++ " AND ".toList.intercalate
      (query.conditions.map fun condition => condition.toCql.toList) := by
  rw [whereClause, if_neg (by simpa using h), String.toList_append, toList_intercalate_map]

theorem showsPlaceholders_and : ShowsPlaceholders " AND ".toList 0 :=
  showsPlaceholders_of_plain (by decide)

theorem Select.WellShaped.showsPlaceholders_whereClause {query : Select} (h : query.WellShaped) :
    ShowsPlaceholders query.whereClause.toList query.placeholders := by
  by_cases hnone : query.conditions = []
  · rw [whereClause, Select.placeholders, hnone]
    exact ⟨rfl, rfl⟩
  · rw [toList_whereClause hnone, ← Nat.zero_add query.placeholders]
    have hconditions := showsPlaceholders_intercalate
      (fun condition hcondition => (h.conditions condition hcondition).showsPlaceholders)
      showsPlaceholders_and
    exact (showsPlaceholders_of_plain (by decide)).append hconditions

/-- What stands before the conditions of a query. -/
theorem Select.WellShaped.showsPlaceholders_front {query : Select} (h : query.WellShaped) :
    ShowsPlaceholders ("SELECT ".toList ++ query.projection.toCql.toList ++ " FROM ".toList ++
      query.table.toList) 0 := by
  have hselect : ShowsPlaceholders "SELECT ".toList 0 := showsPlaceholders_of_plain (by decide)
  have hfrom : ShowsPlaceholders " FROM ".toList 0 := showsPlaceholders_of_plain (by decide)
  have htable := showsPlaceholders_of_isWordChar h.table.chars
  exact ((hselect.append h.showsPlaceholders_projection).append hfrom).append htable

theorem Select.WellShaped.showsPlaceholders {query : Select} (h : query.WellShaped) :
    ShowsPlaceholders query.toCql.toList query.placeholders := by
  have hend : ShowsPlaceholders ";".toList 0 := showsPlaceholders_of_plain (by decide)
  have htext := ((h.showsPlaceholders_front.append h.showsPlaceholders_whereClause).append
    (showsPlaceholders_limitClause query)).append hend
  rw [Nat.zero_add] at htext
  have hparts : query.toCql.toList = _ := toList_seven_parts ..
  rw [hparts]
  exact htext

/-- The last token of a condition on a placeholder is its placeholder. -/
theorem SpellsCondition.exists_left {phrase : List Token} {condition : Condition}
    (h : SpellsCondition phrase condition) (hvalue : condition.value = .placeholder) :
    ∃ left, SpellsColumnName left condition.column ∧
      phrase = left ++ [⟨.symbol, "="⟩, .placeholder] := by
  obtain ⟨hcolumn, hright⟩ := h
  dsimp only at hvalue
  subst hvalue
  obtain ⟨⟩ := hright
  exact ⟨_, hcolumn, rfl⟩

theorem Condition.toList_toCql {condition : Condition} (h : condition.value = .placeholder) :
    condition.toCql.toList = condition.column.toList ++ (" = ".toList ++ ['?']) := by
  rw [Condition.toCql, h, String.toList_append, String.toList_append, List.append_assoc]
  rfl

theorem Select.exists_spellsBefore {phrase : List Token} {query : Select}
    {earlier later : List Condition} {condition : Condition} (hspells : SpellsSelect phrase query)
    (hsplit : query.conditions = earlier ++ condition :: later)
    (hvalue : condition.value = .placeholder) :
    ∃ before, Token.PlaceholderAfter phrase before (earlier.map Condition.placeholders).sum ∧
      SpellsBefore before (.select query) earlier.length := by
  obtain @⟨projected, filters, options, names, conditions, limit, order, table, hnames,
    hconditions, hoptions⟩ := hspells
  dsimp only at hsplit
  cases hconditions with
  | absent => simp at hsplit
  | present hconditions =>
    rw [hsplit] at hconditions
    obtain ⟨front, middle, back, rfl, hfront, hmiddle⟩ := hconditions.exists_split
    obtain ⟨left, hcolumn, rfl⟩ := hmiddle.exists_left hvalue
    refine ⟨_, ⟨⟨back ++ options, ?_⟩, ?_⟩, .select hnames rfl hsplit hfront hcolumn⟩
    · simp
    · have hbefore := (counts_condition.followed (by decide)).repeated _ _ hfront
      rw [List.count_cons_of_ne (by decide), List.count_append,
        counts_columnName.commaSeparated_zero _ _ hnames, List.count_cons_of_ne (by decide),
        List.count_cons_of_ne (by simp [Token.placeholder]), List.count_cons_of_ne (by decide),
        List.count_append, List.count_append, hbefore, counts_columnName _ _ hcolumn]
      simp [Token.placeholder]

theorem Select.WellShaped.exists_writtenBefore {query : Select} {earlier later : List Condition}
    {condition : Condition} (h : query.WellShaped)
    (hsplit : query.conditions = earlier ++ condition :: later)
    (hvalue : condition.value = .placeholder) :
    ∃ before, Cql.PlaceholderAfter query.toCql.toList before
        (earlier.map Condition.placeholders).sum ∧
      WrittenBefore before (.select query) earlier.length := by
  have hparts : query.toCql.toList = _ := toList_seven_parts ..
  have hwhere := query.toList_whereClause (by simp [hsplit])
  have hconditions := h.conditions
  rw [hsplit] at hwhere hconditions
  rw [List.map_append, List.map_cons, intercalate_append_cons, List.flatMap_map,
    Condition.toList_toCql hvalue] at hwhere
  refine ⟨_, ⟨?_, ?_⟩, .select hsplit⟩
  · rw [hparts, hwhere]
    simp only [List.append_assoc, List.prefix_append_right_inj]
    exact List.prefix_append _ _
  · have hword : ShowsPlaceholders " WHERE ".toList 0 := showsPlaceholders_of_plain (by decide)
    have hequals : ShowsPlaceholders " = ".toList 0 := showsPlaceholders_of_plain (by decide)
    have hearlier := showsPlaceholders_flatMap fun condition (hcondition : condition ∈ earlier) =>
      (hconditions condition (by simp [hcondition])).showsPlaceholders.append showsPlaceholders_and
    have hcolumn := showsPlaceholders_of_isWordChar
      (hconditions condition (by simp)).column.chars
    have htext := (((h.showsPlaceholders_front.append hword).append hearlier).append
      hcolumn).append hequals
    rw [Nat.zero_add] at htext
    exact htext

theorem Select.existsPlace {phrase : List Token} {query : Select}
    (hspells : SpellsSelect phrase query) (hshaped : query.WellShaped) {k : Nat}
    (hk : k < query.placeholders) :
    ExistsPlace phrase query.toCql.toList (.select query) k := by
  obtain ⟨earlier, condition, later, hsplit, hone, rfl⟩ :=
    exists_split_of_lt_sum (fun condition => condition.value.placeholders_le) hk
  have hvalue := Value.placeholders_eq_one_iff.mp hone
  obtain ⟨before, hafter, hbefore⟩ := exists_spellsBefore hspells hsplit hvalue
  obtain ⟨before', hafter', hbefore'⟩ := hshaped.exists_writtenBefore hsplit hvalue
  refine ⟨before, before', hafter, hafter', earlier.length, ?_, hbefore, hbefore'⟩
  rw [Statement.value?, hsplit, List.getElem?_append_right (Nat.le_refl _), Nat.sub_self]
  exact congrArg some hvalue

/-! ### Rows -/

theorem showsPlaceholders_comma : ShowsPlaceholders ", ".toList 0 :=
  showsPlaceholders_of_plain (by decide)

/-- What stands before the values of a row. -/
theorem Insert.WellShaped.showsPlaceholders_front {row : Insert} (h : row.WellShaped) :
    ShowsPlaceholders ("INSERT INTO ".toList ++ row.table.toList ++ " (".toList ++
      (commaSeparated row.columns).toList ++ ") VALUES (".toList) 0 := by
  have hinsert : ShowsPlaceholders "INSERT INTO ".toList 0 :=
    showsPlaceholders_of_plain (by decide)
  have hopen : ShowsPlaceholders " (".toList 0 := showsPlaceholders_of_plain (by decide)
  have hbetween : ShowsPlaceholders ") VALUES (".toList 0 :=
    showsPlaceholders_of_plain (by decide)
  have htable := showsPlaceholders_of_isWordChar h.table.chars
  have hcolumns := showsPlaceholders_commaSeparated fun name hname => (h.columns name hname).chars
  exact (((hinsert.append htable).append hopen).append hcolumns).append hbetween

theorem Insert.toList_toCql (row : Insert) :
    row.toCql.toList = "INSERT INTO ".toList ++ row.table.toList ++ " (".toList ++
      (commaSeparated row.columns).toList ++ ") VALUES (".toList ++
      ", ".toList.intercalate (row.values.map fun value => value.toCql.toList) ++ ");".toList := by
  have hparts : row.toCql.toList = _ := toList_seven_parts ..
  have hvalues : (commaSeparated (row.values.map Value.toCql)).toList = _ :=
    toList_intercalate_map ..
  rw [hparts, hvalues]

theorem Insert.WellShaped.showsPlaceholders {row : Insert} (h : row.WellShaped) :
    ShowsPlaceholders row.toCql.toList row.placeholders := by
  have hend : ShowsPlaceholders ");".toList 0 := showsPlaceholders_of_plain (by decide)
  have hvalues := showsPlaceholders_intercalate
    (fun value hvalue => (h.values value hvalue).showsPlaceholders) showsPlaceholders_comma
  have htext := (h.showsPlaceholders_front.append hvalues).append hend
  rw [Nat.zero_add] at htext
  rw [toList_toCql]
  exact htext

theorem Insert.exists_spellsBefore {phrase : List Token} {row : Insert}
    {earlier later : List Value} (hspells : SpellsInsert phrase row)
    (hsplit : row.values = earlier ++ .placeholder :: later) :
    ∃ before, Token.PlaceholderAfter phrase before (earlier.map Value.placeholders).sum ∧
      SpellsBefore before (.insert row) earlier.length := by
  obtain ⟨table, hcolumns, ⟨hvalues⟩, -⟩ := hspells
  dsimp only at hsplit
  rw [hsplit] at hvalues
  obtain ⟨front, middle, back, rfl, hfront, ⟨⟩⟩ := hvalues.exists_split
  refine ⟨_, ⟨⟨back ++ [⟨.symbol, ")"⟩], ?_⟩, ?_⟩, .insert hcolumns hsplit hfront⟩
  · simp [Token.placeholder]
  · have hbefore := (counts_value.followed (by decide)).repeated _ _ hfront
    rw [List.count_cons_of_ne (by decide), List.count_cons_of_ne (by decide),
      List.count_cons_of_ne (by simp [Token.placeholder]), List.count_append,
      counts_name.commaSeparated_zero.parenthesised _ _ hcolumns,
      List.count_cons_of_ne (by decide), List.count_cons_of_ne (by decide), hbefore, Nat.zero_add]

theorem Insert.WellShaped.exists_writtenBefore {row : Insert} {earlier later : List Value}
    (h : row.WellShaped) (hsplit : row.values = earlier ++ .placeholder :: later) :
    ∃ before, Cql.PlaceholderAfter row.toCql.toList before (earlier.map Value.placeholders).sum ∧
      WrittenBefore before (.insert row) earlier.length := by
  have hvalues := h.values
  rw [hsplit] at hvalues
  refine ⟨_, ⟨?_, ?_⟩, .insert hsplit⟩
  · rw [toList_toCql, hsplit, List.map_append, List.map_cons, intercalate_append_cons,
      List.flatMap_map]
    simp only [List.append_assoc, List.prefix_append_right_inj]
    exact List.prefix_append _ _
  · have hearlier := showsPlaceholders_flatMap fun value (hvalue : value ∈ earlier) =>
      (hvalues value (by simp [hvalue])).showsPlaceholders.append showsPlaceholders_comma
    have htext := h.showsPlaceholders_front.append hearlier
    rw [Nat.zero_add] at htext
    exact htext

theorem Insert.existsPlace {phrase : List Token} {row : Insert} (hspells : SpellsInsert phrase row)
    (hshaped : row.WellShaped) {k : Nat} (hk : k < row.placeholders) :
    ExistsPlace phrase row.toCql.toList (.insert row) k := by
  obtain ⟨earlier, value, later, hsplit, hone, rfl⟩ :=
    exists_split_of_lt_sum Value.placeholders_le hk
  obtain rfl := Value.placeholders_eq_one_iff.mp hone
  obtain ⟨before, hafter, hbefore⟩ := exists_spellsBefore hspells hsplit
  obtain ⟨before', hafter', hbefore'⟩ := hshaped.exists_writtenBefore hsplit
  refine ⟨before, before', hafter, hafter', earlier.length, ?_, hbefore, hbefore'⟩
  rw [Statement.value?, hsplit, List.getElem?_append_right (Nat.le_refl _), Nat.sub_self]
  rfl

/-! ### All placeholders -/

/-- At most one of the places of an item has a given number of them before it. -/
theorem eq_of_append_singleton_prefix {α : Type} {items left right : List α} {item : α}
    (number : List α → Nat) (hmono : ∀ left right, left <+: right → number left ≤ number right)
    (hleft : left ++ [item] <+: items) (hright : right ++ [item] <+: items)
    (hnext : number left < number (left ++ [item]))
    (hnext' : number right < number (right ++ [item])) (h : number left = number right) :
    left = right := by
  have hshorter {left right : List α} (hleft : left ++ [item] <+: items)
      (hright : right ++ [item] <+: items) (hlt : left.length < right.length) :
      left ++ [item] <+: right := by
    refine List.prefix_of_prefix_length_le hleft ((List.prefix_append _ _).trans hright) ?_
    rw [List.length_append, List.length_singleton]
    exact hlt
  -- of two places the later one has the item of the earlier one before it
  rcases Nat.lt_trichotomy left.length right.length with hlt | heq | hgt
  · have hle := hmono _ _ (hshorter hleft hright hlt)
    omega
  · exact (List.prefix_of_prefix_length_le ((List.prefix_append _ _).trans hleft)
      ((List.prefix_append _ _).trans hright) (Nat.le_of_eq heq)).eq_of_length heq
  · have hle := hmono _ _ (hshorter hright hleft hgt)
    omega

theorem Token.PlaceholderAfter.unique {tokens left right : List Token} {k : Nat}
    (hleft : PlaceholderAfter tokens left k) (hright : PlaceholderAfter tokens right k) :
    left = right := by
  refine eq_of_append_singleton_prefix (List.count .placeholder)
    (fun left right h => h.sublist.count_le _) hleft.next hright.next ?_ ?_
    (hleft.count.trans hright.count.symm)
  · rw [List.count_append, List.count_singleton_self]
    exact Nat.lt_succ_self _
  · rw [List.count_append, List.count_singleton_self]
    exact Nat.lt_succ_self _

theorem count_exposed_le {left right : List Char} (h : left <+: right) :
    (Region.outside.exposed left).count '?' ≤ (Region.outside.exposed right).count '?' := by
  obtain ⟨rest, rfl⟩ := h
  rw [Region.exposed_append, List.count_append]
  exact Nat.le_add_right _ _

theorem ShowsPlaceholders.count_next {text : List Char} {k : Nat} (h : ShowsPlaceholders text k) :
    (Region.outside.exposed (text ++ ['?'])).count '?' = k + 1 := by
  rw [Region.exposed_append, List.count_append, h.closed, h.count]
  rfl

theorem Cql.PlaceholderAfter.unique {text left right : List Char} {k : Nat}
    (hleft : PlaceholderAfter text left k) (hright : PlaceholderAfter text right k) :
    left = right := by
  refine eq_of_append_singleton_prefix (fun text => (Region.outside.exposed text).count '?')
    (fun _ _ => count_exposed_le) hleft.next hright.next ?_ ?_
    (hleft.shows.count.trans hright.shows.count.symm)
  · rw [hleft.shows.count_next, hleft.shows.count]
    exact Nat.lt_succ_self k
  · rw [hright.shows.count_next, hright.shows.count]
    exact Nat.lt_succ_self k

theorem Cql.PlaceholderAfter.lt_count {text before : List Char} {k : Nat}
    (h : PlaceholderAfter text before k) : k < (Region.outside.exposed text).count '?' := by
  have hle := count_exposed_le h.next
  rw [h.shows.count_next] at hle
  exact hle

theorem Token.PlaceholderAfter.lt_count {tokens before : List Token} {k : Nat}
    (h : PlaceholderAfter tokens before k) : k < tokens.count .placeholder := by
  have hle := h.next.sublist.count_le Token.placeholder
  rw [List.count_append, h.count, List.count_singleton_self] at hle
  exact hle

theorem exists_placeholders {tokens : List Token} {statement : Statement}
    (hspells : SpellsStatement tokens statement) (hshaped : statement.WellShaped)
    (hkind : (∃ query, statement = .select query) ∨ ∃ row, statement = .insert row) :
    ShowsPlaceholders statement.toCql.toList (tokens.count .placeholder) ∧
      ∀ k < tokens.count .placeholder, ExistsPlace tokens statement.toCql.toList statement k := by
  obtain ⟨phrase, ending, hbare, hending, rfl⟩ := hspells.exists_bare
  have hnone : ending.count .placeholder = 0 := by
    rcases hending with rfl | rfl <;> rfl
  have hlonger {text : List Char} {k : Nat} (h : ExistsPlace phrase text statement k) :
      ExistsPlace (phrase ++ ending) text statement k := by
    obtain ⟨before, before', ⟨hnext, hcount⟩, htext⟩ := h
    exact ⟨before, before', ⟨hnext.trans (List.prefix_append phrase ending), hcount⟩, htext⟩
  rw [List.count_append, hnone, Nat.add_zero]
  cases hbare with
  | select h =>
    rw [counts_select _ _ h]
    exact ⟨Select.WellShaped.showsPlaceholders hshaped, fun k hk =>
      hlonger (Select.existsPlace h hshaped hk)⟩
  | insert h =>
    rw [counts_insert _ _ h]
    exact ⟨Insert.WellShaped.showsPlaceholders hshaped, fun k hk =>
      hlonger (Insert.existsPlace h hshaped hk)⟩
  | createTable | dropTable => simp at hkind

/-- The CQL text of a query or a row has as many placeholders outside quotes as
the SQL text has placeholder tokens.  Those with the same number before them
stand for the same value, and there are no others. -/
theorem compile_placeholders {sql : String} {tokens : List Token} {statement : Statement}
    (htokens : Token.tokenize sql = .ok tokens)
    (hstatement : Statement.ofTokens tokens = .ok statement)
    (hkind : (∃ query, statement = .select query) ∨ ∃ row, statement = .insert row) :
    ∃ cql, compile sql = .ok cql ∧
      (Region.outside.exposed cql.toList).count '?' = tokens.count .placeholder ∧
      (∀ k before, Token.PlaceholderAfter tokens before k →
        ∃ before', Cql.PlaceholderAfter cql.toList before' k ∧ SameValue statement before before') ∧
      ∀ k before', Cql.PlaceholderAfter cql.toList before' k →
        ∃ before, Token.PlaceholderAfter tokens before k ∧ SameValue statement before before' := by
  have hsql := Statement.ofSql_eq_ok_iff.mpr ⟨tokens, htokens, hstatement⟩
  obtain ⟨hshows, hplaces⟩ := exists_placeholders (Statement.ofTokens_eq_ok_iff.mp hstatement)
    (Statement.wellShaped_of_ofSql hsql) hkind
  refine ⟨statement.toCql, compile_eq_ok hsql, hshows.count, ?_, ?_⟩
  · intro k before hbefore
    obtain ⟨found, found', hfound, hfound', hsame⟩ := hplaces k hbefore.lt_count
    rw [hbefore.unique hfound]
    exact ⟨found', hfound', hsame⟩
  · intro k before' hbefore'
    have hk := hbefore'.lt_count
    rw [hshows.count] at hk
    obtain ⟨found, found', hfound, hfound', hsame⟩ := hplaces k hk
    rw [hbefore'.unique hfound']
    exact ⟨found, hfound, hsame⟩

theorem compile_placeholders_of_literal :
    ∃ tokens, Token.tokenize "INSERT INTO t (a, b) VALUES ('?\\'?', ?)" = .ok tokens ∧
      tokens.count .placeholder = 1 ∧
      ∃ cql, compile "INSERT INTO t (a, b) VALUES ('?\\'?', ?)" = .ok cql ∧
        (Region.outside.exposed cql.toList).count '?' = tokens.count .placeholder ∧
        (∀ k before, Token.PlaceholderAfter tokens before k →
          ∃ before', Cql.PlaceholderAfter cql.toList before' k ∧
            SameValue (.insert ⟨"t", ["a", "b"], [.string "?'?", .placeholder]⟩) before before') ∧
        ∀ k before', Cql.PlaceholderAfter cql.toList before' k →
          ∃ before, Token.PlaceholderAfter tokens before k ∧
            SameValue (.insert ⟨"t", ["a", "b"], [.string "?'?", .placeholder]⟩) before
              before' := by
  have htokens : (Token.tokenize "INSERT INTO t (a, b) VALUES ('?\\'?', ?)").toOption =
      some [⟨.keyword, "INSERT"⟩, ⟨.keyword, "INTO"⟩, ⟨.identifier, "t"⟩, ⟨.symbol, "("⟩,
        ⟨.identifier, "a"⟩, ⟨.symbol, ","⟩, ⟨.identifier, "b"⟩, ⟨.symbol, ")"⟩,
        ⟨.keyword, "VALUES"⟩, ⟨.symbol, "("⟩, ⟨.literal, "?'?"⟩, ⟨.symbol, ","⟩, .placeholder,
        ⟨.symbol, ")"⟩] := by
    decide +kernel
  have hstatement : (Statement.ofTokens [⟨.keyword, "INSERT"⟩, ⟨.keyword, "INTO"⟩,
      ⟨.identifier, "t"⟩, ⟨.symbol, "("⟩, ⟨.identifier, "a"⟩, ⟨.symbol, ","⟩, ⟨.identifier, "b"⟩,
      ⟨.symbol, ")"⟩, ⟨.keyword, "VALUES"⟩, ⟨.symbol, "("⟩, ⟨.literal, "?'?"⟩, ⟨.symbol, ","⟩,
      .placeholder, ⟨.symbol, ")"⟩]).toOption =
      some (.insert ⟨"t", ["a", "b"], [.string "?'?", .placeholder]⟩) := by
    decide +kernel
  exact ⟨_, eq_ok_of_toOption htokens, by decide, compile_placeholders (eq_ok_of_toOption htokens)
    (eq_ok_of_toOption hstatement) (.inr ⟨_, rfl⟩)⟩

end CqlCompiler
