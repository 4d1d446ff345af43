import CqlCompiler.Proofs.Injection
import CqlCompiler.Proofs.RoundTrip

/-!
# CQL text says which statement it was written for

Two queries or rows with the same CQL text are the same but for the order of
their rows, which is not written.  The text cannot be read as SQL text again in
general: a string may hold quotes, and the last part of a dotted name may be
empty, a number or a keyword.  So the text is taken apart as it was put
together.  `Unambiguous` says of a way of writing that a text with something
after it shows where the item ends and which item it is.

There are three groups.

* Ways of writing.  `Unambiguous.append` puts two parts together,
  `Unambiguous.intercalate` is a list with a separator and
  `Unambiguous.optional` a clause that may be left out; `unambiguous_run` is a
  run of characters of one class and `unambiguous_quoteLiteral` the doubling of
  quotes.
* Values.  Of two values that are not strings the text is read back, which
  `Value.Rereadable.eq_of_toCql_eq` does.
* Statements.  `withoutOrder_eq_of_compile_eq` is the result.
-/

namespace CqlCompiler

open CqlCompiler.Parser CqlCompiler.Token

/-! ## Ways of writing -/

/-- Two items with a text after each are written alike only if the texts after
them are the same and the items look the same. -/
def Unambiguous {α β : Type} (Item : α → Prop) (write : α → List Char) (view : α → β)
    (Follow : List Char → Prop) : Prop :=
  ∀ a b rest rest', Item a → Item b → Follow rest → Follow rest' →
    write a ++ rest = write b ++ rest' → view a = view b ∧ rest = rest'

section Unambiguous

variable {α β γ : Type} {Item : α → Prop} {write : α → List Char} {view : α → β}
  {Follow : List Char → Prop}

/-- Two parts of an item, one after the other. -/
theorem Unambiguous.append {write' : α → List Char} {view' : α → γ} {Follow' : List Char → Prop}
    (h : Unambiguous Item write view Follow) (h' : Unambiguous Item write' view' Follow')
    (hfollow : ∀ a rest, Item a → Follow' rest → Follow (write' a ++ rest)) :
    Unambiguous Item (fun a => write a ++ write' a) (fun a => (view a, view' a)) Follow' := by
  intro a b rest rest' ha hb hrest hrest' htext
  dsimp only at htext
  rw [List.append_assoc, List.append_assoc] at htext
  obtain ⟨hview, htail⟩ := h a b _ _ ha hb (hfollow a rest ha hrest) (hfollow b rest' hb hrest')
    htext
  obtain ⟨hview', hrests⟩ := h' a b rest rest' ha hb hrest hrest' htail
  exact ⟨Prod.ext hview hview', hrests⟩

/-- The same text after each item. -/
theorem Unambiguous.append_const (h : Unambiguous Item write view Follow) (text : List Char)
    (hfollow : ∀ rest, Follow (text ++ rest)) :
    Unambiguous Item (fun a => write a ++ text) view Anything := by
  intro a b rest rest' ha hb _ _ htext
  dsimp only at htext
  rw [List.append_assoc, List.append_assoc] at htext
  obtain ⟨hview, htail⟩ := h a b _ _ ha hb (hfollow rest) (hfollow rest') htext
  exact ⟨hview, List.append_cancel_left htail⟩

/-- The same text before each item. -/
theorem Unambiguous.const_append (h : Unambiguous Item write view Follow) (text : List Char) :
    Unambiguous Item (fun a => text ++ write a) view Follow := by
  intro a b rest rest' ha hb hrest hrest' htext
  dsimp only at htext
  rw [List.append_assoc, List.append_assoc] at htext
  exact h a b rest rest' ha hb hrest hrest' (List.append_cancel_left htext)

/-- Another view that shows no more. -/
theorem Unambiguous.cast {write' : α → List Char} {view' : α → γ}
    (h : Unambiguous Item write view Follow) (hwrite : ∀ a, write' a = write a)
    (hview : ∀ a b, view a = view b → view' a = view' b) :
    Unambiguous Item write' view' Follow := by
  intro a b rest rest' ha hb hrest hrest' htext
  rw [hwrite, hwrite] at htext
  obtain ⟨hviews, hrests⟩ := h a b rest rest' ha hb hrest hrest' htext
  exact ⟨hview a b hviews, hrests⟩

end Unambiguous

section Lists

variable {α : Type} {Item : α → Prop} {write : α → List Char} {Follow : List Char → Prop}
  {separator : List Char}

/-- No further item of a list follows. -/
def ListEnds (Follow : List Char → Prop) (separator rest : List Char) : Prop :=
  Follow rest ∧ ¬ separator <+: rest

theorem follow_flatMap (hseparator : ∀ rest, Follow (separator ++ rest)) (items : List α)
    {rest : List Char} (hrest : Follow rest) :
    Follow ((items.flatMap fun item => separator ++ write item) ++ rest) := by
  cases items with
  | nil => exact hrest
  | cons a items =>
    rw [List.flatMap_cons, List.append_assoc, List.append_assoc]
    exact hseparator _

/-- Items with a separator before each of them show where they end, if a
separator may follow each item and none follows the last one. -/
theorem Unambiguous.flatMap (h : Unambiguous Item write (fun item => item) Follow)
    (hseparator : ∀ rest, Follow (separator ++ rest)) :
    Unambiguous (fun items : List α => ∀ item ∈ items, Item item)
      (fun items => items.flatMap fun item => separator ++ write item) (fun items => items)
      (ListEnds Follow separator) := by
  intro items items' rest rest' hitems hitems' hrest hrest' htext
  dsimp only at htext
  induction items generalizing items' with
  | nil =>
    cases items' with
    | nil => exact ⟨rfl, htext⟩
    | cons b items' =>
      -- the longer list goes on with a separator where the shorter one ends
      rw [List.flatMap_cons, List.append_assoc, List.append_assoc] at htext
      exact absurd ⟨_, htext.symm⟩ hrest.2
  | cons a items ih =>
    rw [List.flatMap_cons, List.append_assoc, List.append_assoc] at htext
    cases items' with
    | nil => exact absurd ⟨_, htext⟩ hrest'.2
    | cons b items' =>
      rw [List.flatMap_cons, List.append_assoc, List.append_assoc] at htext
      obtain ⟨ha, hothers⟩ := List.forall_mem_cons.mp hitems
      obtain ⟨hb, hothers'⟩ := List.forall_mem_cons.mp hitems'
      obtain ⟨rfl, htail⟩ := h a b _ _ ha hb (follow_flatMap hseparator items hrest.1)
        (follow_flatMap hseparator items' hrest'.1) (List.append_cancel_left htext)
      obtain ⟨rfl, hrests⟩ := ih items' hothers hothers' htail
      exact ⟨rfl, hrests⟩

/-- The same of a list that is not empty, with separators between its items. -/
theorem Unambiguous.intercalate (h : Unambiguous Item write (fun item => item) Follow)
    (hseparator : ∀ rest, Follow (separator ++ rest)) :
    Unambiguous (fun items : List α => items ≠ [] ∧ ∀ item ∈ items, Item item)
      (fun items => separator.intercalate (items.map write)) (fun items => items)
      (ListEnds Follow separator) := by
  have hwritten (a : α) (items : List α) (rest : List Char) :
      separator.intercalate ((a :: items).map write) ++ rest =
        write a ++ ((items.flatMap fun item => separator ++ write item) ++ rest) := by
    rw [List.map_cons, intercalate_cons_eq, List.append_assoc, List.flatMap_map]
  intro items items' rest rest' hitems hitems' hrest hrest' htext
  obtain ⟨a, items, rfl⟩ := List.exists_cons_of_ne_nil hitems.1
  obtain ⟨b, items', rfl⟩ := List.exists_cons_of_ne_nil hitems'.1
  obtain ⟨ha, hothers⟩ := List.forall_mem_cons.mp hitems.2
  obtain ⟨hb, hothers'⟩ := List.forall_mem_cons.mp hitems'.2
  dsimp only at htext
  rw [hwritten, hwritten] at htext
  obtain ⟨rfl, htail⟩ := h a b _ _ ha hb (follow_flatMap hseparator items hrest.1)
    (follow_flatMap hseparator items' hrest'.1) htext
  obtain ⟨rfl, hrests⟩ := h.flatMap hseparator items items' rest rest' hothers hothers'
    hrest hrest' htail
  exact ⟨rfl, hrests⟩

end Lists

/-- A run of characters of one class ends where the class does. -/
theorem unambiguous_run (p : Char → Bool) :
    Unambiguous (fun text : String => ∀ c ∈ text.toList, p c = true) String.toList
      (fun text => text) (NotAt p) := by
  intro a b rest rest' ha hb hrest hrest' htext
  have hrun := congrArg (List.takeWhile p) htext
  rw [takeWhile_append_of_notAt ha hrest, takeWhile_append_of_notAt hb hrest'] at hrun
  rw [hrun] at htext
  exact ⟨String.toList_inj.mp hrun, List.append_cancel_left htext⟩

/-- A single quote after the doubled ones is the closing quote, unless one more
follows it. -/
theorem doubled_append_inj {quote : Char} {left right rest rest' : List Char}
    (hrest : quote ∉ rest.head?) (hrest' : quote ∉ rest'.head?)
    (h : Text.doubled quote left ++ quote :: rest = Text.doubled quote right ++ quote :: rest') :
    left = right ∧ rest = rest' := by
  induction left generalizing right with
  | nil =>
    cases right with
    | nil => simpa using h
    | cons d right =>
      rw [Text.doubled_cons] at h
      split at h
      · obtain rfl := (List.cons.inj h).2
        simp at hrest
      · rename_i hd
        exact absurd (List.cons.inj h).1.symm hd
  | cons c left ih =>
    cases right with
    | nil =>
      rw [Text.doubled_cons] at h
      split at h
      · obtain rfl := (List.cons.inj h).2
        simp at hrest'
      · rename_i hc
        exact absurd (List.cons.inj h).1 hc
    | cons d right =>
      rw [Text.doubled_cons, Text.doubled_cons] at h
      by_cases hc : c = quote
      · by_cases hd : d = quote
        · rw [if_pos hc, if_pos hd] at h
          obtain ⟨rfl, hrests⟩ := ih (List.cons.inj (List.cons.inj h).2).2
          exact ⟨by rw [hc, hd], hrests⟩
        · rw [if_pos hc, if_neg hd] at h
          exact absurd (List.cons.inj h).1.symm hd
      · by_cases hd : d = quote
        · rw [if_neg hc, if_pos hd] at h
          exact absurd (List.cons.inj h).1 hc
        · rw [if_neg hc, if_neg hd] at h
          obtain ⟨rfl, htail⟩ := List.cons.inj h
          obtain ⟨rfl, hrests⟩ := ih htail
          exact ⟨rfl, hrests⟩

theorem unambiguous_quoteLiteral :
    Unambiguous (fun _ : String => True) (fun text => (Text.quoteLiteral text).toList)
      (fun text => text) (NotAt (· == '\'')) := by
  intro a b rest rest' _ _ hrest hrest' htext
  have hclosed {rest : List Char} (h : NotAt (· == '\'') rest) : '\'' ∉ rest.head? := by
    intro hquote
    simpa using h _ hquote
  simp only [Text.quoteLiteral, Text.enclosed, String.toList_ofList, List.cons_append,
    List.append_assoc, List.nil_append, List.cons.injEq, true_and] at htext
  obtain ⟨htexts, hrests⟩ := doubled_append_inj (hclosed hrest) (hclosed hrest') htext
  exact ⟨String.toList_inj.mp htexts, hrests⟩

/-- A clause that may be left out begins with a mark that nothing else begins
with. -/
theorem Unambiguous.optional {α β : Type} {Item : α → Prop} {write : α → List Char} {view : α → β}
    {Follow : List Char → Prop} {mark : List Char} {absent : α → Bool}
    (h : Unambiguous (fun a => Item a ∧ absent a = false) write view Follow)
    (habsent : ∀ a b, absent a = true → absent b = true → view a = view b) :
    Unambiguous Item (fun a => if absent a then [] else mark ++ write a) view
      (ListEnds Follow mark) := by
  intro a b rest rest' ha hb hrest hrest' htext
  dsimp only at htext
  cases hleft : absent a with
  | true =>
    cases hright : absent b with
    | true =>
      rw [if_pos hleft, if_pos hright] at htext
      exact ⟨habsent a b hleft hright, htext⟩
    | false =>
      rw [if_pos hleft, if_neg (by simp [hright]), List.append_assoc] at htext
      exact absurd ⟨_, htext.symm⟩ hrest.2
  | false =>
    cases hright : absent b with
    | true =>
      rw [if_pos hright, if_neg (by simp [hleft]), List.append_assoc] at htext
      exact absurd ⟨_, htext⟩ hrest'.2
    | false =>
      rw [if_neg (by simp [hleft]), if_neg (by simp [hright]), List.append_assoc,
        List.append_assoc] at htext
      exact h a b rest rest' ⟨ha, hleft⟩ ⟨hb, hright⟩ hrest.1 hrest'.1
        (List.append_cancel_left htext)

/-- Texts of which none begins the other do not begin alike. -/
theorem not_prefix_append {mark text : List Char} (h : ¬ mark <+: text) (h' : ¬ text <+: mark)
    (rest : List Char) : ¬ mark <+: text ++ rest := by
  intro hmark
  rcases List.prefix_or_prefix_of_prefix hmark (List.prefix_append text rest) with hbegins | hbegins
  · exact h hbegins
  · exact h' hbegins

theorem listEnds_append {Follow : List Char → Prop} {separator text : List Char}
    (hfollow : ∀ rest, Follow (text ++ rest)) (h : ¬ separator <+: text)
    (h' : ¬ text <+: separator) (rest : List Char) : ListEnds Follow separator (text ++ rest) :=
  ⟨hfollow rest, not_prefix_append h h' rest⟩

/-! ## Values -/

/-- The characters of the values that are not strings. -/
def isBareChar (c : Char) : Bool :=
  isWordChar c || c == '?'

/-- No more of a value follows. -/
abbrev ValueEnds : List Char → Prop :=
  NotAt fun c => isBareChar c || c == '\''

theorem IsDigits.isWordChar {text : String} (h : IsDigits text) :
    ∀ c ∈ text.toList, isWordChar c = true :=
  fun c hc => isWordChar_of_isDigit (h.chars c hc)

theorem Value.WellShaped.isWordChar {value : Value} (h : value.WellShaped)
    (hstring : ∀ text, value ≠ .string text) (hplaceholder : value ≠ .placeholder) :
    ∀ c ∈ value.toCql.toList, isWordChar c = true := by
  cases h with
  | string => exact absurd rfl (hstring _)
  | placeholder => exact absurd rfl hplaceholder
  | int hnonneg =>
    rw [toCql_int hnonneg]
    exact (isDigits_ofNat _).isWordChar
  | @decimal whole fraction hwhole hfraction =>
    have hdot : ∀ c ∈ ".".toList, Token.isWordChar c = true := List.all_eq_true.mp (by decide)
    rw [toCql, bareText, String.toList_append, String.toList_append]
    · rw [List.forall_mem_append, List.forall_mem_append]
      exact ⟨⟨hwhole.isWordChar, hdot⟩, hfraction.isWordChar⟩
    · simp
  | bool truth => exact (isName_boolWord truth).chars
  | identifier hname => exact hname.chars

theorem Value.WellShaped.isBareChar {value : Value} (h : value.WellShaped)
    (hstring : ∀ text, value ≠ .string text) : ∀ c ∈ value.toCql.toList, isBareChar c = true := by
  by_cases hplaceholder : value = .placeholder
  · rw [hplaceholder]
    exact List.all_eq_true.mp (by decide)
  · intro c hc
    rw [CqlCompiler.isBareChar, h.isWordChar hstring hplaceholder c hc]
    rfl

/-- Values that are read back from their text are told apart by it. -/
theorem Value.Rereadable.eq_of_toCql_eq {a b : Value} (ha : a.Rereadable) (hb : b.Rereadable)
    (h : a.toCql = b.toCql) : a = b := by
  obtain ⟨tokens, hspells, hlexes⟩ := ha.writes
  obtain ⟨tokens', hspells', hlexes'⟩ := hb.writes
  have hscan := scan_of_cutsInto (hlexes [] [] (notAt_nil _) (.nil (.nil _)))
  have hscan' := scan_of_cutsInto (hlexes' [] [] (notAt_nil _) (.nil (.nil _)))
  rw [h, hscan'] at hscan
  obtain rfl := List.append_cancel_right (Except.ok.inj hscan)
  have hvalue := TokenParser.value_complete _ _ [] hspells (notAt_nil _)
  have hvalue' := TokenParser.value_complete _ _ [] hspells' (notAt_nil _)
  rw [hvalue'] at hvalue
  exact (Prod.ext_iff.mp (Except.ok.inj hvalue)).1.symm

/-- A quote begins no value but a string. -/
theorem Value.WellShaped.notAt_quote {value : Value} (h : value.WellShaped)
    (hstring : ∀ text, value ≠ .string text) {rest : List Char} (hrest : ValueEnds rest) :
    NotAt (· == '\'') (value.toCql.toList ++ rest) := by
  refine NotAt.append ?_ (notAt_or.mp hrest).2
  intro c hc
  have hbare := h.isBareChar hstring c (List.mem_of_mem_head? hc)
  rw [Bool.eq_false_iff]
  intro hquote
  rw [beq_iff_eq.mp hquote] at hbare
  revert hbare
  decide

theorem Value.WellShaped.toCql_ne_quoteLiteral {value : Value} (h : value.WellShaped)
    (hstring : ∀ text, value ≠ .string text) {rest : List Char} (hrest : ValueEnds rest)
    (text : String) (rest' : List Char) :
    value.toCql.toList ++ rest ≠ (Text.quoteLiteral text).toList ++ rest' := by
  intro htext
  have hnot := h.notAt_quote hstring hrest
  rw [htext, Text.quoteLiteral, Text.enclosed, String.toList_ofList, List.cons_append,
    notAt_cons] at hnot
  simp at hnot

theorem Value.string_or_not (value : Value) :
    (∃ text, value = .string text) ∨ ∀ text, value ≠ .string text := by
  cases value <;> simp

theorem Value.unambiguous :
    Unambiguous Value.WellShaped (fun value => value.toCql.toList) (fun value => value)
      ValueEnds := by
  intro a b rest rest' ha hb hrest hrest' htext
  rcases a.string_or_not with ⟨text, rfl⟩ | hbare
  · rcases b.string_or_not with ⟨text', rfl⟩ | hbare'
    · obtain ⟨rfl, hrests⟩ := unambiguous_quoteLiteral text text' rest rest' trivial trivial
        (notAt_or.mp hrest).2 (notAt_or.mp hrest').2 htext
      exact ⟨rfl, hrests⟩
    · exact absurd htext.symm (hb.toCql_ne_quoteLiteral hbare' hrest' text rest)
  · rcases b.string_or_not with ⟨text', rfl⟩ | hbare'
    · exact absurd htext (ha.toCql_ne_quoteLiteral hbare hrest text' rest')
    · -- the classes of bare values overlap, so the run is found first and then read back
      obtain ⟨htexts, hrests⟩ := unambiguous_run isBareChar a.toCql b.toCql rest rest'
        (ha.isBareChar hbare) (hb.isBareChar hbare') (notAt_or.mp hrest).1 (notAt_or.mp hrest').1
        htext
      have hread : a.Rereadable := ⟨ha, fun text h => absurd h (hbare text)⟩
      have hread' : b.Rereadable := ⟨hb, fun text h => absurd h (hbare' text)⟩
      exact ⟨hread.eq_of_toCql_eq hread' htexts, hrests⟩

/-! ## Queries and rows -/

theorem Condition.unambiguous :
    Unambiguous Condition.WellShaped (fun condition => condition.toCql.toList)
      (fun condition => condition) ValueEnds := by
  have hcolumn : Unambiguous Condition.WellShaped (fun condition => condition.column.toList)
      (fun condition => condition.column) WordEnds :=
    fun a b rest rest' ha hb => unambiguous_run isWordChar a.column b.column rest rest'
      ha.column.chars hb.column.chars
  have hvalue : Unambiguous Condition.WellShaped (fun condition => condition.value.toCql.toList)
      (fun condition => condition.value) ValueEnds :=
    fun a b rest rest' ha hb => Value.unambiguous a.value b.value rest rest' ha.value hb.value
  have hequals := hcolumn.append_const " = ".toList (notAt_append (by decide) (by decide))
  refine (hequals.append hvalue fun _ _ _ _ => trivial).cast ?_ ?_
  · intro condition
    rw [Condition.toCql, String.toList_append, String.toList_append]
  · rintro ⟨column, value⟩ ⟨column', value'⟩ hparts
    obtain ⟨rfl, rfl⟩ := Prod.mk.inj hparts
    rfl

/-- A query of a text: it names columns, or all of them by a star. -/
structure Select.Spelled (query : Select) : Prop where
  wellShaped : query.WellShaped
  projection : ∃ names, query.projection = .ofNames names ∧ names ≠ [] ∧
    ∀ name ∈ names, IsColumnWord name

/-- A row of a text has columns and values. -/
structure Insert.Spelled (row : Insert) : Prop where
  wellShaped : row.WellShaped
  columns : row.columns ≠ []
  values : row.values ≠ []

theorem yields_select_spelled : Yields Token.WellShaped SpellsSelect Select.Spelled := by
  intro phrase query hspells hitems
  refine ⟨yields_select _ _ hspells hitems, ?_⟩
  obtain ⟨table, hnames, hconditions, hoptions⟩ := hspells
  have hcolumns := yields_columnName.separated _ _ _ hnames fun token htoken =>
    hitems token (by simp [htoken])
  exact ⟨_, rfl, hnames.ne_nil, hcolumns⟩

theorem yields_insert_spelled : Yields Token.WellShaped SpellsInsert Insert.Spelled := by
  intro phrase row hspells hitems
  refine ⟨yields_insert _ _ hspells hitems, ?_, ?_⟩
  · obtain ⟨table, ⟨hcolumns⟩, -, -⟩ := hspells
    exact hcolumns.ne_nil
  · obtain ⟨table, -, ⟨hvalues⟩, -⟩ := hspells
    exact hvalues.ne_nil

theorem Projection.toCql_ofNames (names : List String) :
    (Projection.ofNames names).toCql = commaSeparated names := by
  unfold ofNames
  split
  · rename_i hstar
    rw [hstar]
    rfl
  · rfl

theorem toList_intercalate_map {α : Type} (separator : String) (write : α → String)
    (items : List α) :
    (separator.intercalate (items.map write)).toList =
      separator.toList.intercalate (items.map fun item => (write item).toList) := by
  rw [String.toList_intercalate, List.map_map]
  rfl

theorem unambiguous_commaSeparated {α : Type} {Item : α → Prop} {write : α → String}
    {Follow : List Char → Prop}
    (h : Unambiguous Item (fun item => (write item).toList) (fun item => item) Follow)
    (hcomma : ∀ rest, Follow (", ".toList ++ rest)) :
    Unambiguous (fun items : List α => items ≠ [] ∧ ∀ item ∈ items, Item item)
      (fun items => (commaSeparated (items.map write)).toList) (fun items => items)
      (ListEnds Follow ", ".toList) :=
  (h.intercalate hcomma).cast (toList_intercalate_map ", " write) fun _ _ h => h

/-- Names with commas between them. -/
theorem unambiguous_names :
    Unambiguous (fun names : List String => names ≠ [] ∧
        ∀ name ∈ names, ∀ c ∈ name.toList, isWordChar c = true)
      (fun names => (commaSeparated names).toList) (fun names => names)
      (ListEnds WordEnds ", ".toList) := by
  have hnames := unambiguous_commaSeparated (unambiguous_run isWordChar)
    (notAt_append (by decide) (by decide))
  exact hnames.cast (fun names => by rw [List.map_id']) fun _ _ h => h

theorem Select.unambiguous_projection :
    Unambiguous Select.Spelled (fun query => query.projection.toCql.toList)
      (fun query => query.projection) (ListEnds WordEnds ", ".toList) := by
  intro a b rest rest' ha hb hrest hrest' htext
  obtain ⟨names, hnames, hne, hwords⟩ := ha.projection
  obtain ⟨names', hnames', hne', hwords'⟩ := hb.projection
  dsimp only at htext
  rw [hnames, hnames', Projection.toCql_ofNames, Projection.toCql_ofNames] at htext
  obtain ⟨rfl, hrests⟩ := unambiguous_names names names' rest rest'
    ⟨hne, fun name hname => (hwords name hname).chars⟩
    ⟨hne', fun name hname => (hwords' name hname).chars⟩ hrest hrest' htext
  exact ⟨hnames.trans hnames'.symm, hrests⟩

/-- No more of the conditions of a query follows. -/
abbrev ConditionsEnd : List Char → Prop :=
  ListEnds (ListEnds ValueEnds " AND ".toList) " WHERE ".toList

theorem Select.unambiguous_whereClause :
    Unambiguous Select.Spelled (fun query => query.whereClause.toList)
      (fun query => query.conditions) ConditionsEnd := by
  have hand : ∀ rest, ValueEnds (" AND ".toList ++ rest) := notAt_append (by decide) (by decide)
  have hlist := Condition.unambiguous.intercalate hand
  have hconditions : Unambiguous
      (fun query : Select => query.Spelled ∧ query.conditions.isEmpty = false)
      (fun query => " AND ".toList.intercalate
        (query.conditions.map fun condition => condition.toCql.toList))
      (fun query => query.conditions) (ListEnds ValueEnds " AND ".toList) :=
    fun a b rest rest' ha hb => hlist a.conditions b.conditions rest rest'
      ⟨by simpa using ha.2, ha.1.wellShaped.conditions⟩
      ⟨by simpa using hb.2, hb.1.wellShaped.conditions⟩
  refine hconditions.optional ?_ |>.cast ?_ fun _ _ h => h
  · intro a b hnone hnone'
    rw [List.isEmpty_iff.mp hnone, List.isEmpty_iff.mp hnone']
  · intro query
    rw [whereClause]
    split
    · rfl
    · rw [String.toList_append, toList_intercalate_map]

theorem ofUnsigned_inj {a b : UInt64}
    (h : Text.Numeral.ofUnsigned a = Text.Numeral.ofUnsigned b) : a = b := by
  have hdigits := congrArg Text.Numeral.digits? (String.ofList_inj.mp h)
  rw [Text.Numeral.digits?_toDigits, Text.Numeral.digits?_toDigits] at hdigits
  exact UInt64.toNat_inj.mp (Option.some.inj hdigits)

theorem Select.unambiguous_limitClause :
    Unambiguous Select.Spelled (fun query => query.limitClause.toList ++ ";".toList)
      (fun query => query.limit) Anything := by
  have hcount : Unambiguous (fun query : Select => query.Spelled ∧ query.limit.isNone = false)
      (fun query => (Text.Numeral.ofUnsigned (query.limit.getD 0)).toList)
      (fun query => query.limit) (NotAt Char.isDigit) := by
    intro a b rest rest' ha hb hrest hrest' htext
    obtain ⟨htexts, hrests⟩ := unambiguous_run Char.isDigit _ _ rest rest'
      (isDigits_ofNat _).chars (isDigits_ofNat _).chars hrest hrest' htext
    obtain ⟨count, hleft⟩ := Option.isSome_iff_exists.mp (Option.isNone_eq_false_iff.mp ha.2)
    obtain ⟨count', hright⟩ := Option.isSome_iff_exists.mp (Option.isNone_eq_false_iff.mp hb.2)
    have hcounts := ofUnsigned_inj htexts
    rw [hleft, hright] at hcounts
    exact ⟨hleft.trans ((congrArg some hcounts).trans hright.symm), hrests⟩
  have hclause : Unambiguous Select.Spelled (fun query => query.limitClause.toList)
      (fun query => query.limit) (ListEnds (NotAt Char.isDigit) " LIMIT ".toList) := by
    refine hcount.optional ?_ |>.cast ?_ fun _ _ h => h
    · intro a b hnone hnone'
      rw [Option.isNone_iff_eq_none.mp hnone, Option.isNone_iff_eq_none.mp hnone']
    · intro query
      rw [limitClause]
      cases query.limit with
      | none => rfl
      | some count => exact String.toList_append
  exact hclause.append_const ";".toList
    (listEnds_append (notAt_append (by decide) (by decide)) (by decide) (by decide))

theorem conditionsEnd_append {text : List Char}
    (h : text ≠ [] ∧ ValueEnds text ∧ (¬ " AND ".toList <+: text ∧ ¬ text <+: " AND ".toList) ∧
      ¬ " WHERE ".toList <+: text ∧ ¬ text <+: " WHERE ".toList) (rest : List Char) :
    ConditionsEnd (text ++ rest) := by
  obtain ⟨hne, hvalue, ⟨hand, hand'⟩, hwhere, hwhere'⟩ := h
  exact listEnds_append (listEnds_append (notAt_append hne hvalue) hand hand') hwhere hwhere' rest

theorem Select.conditionsEnd_limitClause (query : Select) (rest : List Char) :
    ConditionsEnd (query.limitClause.toList ++ ";".toList ++ rest) := by
  have hlimit : ∀ rest, ConditionsEnd (" LIMIT ".toList ++ rest) :=
    conditionsEnd_append (by decide)
  have hsemicolon : ∀ rest, ConditionsEnd (";".toList ++ rest) := conditionsEnd_append (by decide)
  rw [limitClause]
  cases query.limit with
  | none => exact hsemicolon rest
  | some count =>
    dsimp only
    rw [String.toList_append, List.append_assoc, List.append_assoc]
    exact hlimit _

/-- The text of a query or a row has seven parts. -/
theorem toList_seven_parts (a b c d e f g : String) :
    (a ++ b ++ c ++ d ++ e ++ f ++ g).toList =
      a.toList ++ b.toList ++ c.toList ++ d.toList ++ e.toList ++ f.toList ++ g.toList := by
  simp only [String.toList_append]

theorem prefix_seven_parts (a b c d e f g : String) :
    a.toList <+: (a ++ b ++ c ++ d ++ e ++ f ++ g).toList := by
  simp only [toList_seven_parts, List.append_assoc]
  exact List.prefix_append _ _

theorem Select.unambiguous :
    Unambiguous Select.Spelled (fun query => query.toCql.toList)
      (fun query => { query with order := none }) Anything := by
  have htable : Unambiguous Select.Spelled (fun query => query.table.toList)
      (fun query => query.table) WordEnds :=
    fun a b rest rest' ha hb => unambiguous_run isWordChar a.table b.table rest rest'
      ha.wellShaped.table.chars hb.wellShaped.table.chars
  have hnames := (unambiguous_projection.const_append "SELECT ".toList).append_const " FROM ".toList
    (listEnds_append (notAt_append (by decide) (by decide)) (by decide) (by decide))
  have hfrom := hnames.append htable fun _ _ _ _ => trivial
  have hwhere := hfrom.append unambiguous_whereClause fun query rest _ hrest =>
    query.wordEnds_whereClause.append (notAt_or.mp (notAt_or.mp hrest.1.1).1).1
  have hlimit := hwhere.append unambiguous_limitClause fun query rest _ _ =>
    query.conditionsEnd_limitClause rest
  refine hlimit.cast ?_ ?_
  · intro query
    exact (toList_seven_parts ..).trans (List.append_assoc ..)
  · rintro ⟨projection, table, conditions, limit, order⟩ ⟨_, _, _, _, _⟩ hparts
    simp only [Prod.mk.injEq] at hparts
    obtain ⟨⟨⟨rfl, rfl⟩, rfl⟩, rfl⟩ := hparts
    rfl

theorem Insert.unambiguous :
    Unambiguous Insert.Spelled (fun row => row.toCql.toList) (fun row => row) Anything := by
  have htable : Unambiguous Insert.Spelled (fun row => row.table.toList)
      (fun row => row.table) WordEnds :=
    fun a b rest rest' ha hb => unambiguous_run isWordChar a.table b.table rest rest'
      ha.wellShaped.table.chars hb.wellShaped.table.chars
  have hcolumns : Unambiguous Insert.Spelled (fun row => (commaSeparated row.columns).toList)
      (fun row => row.columns) (ListEnds WordEnds ", ".toList) :=
    fun a b rest rest' ha hb => unambiguous_names a.columns b.columns rest rest'
      ⟨ha.columns, fun name hname => (ha.wellShaped.columns name hname).chars⟩
      ⟨hb.columns, fun name hname => (hb.wellShaped.columns name hname).chars⟩
  have hlist := unambiguous_commaSeparated Value.unambiguous
    (notAt_append (by decide) (by decide))
  have hvalues : Unambiguous Insert.Spelled
      (fun row => (commaSeparated (row.values.map Value.toCql)).toList)
      (fun row => row.values) (ListEnds ValueEnds ", ".toList) :=
    fun a b rest rest' ha hb => hlist a.values b.values rest rest'
      ⟨ha.values, ha.wellShaped.values⟩ ⟨hb.values, hb.wellShaped.values⟩
  have hname := (htable.const_append "INSERT INTO ".toList).append_const " (".toList
    (notAt_append (by decide) (by decide))
  have hleft := (hname.append hcolumns fun _ _ _ _ => trivial).append_const ") VALUES (".toList
    (listEnds_append (notAt_append (by decide) (by decide)) (by decide) (by decide))
  have hright := (hleft.append hvalues fun _ _ _ _ => trivial).append_const ");".toList
    (listEnds_append (notAt_append (by decide) (by decide)) (by decide) (by decide))
  refine hright.cast ?_ ?_
  · intro row
    exact toList_seven_parts ..
  · rintro ⟨table, columns, values⟩ ⟨_, _, _⟩ hparts
    simp only [Prod.mk.injEq] at hparts
    obtain ⟨⟨rfl, rfl⟩, rfl⟩ := hparts
    rfl

/-! ## Statements -/

theorem Select.spelled_of_ofSql {sql : String} {query : Select}
    (h : Statement.ofSql sql = .ok (.select query)) : query.Spelled := by
  obtain ⟨tokens, hspells, hshaped⟩ := Statement.exists_spelling_of_ofSql h
  obtain ⟨phrase, ending, hbare, -, rfl⟩ := hspells.exists_bare
  cases hbare with
  | select hquery => exact yields_select_spelled _ _ hquery (List.forall_mem_append.mp hshaped).1

theorem Insert.spelled_of_ofSql {sql : String} {row : Insert}
    (h : Statement.ofSql sql = .ok (.insert row)) : row.Spelled := by
  obtain ⟨tokens, hspells, hshaped⟩ := Statement.exists_spelling_of_ofSql h
  obtain ⟨phrase, ending, hbare, -, rfl⟩ := hspells.exists_bare
  cases hbare with
  | insert hrow => exact yields_insert_spelled _ _ hrow (List.forall_mem_append.mp hshaped).1

/-- A query and a row begin with different words. -/
theorem Select.toCql_ne_insert (query : Select) (row : Insert) : query.toCql ≠ row.toCql := by
  intro h
  have hselect : "SELECT ".toList <+: query.toCql.toList := prefix_seven_parts ..
  have hinsert : "INSERT INTO ".toList <+: row.toCql.toList := prefix_seven_parts ..
  rw [← h] at hinsert
  rcases List.prefix_or_prefix_of_prefix hselect hinsert with hbegins | hbegins
  · exact absurd hbegins (by decide)
  · exact absurd hbegins (by decide)

/-- Two SQL texts with the same CQL text spell the same query or row, up to the
order of a query. -/
theorem withoutOrder_eq_of_compile_eq {left right : String} {a b : Statement}
    (ha : Statement.ofSql left = .ok a) (hb : Statement.ofSql right = .ok b)
    (hkind : (∃ query, a = .select query) ∨ ∃ row, a = .insert row)
    (hkind' : (∃ query, b = .select query) ∨ ∃ row, b = .insert row)
    (h : compile left = compile right) : a.withoutOrder = b.withoutOrder := by
  rw [compile_eq_ok ha, compile_eq_ok hb] at h
  have htext : a.toCql.toList ++ [] = b.toCql.toList ++ [] := by rw [Except.ok.inj h]
  rcases hkind with ⟨query, rfl⟩ | ⟨row, rfl⟩
  · rcases hkind' with ⟨query', rfl⟩ | ⟨row', rfl⟩
    · obtain ⟨hquery, -⟩ := Select.unambiguous query query' [] [] (Select.spelled_of_ofSql ha)
        (Select.spelled_of_ofSql hb) trivial trivial htext
      exact congrArg Statement.select hquery
    · exact absurd (Except.ok.inj h) (query.toCql_ne_insert row')
  · rcases hkind' with ⟨query', rfl⟩ | ⟨row', rfl⟩
    · exact absurd (Except.ok.inj h).symm (query'.toCql_ne_insert row)
    · obtain ⟨hrow, -⟩ := Insert.unambiguous row row' [] [] (Insert.spelled_of_ofSql ha)
        (Insert.spelled_of_ofSql hb) trivial trivial htext
      exact congrArg Statement.insert hrow

theorem withoutOrder_eq_of_same_literal :
    compile "SELECT k.a FROM t WHERE b = 'x\\' AND c = \\'' ORDER BY b LIMIT 3" =
        compile "select a from t where b = \"x' AND c = '\" limit 03;" ∧
      (Statement.select ⟨.columns ["a"], "t", [⟨"b", .string "x' AND c = '"⟩], some 3,
          some ⟨"b", .ascending⟩⟩).withoutOrder =
        (Statement.select ⟨.columns ["a"], "t", [⟨"b", .string "x' AND c = '"⟩], some 3,
          none⟩).withoutOrder := by
  have hleft : (Statement.ofSql
      "SELECT k.a FROM t WHERE b = 'x\\' AND c = \\'' ORDER BY b LIMIT 3").toOption =
      some (.select ⟨.columns ["a"], "t", [⟨"b", .string "x' AND c = '"⟩], some 3,
        some ⟨"b", .ascending⟩⟩) := by decide +kernel
  have hright : (Statement.ofSql "select a from t where b = \"x' AND c = '\" limit 03;").toOption =
      some (.select ⟨.columns ["a"], "t", [⟨"b", .string "x' AND c = '"⟩], some 3, none⟩) := by
    decide +kernel
  have ha := Statement.ofSql_eq_ok_of_toOption hleft
  have hb := Statement.ofSql_eq_ok_of_toOption hright
  have htext := (compile_eq_ok ha).trans (compile_eq_ok hb).symm
  exact ⟨htext, withoutOrder_eq_of_compile_eq ha hb (.inl ⟨_, rfl⟩) (.inl ⟨_, rfl⟩) htext⟩

end CqlCompiler
