import CqlCompiler.Proofs.RoundTrip

/-!
# The columns of a query

A column of a query is what stands after the last dot of a word.  The word is a
name, but this says nothing about the part after the dot: it may be empty, begin
with a digit or be a keyword, and then it is no name by itself.

* `Select.columnNames` : the names in the places of columns.
* `Yields.columnNames` : what holds of each single column name holds of all of
  them.
* `columnNames_of_ofSql` : where the columns of a query come from, and which of
  them are read as a name again.
-/

namespace CqlCompiler

open CqlCompiler.Parser

/-- The names that are listed. -/
def Projection.names : Projection → List String
  | .all => []
  | .columns names => names

/-- The names in the places of columns: those that are listed, those that are
compared, and the one that orders the rows. -/
def Select.columnNames (query : Select) : List String :=
  query.projection.names ++ query.conditions.map (·.column) ++ query.order.toList.map (·.column)

theorem Projection.mem_of_mem_names_ofNames {names : List String} {name : String}
    (h : name ∈ (ofNames names).names) : name ∈ names := by
  unfold ofNames at h
  split at h
  · cases h
  · exact h

/-! ## All columns -/

section Yields

variable {Item : Token → Prop} {Result : String → Prop}

theorem Yields.conditionColumns (h : Yields Item SpellsColumnName Result) :
    Yields Item SpellsConditions fun conditions =>
      ∀ condition ∈ conditions, Result condition.column := by
  have hcondition : Yields Item SpellsCondition fun condition => Result condition.column := by
    intro phrase condition hspells hitems
    obtain ⟨hcolumn, -⟩ := hspells
    exact h _ _ hcolumn (List.forall_mem_append.mp hitems).1
  exact hcondition.conditions

/-- What holds of a single column name holds of all columns of a query. -/
theorem Yields.columnNames (h : Yields Item SpellsColumnName Result) :
    Yields Item SpellsSelect fun query => ∀ name ∈ query.columnNames, Result name := by
  intro phrase query hspells hitems
  obtain ⟨table, hnames, hconditions, hoptions⟩ := hspells
  have hlisted := h.separated _ _ _ hnames fun token htoken => hitems token (by simp [htoken])
  have hcompared := h.conditionColumns _ _ hconditions fun token htoken =>
    hitems token (by simp [htoken])
  have hsorted := h.orderColumn hoptions fun token htoken => hitems token (by simp [htoken])
  intro name hname
  rw [Select.columnNames, List.mem_append, List.mem_append] at hname
  rcases hname with (hname | hname) | hname
  · exact hlisted name (Projection.mem_of_mem_names_ofNames hname)
  · obtain ⟨condition, hcondition, rfl⟩ := List.mem_map.mp hname
    exact hcompared condition hcondition
  · obtain ⟨order, horder, rfl⟩ := List.mem_map.mp hname
    exact hsorted order (Option.mem_toList.mp horder)

end Yields

/-! ## Columns as words -/

/-- A name is what is read as this one identifier. -/
theorem Token.tokenize_eq_identifier_iff {name : String} :
    tokenize name = .ok [⟨.identifier, name⟩] ↔ IsName name := by
  constructor
  · intro h
    exact isName_of_wellShaped (wellShaped_of_tokenize h _ (List.mem_singleton_self _))
  · intro h
    have hcut := lexes_name h [] [] (notAt_nil _) (.nil (.nil _))
    rw [List.append_nil, List.append_nil] at hcut
    exact tokenize_eq_ok_iff_scan.mpr (scan_of_cutsInto hcut)

/-- What stands after a dot is a name again, but for three cases. -/
theorem IsColumnWord.isName_iff {name : String} (h : IsColumnWord name) :
    IsName name ↔
      name ≠ "" ∧ NotAt Char.isDigit name.toList ∧ Text.upper name ∉ Token.keywords := by
  constructor
  · intro hname
    refine ⟨?_, (notAt_or.mp hname.begins).2, hname.unreserved⟩
    rintro rfl
    exact hname.ne_nil rfl
  · intro ⟨hne, hdigit, hunreserved⟩
    refine ⟨fun hnil => hne (String.toList_injective hnil), h.chars, ?_, hunreserved⟩
    refine notAt_or.mpr ⟨?_, hdigit⟩
    intro c hc
    rw [beq_eq_false_iff_ne]
    rintro rfl
    exact h.no_dot (List.mem_of_mem_head? hc)

/-- The columns of a query of a text.

* Each is what stands after the last dot of an identifier of the text, so it is a
  name wherever the identifier has no dot.
* It has word characters without a dot only.
* It is read as one identifier again exactly if it is not empty, does not begin
  with a digit and is no keyword. -/
theorem columnNames_of_ofSql {sql : String} {query : Select}
    (h : Statement.ofSql sql = .ok (.select query)) :
    ∃ tokens, Token.tokenize sql = .ok tokens ∧ ∀ name ∈ query.columnNames,
      (∃ word, ⟨.identifier, word⟩ ∈ tokens ∧ name = Text.unqualified word ∧
        ('.' ∉ word.toList →
          name ≠ "" ∧ Token.tokenize name = .ok [⟨.identifier, name⟩])) ∧
      (∀ c ∈ name.toList, Token.isWordChar c = true ∧ c ≠ '.') ∧
      (name ≠ "" ∧ Token.tokenize name = .ok [⟨.identifier, name⟩] ↔
        name ≠ "" ∧ NotAt Char.isDigit name.toList ∧ Text.upper name ∉ Token.keywords) := by
  obtain ⟨tokens, htokens, hstatement⟩ := Statement.ofSql_eq_ok_iff.mp h
  have hshaped := Token.wellShaped_of_tokenize htokens
  refine ⟨tokens, htokens, ?_⟩
  have hcolumn : Yields (· ∈ tokens) SpellsColumnName fun name =>
      ∃ word, ⟨.identifier, word⟩ ∈ tokens ∧ name = Text.unqualified word := by
    intro phrase name hspells hitems
    obtain ⟨word⟩ := hspells
    exact ⟨word, hitems _ (by simp), rfl⟩
  obtain ⟨phrase, ending, hbare, -, rfl⟩ :=
    (Statement.ofTokens_eq_ok_iff.mp hstatement).exists_bare
  cases hbare with
  | select hspells =>
    intro name hname
    obtain ⟨word, hword, rfl⟩ := hcolumn.columnNames _ _ hspells
      (fun token htoken => List.mem_append_left _ htoken) name hname
    have hwordName := isName_of_wellShaped (hshaped _ hword)
    have hsegment := hwordName.isColumnWord
    have hreads (name : String) :
        name ≠ "" ∧ Token.tokenize name = .ok [⟨.identifier, name⟩] ↔ IsName name := by
      rw [Token.tokenize_eq_identifier_iff, and_iff_right_iff_imp]
      rintro hfound rfl
      exact hfound.ne_nil rfl
    refine ⟨⟨word, hword, rfl, fun hdot => ?_⟩, fun c hc => ⟨hsegment.chars c hc, ?_⟩, ?_⟩
    · rw [unqualified_of_not_mem hdot, hreads]
      exact hwordName
    · rintro rfl
      exact hsegment.no_dot hc
    · rw [hreads, hsegment.isName_iff]

/-- The three ways for a column to be no name, beside one that is a name. -/
theorem columnNames_of_ofSql_of_dotted_words :
    Statement.ofSql "SELECT t., t.1, t.id FROM x WHERE t.from = ?" =
        .ok (.select ⟨.columns ["", "1", "id"], "x", [⟨"from", .placeholder⟩], none, none⟩) ∧
      compile "SELECT t., t.1, t.id FROM x WHERE t.from = ?" =
        .ok "SELECT , 1, id FROM x WHERE from = ?;" ∧
      (∀ name ∈ ["", "1", "from"],
        ¬(name ≠ "" ∧ Token.tokenize name = .ok [⟨.identifier, name⟩])) ∧
      Token.tokenize "id" = .ok [⟨.identifier, "id"⟩] := by
  have hsql : Statement.ofSql "SELECT t., t.1, t.id FROM x WHERE t.from = ?" =
      .ok (.select ⟨.columns ["", "1", "id"], "x", [⟨"from", .placeholder⟩], none, none⟩) :=
    Statement.ofSql_eq_ok_of_toOption (by decide +kernel)
  obtain ⟨tokens, -, hcolumns⟩ := columnNames_of_ofSql hsql
  refine ⟨hsql, ?_, ?_, ?_⟩
  · rw [compile, hsql]
    exact congrArg Except.ok (by decide)
  · intro name hname
    have hmem : ∀ name ∈ ["", "1", "from"], name ∈ ["", "1", "id", "from"] := by decide
    have hcases : ∀ name ∈ ["", "1", "from"],
        ¬(name ≠ "" ∧ NotAt Char.isDigit name.toList ∧ Text.upper name ∉ Token.keywords) := by
      decide
    exact mt (hcolumns name (hmem name hname)).2.2.mp (hcases name hname)
  · exact ((hcolumns "id" (by decide)).2.2.mpr (by decide)).2

end CqlCompiler
