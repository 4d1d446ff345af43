import CqlCompiler.Proofs.Reading.Statements
import Mathlib.Data.List.DropRight

/-!
# What the definition of a table means

A table is defined by columns and key clauses in any order, and a column by its
name, its type and remarks in any order.  `TableDefinition` keeps all of this as
it is written, and `TableDefinition.meaning` says what is made of it, without
reading from left to right: of several remarks on the same matter the last one
holds, and the key is what the last key clause names and what the columns after
that clause add.

There are three groups.

* The last word.  `constraintsOf_eq` and `keyOf_map_element` compare what is
  collected from left to right with the last remark and the last key clause.
* Spellings.  `spellsElement_iff` says that a part of a table is spelled as it
  is written, and `separated_map_iff` carries this over to lists.
* Statements.  `ofTokens_eq_createTable_iff` is the result.
-/

namespace CqlCompiler

open CqlCompiler.Parser CqlCompiler.TokenParser

/-! ## Definitions and their meaning -/

/-- Whether null is allowed, if the remark says so. -/
def ColumnClause.nullability? : ColumnClause → Option Bool
  | .nullable allowed => some allowed
  | _ => none

/-- The default, if the remark gives one. -/
def ColumnClause.default? : ColumnClause → Option Value
  | .default value => some value
  | _ => none

/-- The definition of a column as it is written.  The sizes after its type may
be missing. -/
structure ColumnDefinition where
  name : String
  typeName : String
  sizes : List String
  clauses : List ColumnClause
  deriving DecidableEq, Repr

/-- The column that is defined.  The last remark on null and the last default
hold; a column may be null if nothing is said. -/
def ColumnDefinition.column (definition : ColumnDefinition) : Column where
  name := definition.name
  type := .ofName definition.typeName
  constraints := {
    nullable := (definition.clauses.filterMap ColumnClause.nullability?).getLast?.getD true
    default := (definition.clauses.filterMap ColumnClause.default?).getLast? }

/-- A part of the definition of a table as it is written. -/
inductive TablePart where
  | column (definition : ColumnDefinition)
  | key (names : List String)
  deriving DecidableEq, Repr

namespace TablePart

/-- The column, if the part defines one. -/
def column? : TablePart → Option Column
  | .column definition => some definition.column
  | .key _ => none

/-- The columns of the key, if the part is a key clause. -/
def key? : TablePart → Option (List String)
  | .column _ => none
  | .key names => some names

/-- The column, if the part defines one and says that it is in the key. -/
def keyColumn? : TablePart → Option String
  | .column definition => if .primaryKey ∈ definition.clauses then some definition.name else none
  | .key _ => none

end TablePart

/-- The definition of a table as it is written.  At least one part is a column. -/
structure TableDefinition where
  table : String
  ifNotExists : Bool
  parts : List TablePart
  hasColumn : ∃ definition, .column definition ∈ parts

namespace TableDefinition

/-- The columns of the last key clause, if there is one, and then each column
after that clause that is said to be in the key. -/
def key (parts : List TablePart) : List String :=
  (parts.filterMap TablePart.key?).getLast?.getD []
    ++ (parts.rtakeWhile (·.key?.isNone)).filterMap TablePart.keyColumn?

/-- The statement that makes the table. -/
def meaning (definition : TableDefinition) : CreateTable where
  table := definition.table
  ifNotExists := definition.ifNotExists
  columns := definition.parts.filterMap TablePart.column?
  primaryKey := key definition.parts

end TableDefinition

/-! ## The last word -/

/-- Of two remarks on the same matter the later one holds, so the last one of
all does. -/
theorem constraintsOf_eq (clauses : List ColumnClause) :
    constraintsOf clauses =
      { nullable := (clauses.filterMap ColumnClause.nullability?).getLast?.getD true
        default := (clauses.filterMap ColumnClause.default?).getLast? } := by
  induction clauses using List.reverseRecOn with
  | nil => rfl
  | append_singleton clauses clause ih =>
    rw [constraintsOf, List.foldl_append, ← constraintsOf, ih]
    cases clause <;> simp [ColumnClause.nullability?, ColumnClause.default?]

/-- The part as it is collected with the others. -/
def TablePart.element : TablePart → TableElement
  | .column definition => .column definition.column (definition.clauses.contains .primaryKey)
  | .key names => .primaryKey names

theorem columnsOf_map_element (parts : List TablePart) :
    columnsOf (parts.map TablePart.element) = parts.filterMap TablePart.column? := by
  rw [columnsOf, List.filterMap_map]
  congr 1
  funext part
  cases part <;> rfl

/-- A key clause replaces what was said before it, so only the last one and what
comes after it are left. -/
theorem keyOf_map_element (parts : List TablePart) :
    keyOf (parts.map TablePart.element) = TableDefinition.key parts := by
  induction parts using List.reverseRecOn with
  | nil => rfl
  | append_singleton parts part ih =>
    rw [List.map_append, keyOf, List.foldl_append, ← keyOf, ih]
    cases part with
    | key names => simp [TablePart.element, TableDefinition.key, TablePart.key?]
    | column definition =>
      by_cases hkey : .primaryKey ∈ definition.clauses
      · simp [TablePart.element, TableDefinition.key, TablePart.key?, TablePart.keyColumn?, hkey,
          ColumnDefinition.column]
      · simp [TablePart.element, TableDefinition.key, TablePart.key?, TablePart.keyColumn?, hkey]

example : keyOf [.column ⟨"a", .int, {}⟩ true, .primaryKey ["x", "b"],
    .column ⟨"b", .text, {}⟩ true] = ["x", "b", "b"] := by decide

/-! ## Spellings -/

/-- The sizes after a type, or nothing. -/
inductive SpellsSizeList : List Token → List String → Prop where
  | none : SpellsSizeList [] []
  | some {phrase : List Token} {texts : List String}
      (hsizes : Parenthesised (CommaSeparated SpellsNumber) phrase texts) :
      SpellsSizeList phrase texts

/-- A column or a key clause. -/
inductive SpellsPart : List Token → TablePart → Prop where
  | column (definition : ColumnDefinition) {sizes remarks : List Token}
      (hsizes : SpellsSizeList sizes definition.sizes)
      (hclauses : Repeated SpellsClause remarks definition.clauses) :
      SpellsPart
        (⟨.identifier, definition.name⟩ :: ⟨.identifier, definition.typeName⟩ ::
          (sizes ++ remarks))
        (.column definition)
  | key {phrase : List Token} {names : List String}
      (hnames : Parenthesised (CommaSeparated SpellsName) phrase names) :
      SpellsPart (⟨.keyword, "PRIMARY"⟩ :: ⟨.keyword, "KEY"⟩ :: phrase) (.key names)

/-- The words of the statement, its parts with commas between them and perhaps
one after the last, and perhaps a semicolon. -/
inductive TableDefinition.Spelled (definition : TableDefinition) : List Token → Prop where
  | intro {guard body comma semicolon : List Token}
      (hguard : SpellsIfNotExists guard definition.ifNotExists)
      (hbody : CommaSeparated SpellsPart body definition.parts)
      (hcomma : comma = [] ∨ comma = [⟨.symbol, ","⟩])
      (hsemicolon : semicolon = [] ∨ semicolon = [⟨.symbol, ";"⟩]) :
      Spelled definition
        (⟨.keyword, "CREATE"⟩ :: ⟨.keyword, "TABLE"⟩ :: (guard ++ ⟨.identifier, definition.table⟩ ::
          ⟨.symbol, "("⟩ :: (body ++ comma ++ ⟨.symbol, ")"⟩ :: semicolon)))

theorem spellsSizes_iff {phrase : List Token} :
    SpellsSizes phrase () ↔ ∃ texts, SpellsSizeList phrase texts := by
  constructor
  · intro h
    cases h with
    | none => exact ⟨[], .none⟩
    | some hsizes => exact ⟨_, .some hsizes⟩
  · intro ⟨texts, h⟩
    cases h with
    | none => exact .none
    | some hsizes => exact .some hsizes

theorem spellsElement_iff (phrase : List Token) (element : TableElement) :
    SpellsElement phrase element ↔ ∃ part, SpellsPart phrase part ∧ part.element = element := by
  constructor
  · intro h
    cases h with
    | @column name typeName sizes remarks clauses hsizes hclauses =>
      obtain ⟨texts, htexts⟩ := spellsSizes_iff.mp hsizes
      refine ⟨_, .column ⟨name, typeName, texts, clauses⟩ htexts hclauses, ?_⟩
      rw [constraintsOf_eq]
      rfl
    | primaryKey hnames => exact ⟨_, .key hnames, rfl⟩
  · intro ⟨part, h, helement⟩
    subst helement
    cases h with
    | column definition hsizes hclauses =>
      have hcolumn := SpellsElement.column definition.name definition.typeName
        (spellsSizes_iff.mpr ⟨_, hsizes⟩) hclauses
      rw [constraintsOf_eq] at hcolumn
      exact hcolumn
    | key hnames => exact .primaryKey hnames

section

variable {τ α β : Type} {Spells : List τ → α → Prop} {Spells' : List τ → β → Prop} {f : α → β}

/-- If phrases spell the images of what they spell by another relation, so do
phrases in a row. -/
theorem repeated_map_iff
    (h : ∀ phrase result,
      Spells' phrase result ↔ ∃ source, Spells phrase source ∧ f source = result)
    {phrases : List τ} {results : List β} :
    Repeated Spells' phrases results ↔
      ∃ sources, Repeated Spells phrases sources ∧ sources.map f = results := by
  constructor
  · intro hphrases
    induction hphrases with
    | nil => exact ⟨[], .nil, rfl⟩
    | cons hphrase _ ih =>
      obtain ⟨source, hsource, rfl⟩ := (h _ _).mp hphrase
      obtain ⟨sources, hsources, rfl⟩ := ih
      exact ⟨source :: sources, .cons hsource hsources, rfl⟩
  · intro ⟨sources, hsources, hresults⟩
    subst hresults
    induction hsources with
    | nil => exact .nil
    | cons hsource _ ih => exact .cons ((h _ _).mpr ⟨_, hsource, rfl⟩) ih

theorem separated_map_iff {mark : τ}
    (h : ∀ phrase result,
      Spells' phrase result ↔ ∃ source, Spells phrase source ∧ f source = result)
    {phrase : List τ} {results : List β} :
    Separated mark Spells' phrase results ↔
      ∃ sources, Separated mark Spells phrase sources ∧ sources.map f = results := by
  have hmarked : ∀ phrase result, Marked mark Spells' phrase result ↔
      ∃ source, Marked mark Spells phrase source ∧ f source = result := by
    intro phrase result
    constructor
    · intro ⟨hphrase⟩
      obtain ⟨source, hsource, rfl⟩ := (h _ _).mp hphrase
      exact ⟨source, .intro hsource, rfl⟩
    · rintro ⟨source, ⟨hsource⟩, hresult⟩
      exact .intro ((h _ _).mpr ⟨source, hsource, hresult⟩)
  constructor
  · intro ⟨hphrase, hothers⟩
    obtain ⟨source, hsource, rfl⟩ := (h _ _).mp hphrase
    obtain ⟨sources, hsources, rfl⟩ := (repeated_map_iff hmarked).mp hothers
    exact ⟨source :: sources, .intro hsource hsources, rfl⟩
  · rintro ⟨sources, ⟨hsource, hsources⟩, rfl⟩
    exact .intro ((h _ _).mpr ⟨_, hsource, rfl⟩)
      ((repeated_map_iff hmarked).mpr ⟨_, hsources, rfl⟩)

end

/-! ## Statements -/

theorem columnsOf_map_element_ne_nil_iff {parts : List TablePart} :
    columnsOf (parts.map TablePart.element) ≠ [] ↔ ∃ definition, .column definition ∈ parts := by
  rw [columnsOf_map_element]
  constructor
  · intro h
    obtain ⟨column, hcolumn⟩ := List.exists_mem_of_ne_nil _ h
    obtain ⟨part, hpart, hcolumn⟩ := List.mem_filterMap.mp hcolumn
    cases part with
    | column definition => exact ⟨definition, hpart⟩
    | key names => cases hcolumn
  · intro ⟨definition, hpart⟩
    exact List.ne_nil_of_mem (List.mem_filterMap.mpr ⟨_, hpart, rfl⟩)

theorem spellsElements_iff {body : List Token} {elements : List TableElement} :
    SpellsElements body elements ↔
      ∃ phrase comma parts, CommaSeparated SpellsPart phrase parts ∧
        (comma = [] ∨ comma = [⟨.symbol, ","⟩]) ∧ body = phrase ++ comma ∧
        parts.map TablePart.element = elements := by
  have hparts {phrase : List Token} : CommaSeparated SpellsElement phrase elements ↔
      ∃ parts, CommaSeparated SpellsPart phrase parts ∧ parts.map TablePart.element = elements :=
    separated_map_iff spellsElement_iff
  constructor
  · intro h
    cases h with
    | plain helements =>
      obtain ⟨parts, hphrase, hparts⟩ := hparts.mp helements
      exact ⟨body, [], parts, hphrase, .inl rfl, (List.append_nil _).symm, hparts⟩
    | comma helements =>
      obtain ⟨parts, hphrase, hparts⟩ := hparts.mp helements
      exact ⟨_, _, parts, hphrase, .inr rfl, rfl, hparts⟩
  · rintro ⟨phrase, comma, parts, hphrase, rfl | rfl, rfl, helements⟩
    · rw [List.append_nil]
      exact .plain (hparts.mpr ⟨parts, hphrase, helements⟩)
    · exact .comma (hparts.mpr ⟨parts, hphrase, helements⟩)

theorem spellsCreateTable_iff {tokens : List Token} {create : CreateTable} :
    (∃ phrase semicolon, SpellsCreateTable phrase create ∧
        (semicolon = [] ∨ semicolon = [⟨.symbol, ";"⟩]) ∧ tokens = phrase ++ semicolon) ↔
      ∃ definition : TableDefinition, definition.Spelled tokens ∧ definition.meaning = create := by
  constructor
  · rintro ⟨_, semicolon, hcreate, hsemicolon, rfl⟩
    obtain @⟨guard, body, ifNotExists, elements, table, hguard, hbody, hcolumns⟩ := hcreate
    obtain ⟨phrase, comma, parts, hphrase, hcomma, rfl, rfl⟩ := spellsElements_iff.mp hbody
    let definition : TableDefinition :=
      ⟨table, ifNotExists, parts, columnsOf_map_element_ne_nil_iff.mp hcolumns⟩
    have hspelled : definition.Spelled _ := .intro hguard hphrase hcomma hsemicolon
    refine ⟨definition, by simpa using hspelled, ?_⟩
    simp only [columnsOf_map_element, keyOf_map_element]
    rfl
  · rintro ⟨⟨table, ifNotExists, parts, hasColumn⟩, ⟨hguard, hbody, hcomma, hsemicolon⟩, rfl⟩
    have hparts := spellsElements_iff.mpr ⟨_, _, parts, hbody, hcomma, rfl, rfl⟩
    have hcreate := SpellsCreateTable.intro table hguard hparts
      (columnsOf_map_element_ne_nil_iff.mpr hasColumn)
    rw [columnsOf_map_element, keyOf_map_element] at hcreate
    exact ⟨_, _, hcreate, hsemicolon, by simp⟩

/-- The tokens that are read as a statement that makes a table are those that
spell the definition of a table, and the statement is what the definition means. -/
theorem ofTokens_eq_createTable_iff {tokens : List Token} {create : CreateTable} :
    Statement.ofTokens tokens = .ok (.createTable create) ↔
      ∃ definition : TableDefinition, definition.Spelled tokens ∧ definition.meaning = create := by
  rw [Statement.ofTokens_eq_ok_iff, ← spellsCreateTable_iff]
  constructor
  · intro h
    obtain ⟨phrase, semicolon, ⟨hcreate⟩, hsemicolon, htokens⟩ := h.exists_bare
    exact ⟨phrase, semicolon, hcreate, hsemicolon, htokens⟩
  · rintro ⟨phrase, semicolon, hcreate, rfl | rfl, rfl⟩
    · rw [List.append_nil]
      exact .plain (.createTable hcreate)
    · exact .semicolon (.createTable hcreate)

end CqlCompiler
