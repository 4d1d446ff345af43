import CqlCompiler.Proofs.Places
import CqlCompiler.Statement.Cql
import Mathlib

/-!
# Integers and row counts

A number in the place of a value is the integer that it denotes, if that is a
64-bit integer, and an error otherwise; a number in the place of a row count is
treated likewise.  No digit is lost however long the number is.  In CQL the
integer has its shortest numeral, which is read as the same integer.

There are three groups, and `numbers_exact` puts them together.

* Numerals.  `Shortest` says which numeral is the shortest one.
* Places.  A number is read wherever a value or a row count is.
* CQL text.  A numeral stands in the text where its value stands in the statement.
-/

namespace CqlCompiler

/-! ## Numerals -/

namespace Text.Numeral

/-- The numeral of the integer without a plus sign and without superfluous
zeros. -/
def Shortest (text : String) (n : Int) : Prop :=
  ∃ digits, text.toList = (if n < 0 then ['-'] else []) ++ digits ∧ digits ≠ [] ∧
    (∀ c ∈ digits, c.isDigit = true) ∧ (digits.head? = some '0' → digits = ['0']) ∧
    n.natAbs = Nat.ofDigitChars 10 digits 0

/-- A written number begins with a zero only if it is zero. -/
theorem toDigits_of_head_zero (n : Nat) (h : (Nat.toDigits 10 n).head? = some '0') :
    Nat.toDigits 10 n = ['0'] := by
  induction n using Nat.strongRecOn with
  | ind n ih =>
    rcases Nat.lt_or_ge n 10 with hlt | hge
    · rw [Nat.toDigits_of_lt_base hlt] at h ⊢
      simpa using h
    · -- a number with several digits begins as its tenth part does, which is not zero
      have hsome : (Nat.toDigits 10 (n / 10)).head?.isSome = true :=
        List.isSome_head?.mpr Nat.toDigits_ne_nil
      rw [Nat.toDigits_of_base_le (by decide) hge, List.head?_append,
        Option.or_of_isSome hsome] at h
      have htenth := congrArg (Nat.ofDigitChars 10 · 0) (ih (n / 10) (by omega) h)
      rw [Nat.ofDigitChars_ten_toDigits] at htenth
      have hzero : n / 10 = 0 := htenth
      omega

theorem shortest_of_toList {text : String} {n : Int}
    (h : text.toList = (if n < 0 then ['-'] else []) ++ Nat.toDigits 10 n.natAbs) :
    Shortest text n :=
  ⟨_, h, Nat.toDigits_ne_nil,
    fun _ hc => Nat.isDigit_of_mem_toDigits (by decide) (by decide) hc,
    toDigits_of_head_zero _, Nat.ofDigitChars_ten_toDigits.symm⟩

theorem shortest_ofSigned (word : Int64) : Shortest (ofSigned word) word.toInt := by
  apply shortest_of_toList
  rw [ofSigned]
  split <;> simp [ofNat]

theorem shortest_ofUnsigned (word : UInt64) : Shortest (ofUnsigned word) word.toNat := by
  apply shortest_of_toList
  rw [if_neg (by omega)]
  simp [ofUnsigned, ofNat]

theorem Shortest.denotesInteger {text : String} {n : Int} (h : Shortest text n) :
    DenotesInteger text n := by
  obtain ⟨digits, htext, hne, hdigits, -, hn⟩ := h
  split at htext
  · exact .inr ⟨n.natAbs, ⟨digits, htext, hne, hdigits, hn⟩, by omega⟩
  · exact .inl ⟨n.natAbs, .inl ⟨digits, htext, hne, hdigits, hn⟩, by omega⟩

theorem Shortest.denotesCount {text : String} {n : Nat} (h : Shortest text n) :
    DenotesCount text n := by
  obtain ⟨digits, htext, hne, hdigits, -, hn⟩ := h
  rw [if_neg (by omega)] at htext
  exact .inl ⟨digits, htext, hne, hdigits, hn⟩

theorem exists_int64_iff {n : Int} :
    (∃ word : Int64, word.toInt = n) ↔ -2 ^ 63 ≤ n ∧ n ≤ 2 ^ 63 - 1 := by
  constructor
  · rintro ⟨word, rfl⟩
    exact ⟨word.le_toInt, Int.le_sub_one_of_lt word.toInt_lt⟩
  · rintro ⟨hmin, hmax⟩
    exact ⟨.ofInt n, Int64.toInt_ofInt_of_le hmin (Int.lt_of_le_sub_one hmax)⟩

theorem exists_uint64_iff {n : Nat} : (∃ word : UInt64, word.toNat = n) ↔ n ≤ 2 ^ 64 - 1 := by
  constructor
  · rintro ⟨word, rfl⟩
    exact Nat.le_sub_one_of_lt word.toNat_lt
  · intro h
    exact ⟨.ofNat n, UInt64.toNat_ofNat_of_lt' (Nat.lt_of_le_sub_one (by decide) h)⟩

end Text.Numeral

/-! ## Places -/

namespace TokenParser

open CqlCompiler.Parser CqlCompiler.Text.Numeral

variable {text : String} {rest : List Token}

theorem valueOfToken_number_eq_ok_iff {word : Int64} :
    valueOfToken ⟨.number, text⟩ = .ok (.int word) ↔ DenotesInteger text word.toInt := by
  rw [← signed?_eq_some_iff, valueOfToken]
  cases signed? text <;> simp

theorem valueOfToken_number_eq_error (h : ∀ word : Int64, ¬DenotesInteger text word.toInt) :
    valueOfToken ⟨.number, text⟩ = .error (.unexpected .integer (.number text)) := by
  have hnone : signed? text = none :=
    Option.eq_none_iff_forall_ne_some.mpr fun word hword => h word (signed?_eq_some_iff.mp hword)
  rw [valueOfToken, hnone]

theorem rowCount_number_eq_ok_iff {word : UInt64} :
    rowCount (⟨.number, text⟩ :: rest) = .ok (word, rest) ↔ DenotesCount text word.toNat := by
  rw [← unsigned?_eq_some_iff, rowCount_number]
  cases unsigned? text <;> simp

theorem rowCount_number_eq_error (h : ∀ word : UInt64, ¬DenotesCount text word.toNat) :
    rowCount (⟨.number, text⟩ :: rest) = .error (.unexpected .rowCount (.number text)) := by
  have hnone : unsigned? text = none :=
    Option.eq_none_iff_forall_ne_some.mpr fun word hword => h word (unsigned?_eq_some_iff.mp hword)
  rw [rowCount_number, hnone]

end TokenParser

open CqlCompiler.Parser CqlCompiler.TokenParser CqlCompiler.Text.Numeral

theorem ValuePlace.reader_number {before : List Token} {reader : TokenParser Value}
    {Holds : Statement → Value → Prop} (h : ValuePlace before reader Holds) {text : String}
    {rest : List Token} (hdecimal : ¬AtDecimal (⟨.number, text⟩ :: rest)) :
    reader (⟨.number, text⟩ :: rest) = (valueOfToken ⟨.number, text⟩).map (·, rest) := by
  have hvalue := value_of_not_atDecimal hdecimal
  cases h with
  | condition => exact hvalue
  | row => exact hvalue
  | default =>
    refine (defaultValue_of_notAt ?_).trans hvalue
    simp [Token.isSymbol]

/-- The integer that a number in the place of a value denotes. -/
theorem ValuePlace.exists_int_iff {before : List Token} {reader : TokenParser Value}
    {Holds : Statement → Value → Prop} (h : ValuePlace before reader Holds) {text : String}
    {rest : List Token} (hdecimal : ¬AtDecimal (⟨.number, text⟩ :: rest)) (n : Int) :
    (∃ word : Int64, word.toInt = n ∧ reader (⟨.number, text⟩ :: rest) = .ok (.int word, rest)) ↔
      DenotesInteger text n ∧ -2 ^ 63 ≤ n ∧ n ≤ 2 ^ 63 - 1 := by
  have hok (word : Int64) : reader (⟨.number, text⟩ :: rest) = .ok (.int word, rest) ↔
      DenotesInteger text word.toInt := by
    rw [h.reader_number hdecimal, ← valueOfToken_number_eq_ok_iff]
    cases valueOfToken ⟨.number, text⟩ <;> simp [Except.map]
  rw [← exists_int64_iff]
  constructor
  · rintro ⟨word, rfl, hword⟩
    exact ⟨(hok word).mp hword, word, rfl⟩
  · rintro ⟨hdenotes, word, rfl⟩
    exact ⟨word, rfl, (hok word).mpr hdenotes⟩

theorem ofTokens_eq_error {β : Type} {before items : List Token} {inner : TokenParser β}
    {Holds : Statement → β → Prop} {cause : CompileError}
    (h : Reaches before inner wholeStatement Holds) (hinner : inner items = .error cause) :
    Statement.ofTokens (before ++ items) = .error cause := by
  show (wholeStatement (before ++ items)).map _ = _
  rw [h.eq_error hinner]
  rfl

theorem exists_count_iff {text : String} {rest : List Token} (n : Nat) :
    (∃ word : UInt64, word.toNat = n ∧ rowCount (⟨.number, text⟩ :: rest) = .ok (word, rest)) ↔
      DenotesCount text n ∧ n ≤ 2 ^ 64 - 1 := by
  rw [← exists_uint64_iff]
  constructor
  · rintro ⟨word, rfl, hword⟩
    exact ⟨rowCount_number_eq_ok_iff.mp hword, word, rfl⟩
  · rintro ⟨hdenotes, word, rfl⟩
    exact ⟨word, rfl, rowCount_number_eq_ok_iff.mpr hdenotes⟩

/-! ## CQL text -/

/-- The text of a query with these clauses for its conditions and its row count. -/
def Select.toCqlWith (query : Select) (whereClause limitClause : String) : String :=
  "SELECT " ++ query.projection.toCql ++ " FROM " ++ query.table
    ++ whereClause ++ limitClause ++ ";"

theorem Select.toCql_eq (query : Select) :
    query.toCql = query.toCqlWith query.whereClause query.limitClause :=
  rfl

theorem Select.whereClause_of_conditions {query : Select} {earlier later : List Condition}
    {column : String} {v : Value} (h : query.conditions = earlier ++ ⟨column, v⟩ :: later) :
    query.whereClause = " WHERE " ++ " AND ".intercalate (earlier.map Condition.toCql ++
      (column ++ " = " ++ v.toCql) :: later.map Condition.toCql) := by
  rw [whereClause, h, if_neg (by simp), List.map_append, List.map_cons, Condition.toCql]

theorem Select.limitClause_of_limit {query : Select} {count : UInt64}
    (h : query.limit = some count) : query.limitClause = " LIMIT " ++ ofUnsigned count := by
  rw [limitClause, h]

/-- The text of a row with this text for its values. -/
def Insert.toCqlWith (row : Insert) (valueList : String) : String :=
  "INSERT INTO " ++ row.table ++ " (" ++ ", ".intercalate row.columns ++ ") VALUES ("
    ++ valueList ++ ");"

theorem Insert.toCql_eq (row : Insert) :
    row.toCql = row.toCqlWith (", ".intercalate (row.values.map Value.toCql)) :=
  rfl

/-! ## Result -/

/-- Numbers are converted exactly in both directions.  In the place of a value a
number is read as the integer that it denotes, and it is an error if that is no
64-bit integer or if it denotes none; in the place of a row count likewise.  The
numerals that are written are the shortest ones and are read as the same number. -/
theorem numbers_exact :
    (∀ before reader Holds, ValuePlace before reader Holds →
      Reaches before reader wholeStatement Holds ∧
      ∀ text rest, ¬AtDecimal (⟨.number, text⟩ :: rest) →
        (∀ n : Int, (∃ word : Int64, word.toInt = n ∧
            reader (⟨.number, text⟩ :: rest) = .ok (.int word, rest)) ↔
          DenotesInteger text n ∧ -2 ^ 63 ≤ n ∧ n ≤ 2 ^ 63 - 1) ∧
        ((¬∃ n, DenotesInteger text n ∧ -2 ^ 63 ≤ n ∧ n ≤ 2 ^ 63 - 1) →
          Statement.ofTokens (before ++ ⟨.number, text⟩ :: rest) =
            .error (.unexpected .integer (.number text)))) ∧
    (∀ before, CountPlace before →
      Reaches before rowCount wholeStatement (fun statement count =>
        ∃ query, statement = .select query ∧ query.limit = some count) ∧
      ∀ text rest,
        (∀ n : Nat, (∃ word : UInt64, word.toNat = n ∧
            rowCount (⟨.number, text⟩ :: rest) = .ok (word, rest)) ↔
          DenotesCount text n ∧ n ≤ 2 ^ 64 - 1) ∧
        ((¬∃ n, DenotesCount text n ∧ n ≤ 2 ^ 64 - 1) →
          Statement.ofTokens (before ++ ⟨.number, text⟩ :: rest) =
            .error (.unexpected .rowCount (.number text)))) ∧
    (Expectation.integer.description = "integer" ∧
      Expectation.rowCount.description = "row count") ∧
    (∀ word : Int64, Shortest (ofSigned word) word.toInt ∧ signed? (ofSigned word) = some word ∧
      (∀ (query : Select) (earlier later : List Condition) (column : String),
        query.conditions = earlier ++ ⟨column, .int word⟩ :: later →
        (Statement.select query).toCql = query.toCqlWith
          (" WHERE " ++ " AND ".intercalate (earlier.map Condition.toCql ++
            (column ++ " = " ++ ofSigned word) :: later.map Condition.toCql)) query.limitClause) ∧
      ∀ (row : Insert) (earlier later : List Value), row.values = earlier ++ .int word :: later →
        (Statement.insert row).toCql = row.toCqlWith
          (", ".intercalate (earlier.map Value.toCql ++
            ofSigned word :: later.map Value.toCql))) ∧
    ∀ word : UInt64, Shortest (ofUnsigned word) word.toNat ∧
      unsigned? (ofUnsigned word) = some word ∧
      ∀ query : Select, query.limit = some word →
        (Statement.select query).toCql =
          query.toCqlWith query.whereClause (" LIMIT " ++ ofUnsigned word) := by
  refine ⟨?_, ?_, ⟨rfl, rfl⟩, ?_, ?_⟩
  · intro before reader Holds hplace
    refine ⟨hplace.reaches, fun text rest hdecimal => ?_⟩
    refine ⟨hplace.exists_int_iff hdecimal, fun hnone => ofTokens_eq_error hplace.reaches ?_⟩
    rw [hplace.reader_number hdecimal, valueOfToken_number_eq_error]
    · rfl
    · exact fun word hword => hnone ⟨word.toInt, hword, exists_int64_iff.mp ⟨word, rfl⟩⟩
  · intro before hplace
    refine ⟨hplace.reaches, fun text rest => ⟨exists_count_iff, fun hnone => ?_⟩⟩
    refine ofTokens_eq_error hplace.reaches (rowCount_number_eq_error ?_)
    exact fun word hword => hnone ⟨word.toNat, hword, exists_uint64_iff.mp ⟨word, rfl⟩⟩
  · intro word
    have hshortest := shortest_ofSigned word
    have hnumeral : (Value.int word).toCql = ofSigned word := rfl
    refine ⟨hshortest, signed?_eq_some_iff.mpr hshortest.denotesInteger, ?_, ?_⟩
    · intro query earlier later column hsplit
      rw [Statement.toCql, Select.toCql_eq, Select.whereClause_of_conditions hsplit, hnumeral]
    · intro row earlier later hsplit
      rw [Statement.toCql, Insert.toCql_eq, hsplit, List.map_append, List.map_cons, hnumeral]
  · intro word
    have hshortest := shortest_ofUnsigned word
    refine ⟨hshortest, unsigned?_eq_some_iff.mpr hshortest.denotesCount, ?_⟩
    intro query hlimit
    rw [Statement.toCql, Select.toCql_eq, Select.limitClause_of_limit hlimit]

/-- The second value of a row is the greatest integer, or the one after it, and a
row count is the number after the greatest one. -/
theorem numbers_exact_of_greatest :
    (∃ word : Int64, word.toInt = 2 ^ 63 - 1 ∧
      value [⟨.number, "+0009223372036854775807"⟩, ⟨.symbol, ")"⟩] =
        .ok (.int word, [⟨.symbol, ")"⟩])) ∧
    Statement.ofTokens [⟨.keyword, "INSERT"⟩, ⟨.keyword, "INTO"⟩, ⟨.identifier, "t"⟩,
        ⟨.symbol, "("⟩, ⟨.identifier, "a"⟩, ⟨.symbol, ")"⟩, ⟨.keyword, "VALUES"⟩, ⟨.symbol, "("⟩,
        ⟨.symbol, "?"⟩, ⟨.symbol, ","⟩, ⟨.number, "9223372036854775808"⟩, ⟨.symbol, ")"⟩] =
      .error (.unexpected .integer (.number "9223372036854775808")) ∧
    Statement.ofTokens [⟨.keyword, "SELECT"⟩, ⟨.identifier, "a"⟩, ⟨.keyword, "FROM"⟩,
        ⟨.identifier, "t"⟩, ⟨.keyword, "LIMIT"⟩, ⟨.number, "18446744073709551616"⟩] =
      .error (.unexpected .rowCount (.number "18446744073709551616")) := by
  have hcolumns := Parenthesised.intro
    (Separated.intro (SpellsName.intro "a") .nil : CommaSeparated SpellsName _ _)
  have hearlier := Repeated.cons
    (Followed.intro SpellsValue.placeholder : Followed ⟨.symbol, ","⟩ SpellsValue _ _) .nil
  have hrow := numbers_exact.1 _ _ _ (ValuePlace.row "t" hcolumns hearlier)
  have hnames : CommaSeparated SpellsColumnName _ _ :=
    Separated.intro (SpellsColumnName.intro "a") .nil
  have hcount := numbers_exact.2.1 _ (CountPlace.intro "t" hnames .absent (.inl rfl))
  have hdecimal (text : String) : ¬AtDecimal [⟨.number, text⟩, ⟨.symbol, ")"⟩] :=
    not_atDecimal_of_notAt (by simp [Token.isSymbol])
  have hgreatest : signed? "+0009223372036854775807" = some Int64.maxValue := by decide
  have hinteger : signed? "9223372036854775808" = none := by decide
  have hnatural : unsigned? "18446744073709551616" = none := by decide
  refine ⟨?_, ?_, ?_⟩
  · refine ((hrow.2 _ _ (hdecimal _)).1 _).mpr ⟨?_, by decide, by decide⟩
    exact signed?_eq_some_iff.mp hgreatest
  · refine (hrow.2 _ _ (hdecimal _)).2 ?_
    rintro ⟨n, hdenotes, hfits⟩
    obtain ⟨word, rfl⟩ := exists_int64_iff.mpr hfits
    rw [← signed?_eq_some_iff, hinteger] at hdenotes
    cases hdenotes
  · refine (hcount.2 _ []).2 ?_
    rintro ⟨n, hdenotes, hfits⟩
    obtain ⟨word, rfl⟩ := exists_uint64_iff.mpr hfits
    rw [← unsigned?_eq_some_iff, hnatural] at hdenotes
    cases hdenotes

end CqlCompiler
