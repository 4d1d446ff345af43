import CqlCompiler.Proofs.Parsing
import CqlCompiler.Text.Dotted

/-!
# Reading quoted text back

A reader of CQL text knows a quoted text by its quotes alone: two quotes in a
row are one quote of the text, a quote with something else after it closes the
text.  So whatever is quoted can be read back, and what stands after it is left,
unless that begins with one more quote.

* `readQuoted_eq_ok_iff` : the reader of one quoted text accepts exactly what
  quoting writes.
* `readDotted_complete` : the same reader between dots finds each quoted segment
  of a name.
* `quoted_decodable` : literals and identifiers in any context.
-/

namespace CqlCompiler.Cql

open CqlCompiler.Parser CqlCompiler.Text

/-! ## One quoted text -/

/-- The text up to its closing quote and what follows that quote, read from
after the opening quote.  Two quotes are one quote of the text. -/
def quotedBody? (quote : Char) : List Char → Option (List Char × List Char)
  | [] => none
  | c :: rest =>
    if c = quote then
      match rest with
      | [] => some ([], [])
      | d :: rest' =>
        if d = quote then
          (quotedBody? quote rest').map fun (body, after) => (quote :: body, after)
        else
          some ([], d :: rest')
    else
      (quotedBody? quote rest).map fun (body, after) => (c :: body, after)

/-- Reads a text between two quotes. -/
def readQuoted (quote : Char) : Parser Char Unit (List Char)
  | [] => .error ()
  | c :: rest =>
    if c = quote then
      match quotedBody? quote rest with
      | some (body, after) => .ok (body, after)
      | none => .error ()
    else
      .error ()

/-- Reads texts between double quotes with a dot between them. -/
def readDotted : Parser Char Unit (List (List Char)) :=
  sepBy1 (readQuoted '"') (skipIf (· == '.'))

theorem quotedBody?_doubled {quote : Char} {after : List Char} (hafter : NotAt (· == quote) after)
    (body : List Char) : quotedBody? quote (doubled quote body ++ quote :: after) =
      some (body, after) := by
  induction body with
  | nil =>
    rw [doubled_nil, List.nil_append, quotedBody?.eq_def]
    cases after with
    | nil => simp
    | cons d after =>
      have hd : d ≠ quote := by simpa using hafter
      simp [hd]
  | cons c body ih =>
    rw [doubled_cons, List.append_assoc]
    by_cases hc : c = quote
    · rw [if_pos hc, List.cons_append, List.singleton_append, quotedBody?.eq_def]
      simp [ih, hc]
    · rw [if_neg hc, List.singleton_append, quotedBody?.eq_def]
      simp [ih, hc]

theorem doubled_of_quotedBody? {quote : Char} {cs body after : List Char}
    (h : quotedBody? quote cs = some (body, after)) :
    cs = doubled quote body ++ quote :: after ∧ NotAt (· == quote) after := by
  fun_induction quotedBody? quote cs generalizing body with
  | case1 => cases h
  | case2 =>
    obtain ⟨rfl, rfl⟩ := Prod.mk.inj (Option.some.inj h)
    exact ⟨rfl, notAt_nil _⟩
  | case3 rest ih =>
    obtain ⟨⟨body', after'⟩, hrest, heq⟩ := Option.map_eq_some_iff.mp h
    obtain ⟨rfl, rfl⟩ := Prod.mk.inj heq
    obtain ⟨rfl, hafter⟩ := ih hrest
    exact ⟨by simp [doubled_cons], hafter⟩
  | case4 d rest hd =>
    obtain ⟨rfl, rfl⟩ := Prod.mk.inj (Option.some.inj h)
    exact ⟨rfl, by simpa using hd⟩
  | case5 c rest hc ih =>
    obtain ⟨⟨body', after'⟩, hrest, heq⟩ := Option.map_eq_some_iff.mp h
    obtain ⟨rfl, rfl⟩ := Prod.mk.inj heq
    obtain ⟨rfl, hafter⟩ := ih hrest
    exact ⟨by simp [doubled_cons, hc], hafter⟩

/-- The reader accepts exactly a quoted text that is not followed by one more
quote. -/
theorem readQuoted_eq_ok_iff {quote : Char} {cs body after : List Char} :
    readQuoted quote cs = .ok (body, after) ↔
      cs = quote :: (doubled quote body ++ quote :: after) ∧ NotAt (· == quote) after := by
  constructor
  · intro h
    cases cs with
    | nil => cases h
    | cons c rest =>
      rw [readQuoted] at h
      split at h
      · rename_i hc
        split at h
        · rename_i hbody
          obtain ⟨rfl, rfl⟩ := Prod.mk.inj (Except.ok.inj h)
          obtain ⟨rfl, hafter⟩ := doubled_of_quotedBody? hbody
          exact ⟨by rw [hc], hafter⟩
        · cases h
      · cases h
  · intro ⟨hcs, hafter⟩
    rw [hcs, readQuoted, if_pos rfl, quotedBody?_doubled hafter]

/-- A text between quotes, and what it says. -/
inductive IsQuoted (quote : Char) : List Char → List Char → Prop where
  | intro (body : List Char) : IsQuoted quote (quote :: (doubled quote body ++ [quote])) body

theorem readQuoted_sound (quote : Char) : Sound (readQuoted quote) (IsQuoted quote) := by
  intro cs body after h
  obtain ⟨rfl, -⟩ := readQuoted_eq_ok_iff.mp h
  exact ⟨_, .intro body, by simp⟩

theorem readQuoted_complete (quote : Char) :
    Complete (readQuoted quote) (IsQuoted quote) (NotAt (· == quote)) := by
  intro written body after h hafter
  obtain ⟨body⟩ := h
  exact readQuoted_eq_ok_iff.mpr ⟨by simp, hafter⟩

/-! ## Quoted segments -/

/-- Phrases that are joined with a mark are a list with that mark. -/
theorem separated_intercalate {τ α : Type} {mark : τ} {Spells : List τ → α → Prop}
    {write : α → List τ} (h : ∀ item, Spells (write item) item) {items : List α}
    (hne : items ≠ []) :
    Separated mark Spells ([mark].intercalate (items.map write)) items := by
  have hothers : ∀ others : List α,
      Repeated (Marked mark Spells) ((others.map write).flatMap ([mark] ++ ·)) others := by
    intro others
    induction others with
    | nil => exact .nil
    | cons item others ih => exact .cons (.intro (h item)) ih
  obtain ⟨first, others, rfl⟩ := List.exists_cons_of_ne_nil hne
  rw [List.map_cons, intercalate_cons_eq]
  exact .intro (h first) (hothers others)

/-- The segments of a name are its pieces between dots. -/
theorem segments_eq_splitOn (cs : List Char) : segments cs = cs.splitOn '.' := by
  induction cs with
  | nil => rfl
  | cons c cs ih =>
    rw [segments, List.splitOn_cons_eq_if_modifyHead, ← ih]
    by_cases hc : c = '.'
    · simp [hc]
    · obtain ⟨first, others, hsegments⟩ := List.exists_cons_of_ne_nil (segments_ne_nil cs)
      simp [hc, hsegments]

theorem readDotted_complete :
    Complete readDotted (Separated '.' (IsQuoted '"'))
      (fun after => NotAt (· == '"') after ∧ NotAt (· == '.') after) :=
  (readQuoted_complete '"').sepBy1 (readQuoted_sound '"') (fun _ => beq_iff_eq)
    (fun _ => (notAt_cons ..).mpr rfl)

theorem separated_quoteIdentifier (name : String) :
    Separated '.' (IsQuoted '"') (quoteIdentifier name).toList (name.toList.splitOn '.') := by
  have hquoted : ∀ segment : List Char,
      IsQuoted '"' (enclosed '"' (String.ofList segment)).toList segment := by
    intro segment
    rw [enclosed, String.toList_ofList, String.toList_ofList]
    exact .intro segment
  have hne : name.toList.splitOn '.' ≠ [] := segments_eq_splitOn _ ▸ segments_ne_nil _
  rw [quoteIdentifier, String.toList_intercalate, segments_eq_splitOn, List.map_map]
  exact separated_intercalate hquoted hne

/-! ## Literals and identifiers -/

theorem readQuoted_quoteLiteral (text : String) {after : List Char}
    (hafter : NotAt (· == '\'') after) :
    readQuoted '\'' ((quoteLiteral text).toList ++ after) = .ok (text.toList, after) := by
  rw [readQuoted_eq_ok_iff, quoteLiteral, enclosed, String.toList_ofList]
  exact ⟨by simp, hafter⟩

theorem readDotted_quoteIdentifier (name : String) {after : List Char}
    (hquote : NotAt (· == '"') after) (hdot : NotAt (· == '.') after) :
    readDotted ((quoteIdentifier name).toList ++ after) = .ok (name.toList.splitOn '.', after) :=
  readDotted_complete _ _ after (separated_quoteIdentifier name) ⟨hquote, hdot⟩

/-- Quoted text can be read back in any context.

* A literal is read as its text, and what follows is left, if that does not
  begin with a quote.
* An identifier is read as the pieces of its name between dots, and what follows
  is left, if that begins neither with a quote nor with a dot.
* So two texts with the same literal are the same, and two names with the same
  identifier are. -/
theorem quoted_decodable :
    (∀ text rest : String, rest.toList.head? ≠ some '\'' →
      readQuoted '\'' (quoteLiteral text ++ rest).toList = .ok (text.toList, rest.toList)) ∧
    (∀ name rest : String, rest.toList.head? ≠ some '"' → rest.toList.head? ≠ some '.' →
      readDotted (quoteIdentifier name ++ rest).toList =
        .ok (name.toList.splitOn '.', rest.toList)) ∧
    Function.Injective quoteLiteral ∧ Function.Injective quoteIdentifier := by
  have hnot {mark : Char} {rest : String} (h : rest.toList.head? ≠ some mark) :
      NotAt (· == mark) rest.toList := by
    intro c hc
    rw [beq_eq_false_iff_ne]
    rintro rfl
    exact h hc
  refine ⟨?_, ?_, ?_, ?_⟩
  · intro text rest hrest
    rw [String.toList_append]
    exact readQuoted_quoteLiteral text (hnot hrest)
  · intro name rest hquote hdot
    rw [String.toList_append]
    exact readDotted_quoteIdentifier name (hnot hquote) (hnot hdot)
  · intro text other heq
    have hread := readQuoted_quoteLiteral text (notAt_nil _)
    rw [heq, readQuoted_quoteLiteral other (notAt_nil _)] at hread
    obtain ⟨htexts, -⟩ := Prod.mk.inj (Except.ok.inj hread)
    exact String.toList_injective htexts.symm
  · intro name other heq
    have hread := readDotted_quoteIdentifier name (notAt_nil _) (notAt_nil _)
    rw [heq, readDotted_quoteIdentifier other (notAt_nil _) (notAt_nil _)] at hread
    obtain ⟨hsegments, -⟩ := Prod.mk.inj (Except.ok.inj hread)
    -- the segments with the dots between them are the name
    have hname := congrArg (['.'].intercalate ·) hsegments
    simp only [List.intercalate_splitOn] at hname
    exact String.toList_injective hname.symm

/-- Quotes at both ends of a text, empty segments and a quote in a name, before
text that goes on with other marks. -/
theorem quoted_decodable_of_quotes_and_dots :
    readQuoted '\'' "'''it''s''''', 'x'".toList = .ok ("'it's''".toList, ", 'x'".toList) ∧
      readDotted "\"\".\"a\"\"\".\"\" (\".".toList = .ok ([[], ['a', '"'], []], " (\".".toList) := by
  obtain ⟨hliteral, hidentifier, -⟩ := quoted_decodable
  exact ⟨hliteral "'it's''" ", 'x'" (by decide),
    hidentifier ".a\"." " (\"." (by decide) (by decide)⟩

end CqlCompiler.Cql
