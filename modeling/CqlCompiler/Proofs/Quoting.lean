import CqlCompiler.Text.Dotted

/-!
# What stands outside quotes

A reader of CQL text is outside quotes or in a quoted region.  Outside, each of
the two quotes opens a region; inside, only the quote that opened it closes it,
so a doubled quote closes a region and opens the same one again.  `Region.after`
is where the reader stands after a text, and `Region.exposed` is what it meets
outside quotes on the way.

There are three groups.

* Statements.  `IsOneStatement` and `Exposes` say what must not be met outside
  quotes, in terms of cuts of the text; `isOneStatement_append_iff` reduces them
  to the text before the last semicolon.
* Texts that are harmless by themselves.  `Harmless.append` and
  `Harmless.intercalate` put them together, `harmless_enclosed` is the doubling
  of quotes.
* Texts that do nothing in any region.  `SameEffect` compares two texts by what
  they do to a reader that stands anywhere.
-/

namespace CqlCompiler.Cql

/-! ## Regions -/

/-- Where a reader stands. -/
inductive Region where
  | outside
  | single
  | double
  deriving DecidableEq, Repr

namespace Region

/-- The region that a quote opens. -/
def opened? : Char → Option Region
  | '\'' => some .single
  | '"' => some .double
  | _ => none

/-- Where the reader stands after one more character. -/
def next : Region → Char → Region
  | .outside, c => (opened? c).getD .outside
  | region, c => if opened? c = some region then .outside else region

/-- Where the reader stands after a text. -/
def after (region : Region) (text : List Char) : Region :=
  text.foldl next region

/-- The characters that are met outside quotes, an opening quote included. -/
def exposed : Region → List Char → List Char
  | _, [] => []
  | region, c :: text => (if region = .outside then [c] else []) ++ (region.next c).exposed text

@[simp] theorem after_nil (region : Region) : region.after [] = region := rfl

@[simp] theorem after_cons (region : Region) (c : Char) (text : List Char) :
    region.after (c :: text) = (region.next c).after text := rfl

theorem after_append (region : Region) (left right : List Char) :
    region.after (left ++ right) = (region.after left).after right :=
  List.foldl_append

@[simp] theorem exposed_nil (region : Region) : region.exposed [] = [] := rfl

theorem exposed_cons (region : Region) (c : Char) (text : List Char) :
    region.exposed (c :: text) =
      (if region = .outside then [c] else []) ++ (region.next c).exposed text := rfl

theorem exposed_append (region : Region) (left right : List Char) :
    region.exposed (left ++ right) = region.exposed left ++ (region.after left).exposed right := by
  induction left generalizing region with
  | nil => rfl
  | cons c left ih => simp only [List.cons_append, exposed_cons, ih, after_cons, List.append_assoc]

theorem mem_exposed_iff {region : Region} {c : Char} {text : List Char} :
    c ∈ region.exposed text ↔
      ∃ before rest, text = before ++ c :: rest ∧ region.after before = .outside := by
  constructor
  · induction text generalizing region with
    | nil => simp
    | cons d text ih =>
      intro hmem
      rw [exposed_cons, List.mem_append] at hmem
      rcases hmem with hhead | htail
      · split at hhead
        · rename_i houtside
          rw [List.mem_singleton.mp hhead]
          exact ⟨[], text, rfl, houtside⟩
        · simp at hhead
      · obtain ⟨before, rest, rfl, houtside⟩ := ih htail
        exact ⟨d :: before, rest, rfl, houtside⟩
  · intro ⟨before, rest, htext, houtside⟩
    rw [htext, exposed_append, exposed_cons, if_pos houtside]
    simp

/-- Only quotes change the region. -/
theorem next_of_opened?_eq_none {c : Char} (h : opened? c = none) (region : Region) :
    region.next c = region := by
  cases region <;> simp [next, h]

theorem next_outside {quote : Char} {region : Region} (h : opened? quote = some region) :
    Region.outside.next quote = region := by
  simp [next, h]

theorem opened?_eq_some_iff {c : Char} {region : Region} :
    opened? c = some region ↔
      (c = '\'' ∧ region = .single) ∨ (c = '"' ∧ region = .double) := by
  unfold opened?
  split <;> simp_all [eq_comm]

theorem next_self {quote : Char} {region : Region} (h : opened? quote = some region) :
    region.next quote = .outside := by
  rcases opened?_eq_some_iff.mp h with ⟨rfl, rfl⟩ | ⟨rfl, rfl⟩ <;> rfl

theorem next_of_ne {quote c : Char} {region : Region} (h : opened? quote = some region)
    (hc : c ≠ quote) : region.next c = region := by
  rcases opened?_eq_some_iff.mp h with ⟨rfl, rfl⟩ | ⟨rfl, rfl⟩ <;>
    simp [next, opened?_eq_some_iff, hc]

theorem ne_outside {quote : Char} {region : Region} (h : opened? quote = some region) :
    region ≠ .outside := by
  rcases opened?_eq_some_iff.mp h with ⟨rfl, rfl⟩ | ⟨rfl, rfl⟩ <;> decide

end Region

/-! ## Statements -/

/-- The mark is met outside quotes. -/
def Exposes (text mark : List Char) : Prop :=
  ∃ before rest, text = before ++ mark ++ rest ∧ Region.outside.after before = .outside

theorem Exposes.mem_exposed {text mark : List Char} {c : Char} (h : Exposes text (c :: mark)) :
    c ∈ Region.outside.exposed text := by
  obtain ⟨before, rest, htext, houtside⟩ := h
  rw [List.append_assoc, List.cons_append] at htext
  exact Region.mem_exposed_iff.mpr ⟨before, mark ++ rest, htext, houtside⟩

/-- The text ends outside quotes, and the only semicolon that is met outside
quotes is its last character. -/
structure IsOneStatement (text : List Char) : Prop where
  closed : Region.outside.after text = .outside
  terminated : ∃ body, text = body ++ [';']
  only : ∀ before rest, text = before ++ ';' :: rest → Region.outside.after before = .outside →
    rest = []

/-- A text that ends outside quotes and shows none of the marks there. -/
structure Harmless (marks text : List Char) : Prop where
  closed : Region.outside.after text = .outside
  hidden : ∀ c ∈ Region.outside.exposed text, c ∉ marks

/-- One statement is a harmless text and a semicolon. -/
theorem isOneStatement_append_iff {body : List Char} :
    IsOneStatement (body ++ [';']) ↔ Harmless [';'] body := by
  have hafter : Region.outside.after (body ++ [';']) = Region.outside.after body := by
    rw [Region.after_append]
    exact Region.next_of_opened?_eq_none rfl _
  constructor
  · intro ⟨hclosed, _, honly⟩
    refine ⟨hafter ▸ hclosed, ?_⟩
    intro c hc hmark
    rw [List.mem_singleton.mp hmark] at hc
    obtain ⟨before, rest, hbody, houtside⟩ := Region.mem_exposed_iff.mp hc
    have hrest := honly before (rest ++ [';']) (by rw [hbody, List.append_assoc]; rfl) houtside
    simp at hrest
  · intro ⟨hclosed, hhidden⟩
    refine ⟨hafter.trans hclosed, ⟨body, rfl⟩, ?_⟩
    intro before rest htext houtside
    -- a semicolon that is not the last character stands in the body
    rcases List.eq_nil_or_concat rest with hrest | ⟨rest', last, rfl⟩
    · exact hrest
    · rw [List.concat_eq_append, ← List.cons_append, ← List.append_assoc] at htext
      obtain ⟨rfl, -⟩ := List.append_inj' htext rfl
      have hmem : ';' ∈ Region.outside.exposed (before ++ ';' :: rest') :=
        Region.mem_exposed_iff.mpr ⟨before, rest', rfl, houtside⟩
      exact absurd (List.mem_singleton.mpr rfl) (hhidden ';' hmem)

/-! ## Harmless texts -/

section Harmless

variable {marks : List Char}

theorem Harmless.mono {fewer text : List Char} (h : Harmless marks text)
    (hmarks : ∀ c ∈ fewer, c ∈ marks) : Harmless fewer text :=
  ⟨h.closed, fun c hc hmark => h.hidden c hc (hmarks c hmark)⟩

theorem harmless_append_iff {left right : List Char} (hleft : Harmless marks left) :
    Harmless marks (left ++ right) ↔ Harmless marks right := by
  constructor
  · intro ⟨hclosed, hhidden⟩
    rw [Region.after_append, hleft.closed] at hclosed
    rw [Region.exposed_append, hleft.closed] at hhidden
    exact ⟨hclosed, fun c hc => hhidden c (List.mem_append_right _ hc)⟩
  · intro ⟨hclosed, hhidden⟩
    refine ⟨by rw [Region.after_append, hleft.closed, hclosed], ?_⟩
    intro c hc
    rw [Region.exposed_append, hleft.closed] at hc
    rcases List.mem_append.mp hc with hc | hc
    · exact hleft.hidden c hc
    · exact hhidden c hc

theorem Harmless.append {left right : List Char} (hleft : Harmless marks left)
    (hright : Harmless marks right) : Harmless marks (left ++ right) :=
  (harmless_append_iff hleft).mpr hright

theorem harmless_nil : Harmless marks [] :=
  ⟨rfl, by simp⟩

theorem Harmless.intercalate {separator : List Char} {texts : List (List Char)}
    (hseparator : Harmless marks separator) (htexts : ∀ text ∈ texts, Harmless marks text) :
    Harmless marks (separator.intercalate texts) := by
  induction texts with
  | nil => exact harmless_nil
  | cons text texts ih =>
    obtain ⟨htext, htexts⟩ := List.forall_mem_cons.mp htexts
    cases texts with
    | nil => simpa using htext
    | cons other texts =>
      rw [List.intercalate_cons_cons]
      exact (htext.append hseparator).append (ih htexts)

theorem harmless_flatMap {α : Type} {f : α → List Char} {items : List α}
    (h : ∀ item ∈ items, Harmless marks (f item)) : Harmless marks (items.flatMap f) := by
  induction items with
  | nil => exact harmless_nil
  | cons item items ih =>
    obtain ⟨hitem, hitems⟩ := List.forall_mem_cons.mp h
    rw [List.flatMap_cons]
    exact hitem.append (ih hitems)

/-- The doubled quotes of a quoted text close its region and open it again. -/
theorem after_doubled {quote : Char} {region : Region} (h : Region.opened? quote = some region)
    (text : List Char) : region.after (Text.doubled quote text) = region := by
  induction text with
  | nil => rfl
  | cons c text ih =>
    rw [Text.doubled_cons, Region.after_append]
    split
    · rename_i hc
      simp only [Region.after_cons, Region.after_nil, Region.next_self h, Region.next_outside h, ih]
    · rename_i hc
      simp only [Region.after_cons, Region.after_nil, Region.next_of_ne h hc, ih]

/-- Nothing but quotes is met outside on the way. -/
theorem exposed_doubled {quote : Char} {region : Region} (h : Region.opened? quote = some region)
    (text : List Char) : ∀ c ∈ region.exposed (Text.doubled quote text), c = quote := by
  have hregion := Region.ne_outside h
  induction text with
  | nil => simp
  | cons d text ih =>
    intro c hc
    rw [Text.doubled_cons, Region.exposed_append, List.mem_append] at hc
    split at hc
    -- the first of two quotes is met inside, the second one outside
    · simp only [Region.after_cons, Region.after_nil, Region.next_self h, Region.next_outside h,
        Region.exposed_cons, Region.exposed_nil, if_neg hregion] at hc
      rcases hc with hc | hc
      · simpa using hc
      · exact ih c hc
    · rename_i hd
      simp only [Region.after_cons, Region.after_nil, Region.next_of_ne h hd,
        Region.exposed_cons, Region.exposed_nil, if_neg hregion] at hc
      rcases hc with hc | hc
      · simp at hc
      · exact ih c hc

/-- A quoted text is harmless, whatever it holds. -/
theorem harmless_enclosed {quote : Char} {region : Region} (h : Region.opened? quote = some region)
    (hquote : quote ∉ marks) (text : String) :
    Harmless marks (Text.enclosed quote text).toList := by
  rw [Text.enclosed, String.toList_ofList]
  constructor
  · rw [Region.after_cons, Region.next_outside h, Region.after_append, after_doubled h]
    exact Region.next_self h
  · intro c hc
    rw [Region.exposed_cons, Region.next_outside h, Region.exposed_append, after_doubled h,
      Region.exposed_cons, if_neg (Region.ne_outside h)] at hc
    have hc : c = quote := by
      simp only [List.mem_append, Region.exposed_nil, List.not_mem_nil, or_false] at hc
      rcases hc with hc | hc
      · simpa using hc
      · exact exposed_doubled h _ c hc
    rw [hc]
    exact hquote

end Harmless

/-! ## Texts without quotes -/

section Plain

variable {marks : List Char}

/-- A text without quotes and without the marks. -/
def Plain (marks text : List Char) : Prop :=
  ∀ c ∈ text, Region.opened? c = none ∧ c ∉ marks

instance (marks text : List Char) : Decidable (Plain marks text) :=
  List.decidableBAll (fun c => Region.opened? c = none ∧ c ∉ marks) text

theorem Plain.append {left right : List Char} (hleft : Plain marks left)
    (hright : Plain marks right) : Plain marks (left ++ right) :=
  List.forall_mem_append.mpr ⟨hleft, hright⟩

theorem Plain.intercalate {separator : List Char} {texts : List (List Char)}
    (hseparator : Plain marks separator) (htexts : ∀ text ∈ texts, Plain marks text) :
    Plain marks (separator.intercalate texts) := by
  induction texts with
  | nil => simp [Plain]
  | cons text texts ih =>
    obtain ⟨htext, htexts⟩ := List.forall_mem_cons.mp htexts
    cases texts with
    | nil => simpa using htext
    | cons other texts =>
      rw [List.intercalate_cons_cons]
      exact (htext.append hseparator).append (ih htexts)

/-- Two texts that take a reader from any region to the same region, past the
same marks. -/
structure SameEffect (marks left right : List Char) : Prop where
  after : ∀ region : Region, region.after left = region.after right
  exposed : ∀ (region : Region), ∀ c ∈ marks,
    c ∈ region.exposed left ↔ c ∈ region.exposed right

theorem SameEffect.refl (text : List Char) : SameEffect marks text text :=
  ⟨fun _ => rfl, fun _ _ _ => Iff.rfl⟩

theorem SameEffect.append {left right left' right' : List Char} (hleft : SameEffect marks left left')
    (hright : SameEffect marks right right') :
    SameEffect marks (left ++ right) (left' ++ right') := by
  constructor
  · intro region
    rw [Region.after_append, Region.after_append, hleft.after, hright.after]
  · intro region c hc
    rw [Region.exposed_append, Region.exposed_append, List.mem_append, List.mem_append,
      hleft.exposed region c hc, hleft.after, hright.exposed _ c hc]

theorem SameEffect.harmless_iff {left right : List Char} (h : SameEffect marks left right) :
    Harmless marks left ↔ Harmless marks right := by
  have hhidden : (∀ c ∈ Region.outside.exposed left, c ∉ marks) ↔
      ∀ c ∈ Region.outside.exposed right, c ∉ marks :=
    ⟨fun hleft c hc hmark => hleft c ((h.exposed _ c hmark).mpr hc) hmark,
      fun hright c hc hmark => hright c ((h.exposed _ c hmark).mp hc) hmark⟩
  constructor
  · intro ⟨hclosed, hmarks⟩
    exact ⟨h.after .outside ▸ hclosed, hhidden.mp hmarks⟩
  · intro ⟨hclosed, hmarks⟩
    exact ⟨h.after .outside ▸ hclosed, hhidden.mpr hmarks⟩

theorem SameEffect.trans {left middle right : List Char} (h : SameEffect marks left middle)
    (h' : SameEffect marks middle right) : SameEffect marks left right :=
  ⟨fun region => (h.after region).trans (h'.after region),
    fun region c hc => (h.exposed region c hc).trans (h'.exposed region c hc)⟩

theorem SameEffect.mono {fewer left right : List Char} (h : SameEffect marks left right)
    (hmarks : ∀ c ∈ fewer, c ∈ marks) : SameEffect fewer left right :=
  ⟨h.after, fun region c hc => h.exposed region c (hmarks c hc)⟩

theorem SameEffect.flatMap {α : Type} {f g : α → List Char} {items : List α}
    (h : ∀ item ∈ items, SameEffect marks (f item) (g item)) :
    SameEffect marks (items.flatMap f) (items.flatMap g) := by
  induction items with
  | nil => exact .refl []
  | cons item items ih =>
    obtain ⟨hitem, hitems⟩ := List.forall_mem_cons.mp h
    rw [List.flatMap_cons, List.flatMap_cons]
    exact hitem.append (ih hitems)

/-- A plain text does nothing. -/
theorem Plain.sameEffect_nil {text : List Char} (h : Plain marks text) :
    SameEffect marks text [] := by
  induction text with
  | nil => exact .refl []
  | cons c text ih =>
    obtain ⟨⟨hquote, hmark⟩, htext⟩ := List.forall_mem_cons.mp h
    constructor
    · intro region
      rw [Region.after_cons, Region.next_of_opened?_eq_none hquote, (ih htext).after]
    · intro region d hd
      rw [Region.exposed_cons, Region.next_of_opened?_eq_none hquote, List.mem_append,
        (ih htext).exposed region d hd]
      have hne : d ≠ c := fun h => hmark (h ▸ hd)
      split <;> simp [hne]

/-- A plain text between texts makes no difference. -/
theorem Plain.sameEffect_intercalate {separator : List Char} (h : Plain marks separator)
    (texts : List (List Char)) :
    SameEffect marks (separator.intercalate texts) texts.flatten := by
  induction texts with
  | nil => exact .refl []
  | cons text texts ih =>
    cases texts with
    | nil =>
      rw [List.intercalate_singleton, List.flatten_singleton]
      exact .refl text
    | cons other texts =>
      rw [List.intercalate_cons_cons, List.flatten_cons, List.append_assoc]
      exact (SameEffect.refl text).append (h.sameEffect_nil.append ih)

theorem Plain.harmless {text : List Char} (h : Plain marks text) : Harmless marks text :=
  h.sameEffect_nil.harmless_iff.mpr harmless_nil

end Plain

end CqlCompiler.Cql
