import CqlCompiler.Parsing

/-!
# What parsers accept

A phrase is a list of items, and a relation `Spells phrase result` says which
results a phrase spells.  A parser is `Sound` for such a relation if all that
it takes off the front spells its result, and `Complete` if it takes every
phrase whose continuation it cannot mistake for more of the phrase.

There are three groups.

* Single steps.  `bind_eq_ok_iff` takes a successful run of a sequence apart,
  `bind_of_ok` puts one together, and `skipIf_eq_true_iff` and
  `skipIf_eq_false_iff` say what one optional item does.
* Repetition.  `many_eq_ok_iff` turns a repetition into its rounds.
  `many_sound` and `many_complete` carry a relation on single phrases over to
  all rounds.
* Lists with a mark between the phrases: `Sound.sepBy1` and `Complete.sepBy1`.
-/

namespace CqlCompiler.Parser

variable {τ ε α β : Type}

/-! ## Single steps -/

/-- A sequence succeeds exactly when both of its parts do. -/
theorem bind_eq_ok_iff {parser : Parser τ ε α} {next : α → Parser τ ε β}
    {items rest : List τ} {result : β} :
    (parser >>= next) items = .ok (result, rest) ↔
      ∃ first middle, parser items = .ok (first, middle) ∧
        next first middle = .ok (result, rest) := by
  change (parser items).bind _ = _ ↔ _
  cases h : parser items with
  | error error => simp [Except.bind]
  | ok pair =>
    obtain ⟨first, middle⟩ := pair
    simp [Except.bind, and_assoc]

/-- A sequence goes on with what its first part gives. -/
theorem bind_of_ok {parser : Parser τ ε α} {next : α → Parser τ ε β}
    {items rest : List τ} {first : α} (h : parser items = .ok (first, rest)) :
    (parser >>= next) items = next first rest := by
  change (parser items).bind _ = _
  rw [h]
  rfl

theorem pure_eq_ok_iff {items rest : List τ} {a b : α} :
    (pure a : Parser τ ε α) items = .ok (b, rest) ↔ b = a ∧ rest = items := by
  change Except.ok (a, items) = _ ↔ _
  simp [eq_comm]

theorem map_eq_ok_iff {parser : Parser τ ε α} {f : α → β} {items rest : List τ} {result : β} :
    (f <$> parser) items = .ok (result, rest) ↔
      ∃ a, parser items = .ok (a, rest) ∧ f a = result := by
  rw [← bind_pure_comp, bind_eq_ok_iff]
  simp only [pure_eq_ok_iff]
  constructor
  · intro h
    obtain ⟨a, middle, h, rfl, rfl⟩ := h
    exact ⟨a, h, rfl⟩
  · intro h
    obtain ⟨a, h, rfl⟩ := h
    exact ⟨a, rest, h, rfl, rfl⟩

/-- No item with the property is at the front. -/
def NotAt (p : τ → Bool) (items : List τ) : Prop :=
  ∀ item ∈ items.head?, p item = false

@[simp] theorem notAt_nil (p : τ → Bool) : NotAt p [] := by
  simp [NotAt]

@[simp] theorem notAt_cons (p : τ → Bool) (item : τ) (items : List τ) :
    NotAt p (item :: items) ↔ p item = false := by
  simp [NotAt]

theorem notAt_or {p q : τ → Bool} {items : List τ} :
    NotAt (fun item => p item || q item) items ↔ NotAt p items ∧ NotAt q items := by
  cases items <;> simp

theorem get_apply (items : List τ) :
    (get : Parser τ ε (List τ)) items = .ok (items, items) := rfl

theorem set_apply (items rest : List τ) :
    (set rest : Parser τ ε PUnit) items = .ok (⟨⟩, rest) := rfl

theorem takeIf?_eq_some_iff {p : τ → Bool} {items rest : List τ} {item : τ} :
    (takeIf? p : Parser τ ε (Option τ)) items = .ok (some item, rest) ↔
      items = item :: rest ∧ p item = true := by
  rw [takeIf?, bind_of_ok (get_apply items)]
  cases items with
  | nil => simp [pure_eq_ok_iff]
  | cons head tail =>
    cases h : p head with
    | false => simp [h, pure_eq_ok_iff]; grind
    | true => simp [h, bind_of_ok (set_apply _ tail), pure_eq_ok_iff]; grind

theorem takeIf?_eq_none_iff {p : τ → Bool} {items rest : List τ} :
    (takeIf? p : Parser τ ε (Option τ)) items = .ok (none, rest) ↔
      NotAt p items ∧ rest = items := by
  rw [takeIf?, bind_of_ok (get_apply items)]
  cases items with
  | nil => simp [pure_eq_ok_iff]
  | cons head tail =>
    cases h : p head with
    | false => simp [h, pure_eq_ok_iff]
    | true => simp [h, bind_of_ok (set_apply _ tail), pure_eq_ok_iff]

theorem skipIf_eq_true_iff {p : τ → Bool} {items rest : List τ} :
    (skipIf p : Parser τ ε Bool) items = .ok (true, rest) ↔
      ∃ item, items = item :: rest ∧ p item = true := by
  rw [skipIf, bind_eq_ok_iff]
  constructor
  · intro h
    rcases h with ⟨_ | item, middle, htake, hpure⟩
    · simp [pure_eq_ok_iff] at hpure
    · obtain ⟨-, rfl⟩ := pure_eq_ok_iff.mp hpure
      exact ⟨item, takeIf?_eq_some_iff.mp htake⟩
  · intro ⟨item, hitem⟩
    exact ⟨some item, rest, takeIf?_eq_some_iff.mpr hitem, rfl⟩

theorem skipIf_eq_false_iff {p : τ → Bool} {items rest : List τ} :
    (skipIf p : Parser τ ε Bool) items = .ok (false, rest) ↔
      NotAt p items ∧ rest = items := by
  rw [skipIf, bind_eq_ok_iff]
  constructor
  · intro h
    rcases h with ⟨_ | item, middle, htake, hpure⟩
    · obtain ⟨-, rfl⟩ := pure_eq_ok_iff.mp hpure
      exact takeIf?_eq_none_iff.mp htake
    · simp [pure_eq_ok_iff] at hpure
  · intro hitem
    exact ⟨none, rest, takeIf?_eq_none_iff.mpr hitem, rfl⟩

/-- What depends on an optional item goes on after the item if it is there, and
at the same place otherwise. -/
theorem bind_skipIf_eq_ok_iff {p : τ → Bool} {next : Bool → Parser τ ε α} {items rest : List τ}
    {result : α} :
    (skipIf p >>= next) items = .ok (result, rest) ↔
      (∃ item tail, items = item :: tail ∧ p item = true ∧
        next true tail = .ok (result, rest)) ∨
      (NotAt p items ∧ next false items = .ok (result, rest)) := by
  rw [bind_eq_ok_iff]
  constructor
  · intro h
    rcases h with ⟨_ | _, middle, hskip, hnext⟩
    · obtain ⟨hnot, rfl⟩ := skipIf_eq_false_iff.mp hskip
      exact .inr ⟨hnot, hnext⟩
    · obtain ⟨item, rfl, hitem⟩ := skipIf_eq_true_iff.mp hskip
      exact .inl ⟨item, middle, rfl, hitem, hnext⟩
  · intro h
    rcases h with ⟨item, tail, rfl, hitem, hnext⟩ | ⟨hnot, hnext⟩
    · exact ⟨true, tail, skipIf_eq_true_iff.mpr ⟨item, rfl, hitem⟩, hnext⟩
    · exact ⟨false, items, skipIf_eq_false_iff.mpr ⟨hnot, rfl⟩, hnext⟩

theorem bind_skipIf_of_at {p : τ → Bool} {next : Bool → Parser τ ε α} {item : τ}
    {items : List τ} (h : p item = true) : (skipIf p >>= next) (item :: items) = next true items :=
  bind_of_ok (skipIf_eq_true_iff.mpr ⟨item, rfl, h⟩)

theorem bind_skipIf_of_notAt {p : τ → Bool} {next : Bool → Parser τ ε α} {items : List τ}
    (h : NotAt p items) : (skipIf p >>= next) items = next false items :=
  bind_of_ok (skipIf_eq_false_iff.mpr ⟨h, rfl⟩)

/-! ## Repetition -/

/-- The rounds of a repetition: the items it starts at, the results it
collects, and the items it leaves. -/
inductive Rounds (step : Parser τ ε (Option α)) : List τ → List α → List τ → Prop where
  | stop {items rest : List τ} (h : step items = .ok (none, rest)) : Rounds step items [] rest
  | more {items middle rest : List τ} {result : α} {results : List α}
      (h : step items = .ok (some result, middle)) (hrounds : Rounds step middle results rest) :
      Rounds step items (result :: results) rest

theorem rounds_of_many {step : Parser τ ε (Option α)} (hstep : Advances step)
    {results : List α} {items rest : List τ} (h : many step items = .ok (results, rest)) :
    Rounds step items results rest := by
  induction results generalizing items with
  | nil =>
    rw [many_eq hstep] at h
    split at h
    · simp at h
    · rename_i middle hround
      simp only [Except.ok.injEq, Prod.mk.injEq, true_and] at h
      exact .stop (h ▸ hround)
    · split at h <;> simp at h
  | cons result results ih =>
    rw [many_eq hstep] at h
    split at h
    · simp at h
    · simp at h
    · rename_i first middle hround
      split at h
      · simp at h
      · rename_i others rest' hothers
        simp only [Except.ok.injEq, Prod.mk.injEq, List.cons.injEq] at h
        obtain ⟨⟨rfl, rfl⟩, rfl⟩ := h
        exact .more hround (ih hothers)

theorem many_of_rounds {step : Parser τ ε (Option α)} (hstep : Advances step)
    {results : List α} {items rest : List τ} (h : Rounds step items results rest) :
    many step items = .ok (results, rest) := by
  induction h with
  | stop h => rw [many_eq hstep, h]
  | more h _ ih =>
    rw [many_eq hstep, h]
    simp only [ih]

/-- A repetition succeeds exactly when all of its rounds do. -/
theorem many_eq_ok_iff {step : Parser τ ε (Option α)} (hstep : Advances step)
    {results : List α} {items rest : List τ} :
    many step items = .ok (results, rest) ↔ Rounds step items results rest :=
  ⟨rounds_of_many hstep, many_of_rounds hstep⟩

/-- What a repetition does after a round. -/
def afterRound (others : Parser τ ε (List α)) : Option α → Parser τ ε (List α)
  | none => pure []
  | some result => (result :: ·) <$> others

theorem many_eq_bind {step : Parser τ ε (Option α)} (hstep : Advances step) :
    many step = step >>= afterRound (many step) := by
  funext items
  show _ = (step items).bind _
  rw [many_eq hstep]
  cases step items with
  | error cause => rfl
  | ok pair =>
    obtain ⟨result, rest⟩ := pair
    cases result with
    | none => rfl
    | some result =>
      show _ = (many step rest).bind _
      dsimp only
      cases many step rest <;> rfl

/-- Phrases in a row. -/
inductive Repeated (Spells : List τ → α → Prop) : List τ → List α → Prop where
  | nil : Repeated Spells [] []
  | cons {phrase others : List τ} {result : α} {results : List α}
      (hphrase : Spells phrase result) (hothers : Repeated Spells others results) :
      Repeated Spells (phrase ++ others) (result :: results)

theorem Repeated.append {Spells : List τ → α → Prop} {first second : List τ}
    {results others : List α} (h : Repeated Spells first results)
    (hsecond : Repeated Spells second others) :
    Repeated Spells (first ++ second) (results ++ others) := by
  induction h with
  | nil => exact hsecond
  | cons hphrase _ ih =>
    rw [List.append_assoc]
    exact .cons hphrase ih

/-- What may follow a phrase follows a row of phrases, if a further phrase is
among what may follow. -/
theorem Repeated.follow_append {Spells : List τ → α → Prop} {Follow : List τ → Prop}
    (hnext : ∀ phrase result rest, Spells phrase result → Follow (phrase ++ rest))
    {results : List α} {phrases rest : List τ} (h : Repeated Spells phrases results)
    (hrest : Follow rest) : Follow (phrases ++ rest) := by
  cases h with
  | nil => exact hrest
  | cons hphrase _ =>
    rw [List.append_assoc]
    exact hnext _ _ _ hphrase

/-- A step advances if the phrases it takes are not empty. -/
theorem advances_of_ne_nil {step : Parser τ ε (Option α)} {Spells : List τ → α → Prop}
    (hstep : ∀ items result rest, step items = .ok (some result, rest) →
      ∃ phrase, Spells phrase result ∧ items = phrase ++ rest)
    (hne : ∀ phrase result, Spells phrase result → phrase ≠ []) : Advances step := by
  intro items result rest h
  obtain ⟨phrase, hphrase, rfl⟩ := hstep items result rest h
  have hpos := List.length_pos_iff.mpr (hne phrase result hphrase)
  rw [List.length_append]
  omega

/-- The rounds of a step that takes phrases are phrases in a row, after which
the step finds no further one. -/
theorem many_sound {step : Parser τ ε (Option α)} {Spells : List τ → α → Prop}
    (hadvances : Advances step)
    (hstep : ∀ items result rest, step items = .ok (some result, rest) →
      ∃ phrase, Spells phrase result ∧ items = phrase ++ rest)
    {results : List α} {items rest : List τ} (h : many step items = .ok (results, rest)) :
    ∃ phrases middle, Repeated Spells phrases results ∧ items = phrases ++ middle ∧
      step middle = .ok (none, rest) := by
  induction (many_eq_ok_iff hadvances).mp h with
  | stop hend => exact ⟨[], _, .nil, rfl, hend⟩
  | more hround hrounds ih =>
    obtain ⟨phrase, hphrase, rfl⟩ := hstep _ _ _ hround
    obtain ⟨phrases, middle, hphrases, rfl, hend⟩ := ih (many_of_rounds hadvances hrounds)
    exact ⟨phrase ++ phrases, middle, .cons hphrase hphrases, by simp, hend⟩

/-- A step that takes each phrase before anything that may follow it takes all
phrases of a row, if a further phrase is among what may follow. -/
theorem many_complete {step : Parser τ ε (Option α)} {Spells : List τ → α → Prop}
    {Follow : List τ → Prop} (hadvances : Advances step)
    (hstep : ∀ phrase result rest, Spells phrase result → Follow rest →
      step (phrase ++ rest) = .ok (some result, rest))
    (hnext : ∀ phrase result rest, Spells phrase result → Follow (phrase ++ rest))
    {results : List α} {phrases middle rest : List τ} (h : Repeated Spells phrases results)
    (hfollow : Follow middle) (hend : step middle = .ok (none, rest)) :
    many step (phrases ++ middle) = .ok (results, rest) := by
  rw [many_eq_ok_iff hadvances]
  induction h with
  | nil => exact .stop hend
  | cons hphrase hothers ih =>
    rw [List.append_assoc]
    exact .more (hstep _ _ _ hphrase (hothers.follow_append hnext hfollow)) ih

/-! ## Phrases -/

/-- All that the parser takes off the front spells its result. -/
def Sound (parser : Parser τ ε α) (Spells : List τ → α → Prop) : Prop :=
  ∀ items result rest, parser items = .ok (result, rest) →
    ∃ phrase, Spells phrase result ∧ items = phrase ++ rest

/-- The parser takes every phrase before anything that may follow it. -/
def Complete (parser : Parser τ ε α) (Spells : List τ → α → Prop)
    (Follow : List τ → Prop) : Prop :=
  ∀ phrase result rest, Spells phrase result → Follow rest →
    parser (phrase ++ rest) = .ok (result, rest)

theorem Sound.length_le {parser : Parser τ ε α} {Spells : List τ → α → Prop}
    (h : Sound parser Spells) {items rest : List τ} {result : α}
    (hrun : parser items = .ok (result, rest)) : rest.length ≤ items.length := by
  obtain ⟨phrase, -, rfl⟩ := h items result rest hrun
  simp

/-- A mark and a phrase after it. -/
inductive Marked (mark : τ) (Spells : List τ → α → Prop) : List τ → α → Prop where
  | intro {phrase : List τ} {result : α} (hphrase : Spells phrase result) :
      Marked mark Spells (mark :: phrase) result

/-- One phrase, and one more after each mark. -/
inductive Separated (mark : τ) (Spells : List τ → α → Prop) : List τ → List α → Prop where
  | intro {phrase others : List τ} {result : α} {results : List α}
      (hphrase : Spells phrase result) (hothers : Repeated (Marked mark Spells) others results) :
      Separated mark Spells (phrase ++ others) (result :: results)

theorem Separated.ne_nil {mark : τ} {Spells : List τ → α → Prop} {phrase : List τ}
    {results : List α} (h : Separated mark Spells phrase results) : results ≠ [] := by
  obtain ⟨-, -⟩ := h
  exact List.cons_ne_nil _ _

/-- One more phrase after a mark. -/
theorem Separated.append {mark : τ} {Spells : List τ → α → Prop} {phrase last : List τ}
    {results : List α} {result : α} (h : Separated mark Spells phrase results)
    (hlast : Spells last result) :
    Separated mark Spells (phrase ++ mark :: last) (results ++ [result]) := by
  obtain ⟨hfirst, hothers⟩ := h
  have hlast : Repeated (Marked mark Spells) (mark :: last) [result] := by
    simpa using Repeated.cons (Marked.intro hlast) .nil
  rw [List.append_assoc]
  exact .intro hfirst (hothers.append hlast)

/-- A list with a separator is its first item, and the separator before each
other one. -/
theorem intercalate_cons_eq (separator first : List τ) (others : List (List τ)) :
    separator.intercalate (first :: others) = first ++ others.flatMap (separator ++ ·) := by
  induction others generalizing first with
  | nil => simp
  | cons other others ih => rw [List.intercalate_cons_cons, ih]; simp

/-- One round of a list: a phrase, if the mark is at the front. -/
def nextItem (item : Parser τ ε α) (separator : Parser τ ε Bool) : Parser τ ε (Option α) := do
  if ← separator then some <$> item else return none

theorem sepBy1_eq (item : Parser τ ε α) (separator : Parser τ ε Bool) :
    sepBy1 item separator = do
      let first ← item
      let others ← many (nextItem item separator)
      return first :: others :=
  rfl

theorem nextItem_eq_some_iff {item : Parser τ ε α} {p : τ → Bool} {items rest : List τ}
    {result : α} :
    nextItem item (skipIf p) items = .ok (some result, rest) ↔
      ∃ mark middle, items = mark :: middle ∧ p mark = true ∧
        item middle = .ok (result, rest) := by
  simp [nextItem, bind_skipIf_eq_ok_iff, map_eq_ok_iff, pure_eq_ok_iff]

theorem nextItem_eq_none_iff {item : Parser τ ε α} {p : τ → Bool} {items rest : List τ} :
    nextItem item (skipIf p) items = .ok (none, rest) ↔ NotAt p items ∧ rest = items := by
  simp [nextItem, bind_skipIf_eq_ok_iff, map_eq_ok_iff, pure_eq_ok_iff]

section Lists

variable {item : Parser τ ε α} {Spells : List τ → α → Prop} {p : τ → Bool} {mark : τ}

theorem Sound.advances_nextItem (hitem : Sound item Spells) :
    Advances (nextItem item (skipIf p)) := by
  intro items result rest h
  obtain ⟨found, middle, rfl, -, hrun⟩ := nextItem_eq_some_iff.mp h
  have hle := hitem.length_le hrun
  simp only [List.length_cons]
  omega

theorem Sound.sepBy1 (hitem : Sound item Spells) (hmark : ∀ found, p found = true ↔ found = mark) :
    Sound (sepBy1 item (skipIf p)) (Separated mark Spells) := by
  intro items results rest h
  rw [sepBy1_eq] at h
  simp only [bind_eq_ok_iff, pure_eq_ok_iff] at h
  obtain ⟨first, middle, hfirst, others, last, hothers, rfl, rfl⟩ := h
  obtain ⟨phrase, hphrase, rfl⟩ := hitem _ _ _ hfirst
  have hstep : ∀ items result rest, nextItem item (skipIf p) items = .ok (some result, rest) →
      ∃ phrase, Marked mark Spells phrase result ∧ items = phrase ++ rest := by
    intro items result rest hround
    obtain ⟨found, middle, rfl, hfound, hrun⟩ := nextItem_eq_some_iff.mp hround
    obtain ⟨phrase, hphrase, rfl⟩ := hitem _ _ _ hrun
    rw [(hmark found).mp hfound]
    exact ⟨mark :: phrase, .intro hphrase, rfl⟩
  obtain ⟨phrases, last, hphrases, rfl, hend⟩ :=
    many_sound hitem.advances_nextItem hstep hothers
  obtain ⟨-, rfl⟩ := nextItem_eq_none_iff.mp hend
  exact ⟨phrase ++ phrases, .intro hphrase hphrases, by simp⟩

/-- A list is taken whole if its mark may follow each of its phrases and does
not follow the last one. -/
theorem Complete.sepBy1 {Follow : List τ → Prop} (hcomplete : Complete item Spells Follow)
    (hitem : Sound item Spells) (hmark : ∀ found, p found = true ↔ found = mark)
    (hfollow : ∀ rest, Follow (mark :: rest)) :
    Complete (sepBy1 item (skipIf p)) (Separated mark Spells)
      (fun rest => Follow rest ∧ NotAt p rest) := by
  rintro _ _ rest (@⟨phrase, others, first, results, hphrase, hothers⟩) ⟨hrest, hnot⟩
  have hstep : ∀ phrase result rest, Marked mark Spells phrase result → Follow rest →
      nextItem item (skipIf p) (phrase ++ rest) = .ok (some result, rest) := by
    rintro _ result rest ⟨hphrase⟩ hrest
    rw [List.cons_append, nextItem_eq_some_iff]
    exact ⟨mark, _, rfl, (hmark mark).mpr rfl, hcomplete _ _ _ hphrase hrest⟩
  have hnext : ∀ phrase result rest, Marked mark Spells phrase result →
      Follow (phrase ++ rest) := by
    rintro _ result rest ⟨-⟩
    exact hfollow _
  have hmany := many_complete hitem.advances_nextItem hstep hnext hothers hrest
    (nextItem_eq_none_iff.mpr ⟨hnot, rfl⟩)
  have hfirst := hcomplete phrase first (others ++ rest) hphrase
    (hothers.follow_append hnext hrest)
  rw [sepBy1_eq, List.append_assoc, bind_of_ok hfirst, bind_of_ok hmany]
  rfl

end Lists

end CqlCompiler.Parser
