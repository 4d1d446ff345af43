import CqlCompiler.Proofs.Failures

/-!
# Loops that progress

A loop repeats a round, which says whether another one follows.  If each such
round takes something off the front, then what is left gets shorter and there
are finitely many rounds.

There are three groups.

* Runs.  `LoopRun` is a run of a loop through all its rounds, and
  `Loop.of_unfolds` finds one for a function that does one round and then the
  same again.
* Ends.  `LeavesEnd` says that a parser does not go back.
* The loops of parsers.  `many_loop` is about a step that is repeated as long as
  it gives something, and `sepBy1_loop` about items with a separator.
-/

namespace CqlCompiler.Parser

variable {τ ε α σ : Type}

/-! ## Runs -/

/-- A true end of a list. -/
def Shorter (rest items : List τ) : Prop :=
  rest <:+ items ∧ rest.length < items.length

theorem shorter_cons {rest items : List τ} (h : rest <:+ items) (item : τ) :
    Shorter rest (item :: items) :=
  ⟨h.trans (List.suffix_cons item items), Nat.lt_succ_of_le h.length_le⟩

theorem Shorter.of_suffix {rest middle items : List τ} (h : Shorter rest middle)
    (hmiddle : middle <:+ items) : Shorter rest items :=
  ⟨h.1.trans hmiddle, Nat.lt_of_lt_of_le h.2 hmiddle.length_le⟩

/-- One round of a loop that carries a state.  The flag says whether another
round follows. -/
abbrev LoopRound (τ ε σ : Type) := σ → Parser τ ε (σ × Bool)

/-- A run of a loop through all its rounds.  It ends where no other round
follows, or where a round fails. -/
inductive LoopRun (round : LoopRound τ ε σ) :
    σ → List τ → Except ε (σ × List τ) → Prop where
  | stop {state state' : σ} {items rest : List τ}
      (h : round state items = .ok ((state', false), rest)) :
      LoopRun round state items (.ok (state', rest))
  | fail {state : σ} {items : List τ} {cause : ε} (h : round state items = .error cause) :
      LoopRun round state items (.error cause)
  | again {state state' : σ} {items rest : List τ} {outcome : Except ε (σ × List τ)}
      (h : round state items = .ok ((state', true), rest))
      (hrun : LoopRun round state' rest outcome) : LoopRun round state items outcome

/-- Each round that another one follows leaves a true end of what it starts at. -/
def Progresses (round : LoopRound τ ε σ) : Prop :=
  ∀ state items state' rest, round state items = .ok ((state', true), rest) → Shorter rest items

/-- What comes after a round. -/
def goOn (routine : σ → Parser τ ε σ) : σ × Bool → Parser τ ε σ
  | (state, true) => routine state
  | (state, false) => pure state

/-- The function does one round, and then the same again if another one follows. -/
def Unfolds (round : LoopRound τ ε σ) (routine : σ → Parser τ ε σ) : Prop :=
  ∀ state, routine state = round state >>= goOn routine

/-- The function is a loop that comes to its end. -/
structure Loop (round : LoopRound τ ε σ) (routine : σ → Parser τ ε σ) : Prop where
  progresses : Progresses round
  /-- From wherever the loop starts there is a run with the outcome of the
  function. -/
  run : ∀ state items, LoopRun round state items (routine state items)

/-- A sequence fails where its first part does. -/
theorem bind_of_error {β : Type} {parser : Parser τ ε α} {next : α → Parser τ ε β}
    {items : List τ} {cause : ε} (h : parser items = .error cause) :
    (parser >>= next) items = .error cause := by
  change (parser items).bind _ = _
  rw [h]
  rfl

/-- The number of items that are left bounds the number of rounds. -/
theorem Loop.of_unfolds {round : LoopRound τ ε σ} {routine : σ → Parser τ ε σ}
    (hprogress : Progresses round) (hunfolds : Unfolds round routine) : Loop round routine := by
  have hruns : ∀ bound state items, items.length < bound →
      LoopRun round state items (routine state items) := by
    -- on a bound and not on the items: a round may take several of them
    intro bound
    induction bound with
    | zero =>
      intro state items hbound
      omega
    | succ bound ih =>
      intro state items hbound
      rw [hunfolds state]
      match hround : round state items with
      | .error cause => exact bind_of_error hround ▸ .fail hround
      | .ok ((state', false), rest) => exact bind_of_ok hround ▸ .stop hround
      | .ok ((state', true), rest) =>
        have hshorter := (hprogress state items state' rest hround).2
        exact bind_of_ok hround ▸ .again hround (ih state' rest (by omega))
  exact ⟨hprogress, fun state items => hruns _ state items (Nat.lt_succ_self _)⟩

/-! ## Ends -/

/-- A parser that succeeds leaves an end of what it starts at. -/
def LeavesEnd (parser : Parser τ ε α) : Prop :=
  ∀ items result rest, parser items = .ok (result, rest) → rest <:+ items

theorem LeavesEnd.of_within {parser : Parser τ ε α} {Cause : List τ → ε → Prop}
    (h : ∀ items, Within items (Cause items) (parser items)) : LeavesEnd parser := by
  intro items result rest hrun
  have hwithin := h items
  rw [hrun] at hwithin
  cases hwithin
  assumption

theorem LeavesEnd.of_staysWithin {parser : Parser τ ε α} {Cause : List τ → ε → Prop}
    (h : ∀ whole, StaysWithin whole (Cause whole) parser) : LeavesEnd parser :=
  .of_within fun items => h items items List.suffix_rfl

theorem LeavesEnd.bind {β : Type} {parser : Parser τ ε α} {next : α → Parser τ ε β}
    (h : LeavesEnd parser) (hnext : ∀ result, LeavesEnd (next result)) :
    LeavesEnd (parser >>= next) := by
  intro items result rest hrun
  obtain ⟨first, middle, hfirst, hrest⟩ := bind_eq_ok_iff.mp hrun
  exact (hnext first _ _ _ hrest).trans (h _ _ _ hfirst)

theorem leavesEnd_pure (result : α) : LeavesEnd (pure result : Parser τ ε α) := by
  intro items _ rest hrun
  obtain ⟨-, rfl⟩ := pure_eq_ok_iff.mp hrun
  exact List.suffix_rfl

theorem leavesEnd_peek? : LeavesEnd (peek? : Parser τ ε (Option τ)) := by
  intro items result rest h
  cases h
  exact List.suffix_rfl

theorem leavesEnd_skipIf (p : τ → Bool) : LeavesEnd (skipIf p : Parser τ ε Bool) := by
  intro items found rest h
  cases found with
  | false =>
    obtain ⟨-, rfl⟩ := skipIf_eq_false_iff.mp h
    exact List.suffix_rfl
  | true =>
    obtain ⟨item, rfl, -⟩ := skipIf_eq_true_iff.mp h
    exact List.suffix_cons item rest

/-! ## The loops of parsers -/

/-- One round of a loop that goes on as long as the step gives something. -/
def whileRound (step : Parser τ ε (Option α)) : LoopRound τ ε (List α) := fun found => do
  match ← step with
  | some result => return (found ++ [result], true)
  | none => return (found, false)

/-- One round of a loop that takes an item and goes on after a separator. -/
def itemRound (item : Parser τ ε α) (separator : Parser τ ε Bool) : LoopRound τ ε (List α) :=
  fun found => do
    let result ← item
    return (found ++ [result], ← separator)

/-- The results after those that there are already. -/
def collect (parser : Parser τ ε (List α)) : List α → Parser τ ε (List α) :=
  fun found => (found ++ ·) <$> parser

theorem whileRound_eq_ok_iff {step : Parser τ ε (Option α)} {found found' : List α}
    {items rest : List τ} :
    whileRound step found items = .ok ((found', true), rest) ↔
      ∃ result, step items = .ok (some result, rest) ∧ found' = found ++ [result] := by
  rw [whileRound, bind_eq_ok_iff]
  constructor
  · intro h
    rcases h with ⟨_ | result, middle, hstep, hpure⟩
    · cases hpure
    · cases hpure
      exact ⟨result, hstep, rfl⟩
  · intro ⟨result, hstep, hfound⟩
    exact ⟨some result, rest, hstep, by rw [hfound]; rfl⟩

theorem whileRound_progresses {step : Parser τ ε (Option α)} (hadvances : Advances step)
    (hend : LeavesEnd step) : Progresses (whileRound step) := by
  intro found items found' rest h
  obtain ⟨result, hstep, -⟩ := whileRound_eq_ok_iff.mp h
  exact ⟨hend _ _ _ hstep, hadvances _ _ _ hstep⟩

theorem collect_many_unfolds {step : Parser τ ε (Option α)} (hadvances : Advances step) :
    Unfolds (whileRound step) (collect (many step)) := by
  intro found
  calc
    collect (many step) found = (found ++ ·) <$> (step >>= afterRound (many step)) := by
      rw [← many_eq_bind hadvances, collect]
    _ = whileRound step found >>= goOn (collect (many step)) := by
      simp only [whileRound, map_bind, bind_assoc]
      refine bind_congr fun result => ?_
      cases result with
      | none => simp [afterRound, goOn]
      | some result => simp [afterRound, goOn, collect]

/-- A loop goes on as long as its step gives something. -/
theorem many_loop {step : Parser τ ε (Option α)} (hadvances : Advances step)
    (hend : LeavesEnd step) : Loop (whileRound step) (collect (many step)) :=
  .of_unfolds (whileRound_progresses hadvances hend) (collect_many_unfolds hadvances)

/-- A round that goes on only after a separator takes at least that. -/
theorem shorter_of_skipIf {p : τ → Bool} {items rest : List τ}
    (h : (skipIf p : Parser τ ε Bool) items = .ok (true, rest)) : Shorter rest items := by
  obtain ⟨item, rfl, -⟩ := skipIf_eq_true_iff.mp h
  exact shorter_cons List.suffix_rfl item

section Lists

variable {item : Parser τ ε α} {p : τ → Bool}

theorem advances_nextItem (hend : LeavesEnd item) : Advances (nextItem item (skipIf p)) := by
  intro items result rest h
  obtain ⟨mark, middle, rfl, -, hitem⟩ := nextItem_eq_some_iff.mp h
  exact (shorter_cons (hend _ _ _ hitem) mark).2

theorem leavesEnd_nextItem (hend : LeavesEnd item) : LeavesEnd (nextItem item (skipIf p)) := by
  intro items result rest h
  cases result with
  | none =>
    obtain ⟨-, rfl⟩ := nextItem_eq_none_iff.mp h
    exact List.suffix_rfl
  | some result =>
    obtain ⟨mark, middle, rfl, -, hitem⟩ := nextItem_eq_some_iff.mp h
    exact (shorter_cons (hend _ _ _ hitem) mark).1

/-- A list is its first item and, after a separator, a list again. -/
theorem sepBy1_eq_bind (hend : LeavesEnd item) :
    sepBy1 item (skipIf p) = (do
      let first ← item
      if ← skipIf p then (first :: ·) <$> sepBy1 item (skipIf p) else return [first]) := by
  have hothers : many (nextItem item (skipIf p)) = (do
      if ← skipIf p then sepBy1 item (skipIf p) else return []) := by
    rw [many_eq_bind (advances_nextItem hend)]
    simp only [nextItem, bind_assoc]
    refine bind_congr fun more => ?_
    cases more with
    | false => simp [afterRound]
    | true => simp [afterRound, sepBy1_eq, nextItem]
  calc
    sepBy1 item (skipIf p) = (do
        let first ← item
        (first :: ·) <$> many (nextItem item (skipIf p))) := by
      simp [sepBy1_eq]
    _ = _ := by
      rw [hothers]
      refine bind_congr fun first => ?_
      rw [map_bind]
      refine bind_congr fun more => ?_
      cases more <;> simp

theorem itemRound_progresses (hend : LeavesEnd item) : Progresses (itemRound item (skipIf p)) := by
  intro found items found' rest h
  simp only [itemRound, bind_eq_ok_iff, pure_eq_ok_iff, Prod.mk.injEq] at h
  obtain ⟨result, middle, hitem, more, _, hskip, ⟨-, rfl⟩, rfl⟩ := h
  exact (shorter_of_skipIf hskip).of_suffix (hend _ _ _ hitem)

theorem collect_sepBy1_unfolds (hend : LeavesEnd item) :
    Unfolds (itemRound item (skipIf p)) (collect (sepBy1 item (skipIf p))) := by
  intro found
  calc
    collect (sepBy1 item (skipIf p)) found = (do
        let first ← item
        let more ← skipIf p
        (found ++ ·) <$>
          if more then (first :: ·) <$> sepBy1 item (skipIf p) else pure [first]) := by
      conv => lhs; rw [collect, sepBy1_eq_bind hend]
      simp only [map_bind]
    _ = itemRound item (skipIf p) found >>= goOn (collect (sepBy1 item (skipIf p))) := by
      simp only [itemRound, bind_assoc, pure_bind]
      refine bind_congr fun first => bind_congr fun more => ?_
      cases more <;> simp [goOn, collect]

/-- A loop that takes an item goes on after each separator. -/
theorem sepBy1_loop (hend : LeavesEnd item) :
    Loop (itemRound item (skipIf p)) (collect (sepBy1 item (skipIf p))) :=
  .of_unfolds (itemRound_progresses hend) (collect_sepBy1_unfolds hend)

end Lists

end CqlCompiler.Parser
