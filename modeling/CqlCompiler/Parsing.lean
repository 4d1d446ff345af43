/-!
# Parsers over a list of items

A parser takes items off the front of a list and gives a result with the items
it left, or fails.  The items are characters or tokens.  The only loop is
`many`: it repeats a step as long as the step says that there is more.  The
items themselves bound the number of rounds: after the first round there is at
most one for each of them.  A step that takes an item in each round has come to
its end by then, which is what `many_eq` says.
-/

namespace CqlCompiler

/-- Takes items of type `τ` off the front of a list, or fails with an `ε`. -/
abbrev Parser (τ ε : Type) := StateT (List τ) (Except ε)

namespace Parser

variable {τ ε α : Type}

/-- The item at the front, which stays there. -/
def peek? : Parser τ ε (Option τ) := do
  return (← get).head?

/-- Takes the item at the front if it has the property. -/
def takeIf? (p : τ → Bool) : Parser τ ε (Option τ) := do
  match ← get with
  | item :: rest => if p item then set rest; return some item else return none
  | [] => return none

/-- Takes the item at the front if it has the property, and says whether. -/
def skipIf (p : τ → Bool) : Parser τ ε Bool := do
  return (← takeIf? p).isSome

/-- Takes the longest run of items with the property. -/
def takeWhile (p : τ → Bool) : Parser τ ε (List τ) := do
  let items ← get
  set (items.dropWhile p)
  return items.takeWhile p

/-- The result of a parser that may fail; a failed one takes nothing. -/
def optional? (parser : Parser τ ε α) : Parser τ ε (Option α) := fun items =>
  match parser items with
  | .ok (result, rest) => .ok (some result, rest)
  | .error _ => .ok (none, items)

/-- Repeats `step` until it gives `none` and collects its results, with at most
one further round for each element of `budget`. -/
def manyWithin (step : Parser τ ε (Option α)) (budget : List τ) (items : List τ) :
    Except ε (List α × List τ) :=
  match step items with
  | .error error => .error error
  | .ok (none, rest) => .ok ([], rest)
  | .ok (some result, rest) =>
    match budget with
    | [] => .ok ([result], rest)
    | _ :: budget' =>
      match manyWithin step budget' rest with
      | .error error => .error error
      | .ok (results, rest') => .ok (result :: results, rest')

/-- Repeats `step` until it gives `none`, and collects its results. -/
def many (step : Parser τ ε (Option α)) : Parser τ ε (List α) := fun items =>
  manyWithin step items items

/-- One `item`, and one more after each separator. -/
def sepBy1 (item : Parser τ ε α) (separator : Parser τ ε Bool) : Parser τ ε (List α) := do
  let first ← item
  let others ← many do
    if ← separator then some <$> item else return none
  return first :: others

/-! ## Repetition ends -/

/-- Each round of the step takes at least one item. -/
def Advances (step : Parser τ ε (Option α)) : Prop :=
  ∀ items result rest, step items = .ok (some result, rest) → rest.length < items.length

/-- A budget beyond the number of items makes no difference. -/
theorem manyWithin_of_length_le {step : Parser τ ε (Option α)} (hstep : Advances step)
    {budget budget' items : List τ} (h : items.length ≤ budget.length)
    (h' : items.length ≤ budget'.length) :
    manyWithin step budget items = manyWithin step budget' items := by
  induction budget generalizing budget' items with
  | nil =>
    rw [manyWithin, manyWithin]
    cases hround : step items with
    | error error => rfl
    | ok pair =>
      obtain ⟨result, rest⟩ := pair
      cases result with
      | none => rfl
      | some result =>
        have hrest := hstep items result rest hround
        simp only [List.length_nil] at h
        omega
  | cons head budget ih =>
    rw [manyWithin, manyWithin]
    cases hround : step items with
    | error error => rfl
    | ok pair =>
      obtain ⟨result, rest⟩ := pair
      cases result with
      | none => rfl
      | some result =>
        have hrest := hstep items result rest hround
        cases budget' with
        | nil =>
          simp only [List.length_nil] at h'
          omega
        | cons head' budget' =>
          simp only [List.length_cons] at h h'
          have hbudget : rest.length ≤ budget.length := by omega
          have hbudget' : rest.length ≤ budget'.length := by omega
          simp only [ih hbudget hbudget']

/-- A repetition is its first round and the repetition on what that leaves. -/
theorem many_eq {step : Parser τ ε (Option α)} (hstep : Advances step) (items : List τ) :
    many step items =
      match step items with
      | .error error => .error error
      | .ok (none, rest) => .ok ([], rest)
      | .ok (some result, rest) =>
        match many step rest with
        | .error error => .error error
        | .ok (results, rest') => .ok (result :: results, rest') := by
  rw [many, manyWithin]
  cases hround : step items with
  | error error => rfl
  | ok pair =>
    obtain ⟨result, rest⟩ := pair
    cases result with
    | none => rfl
    | some result =>
      have hrest := hstep items result rest hround
      cases items with
      | nil => simp at hrest
      | cons item items =>
        simp only [List.length_cons] at hrest
        have hbudget : rest.length ≤ items.length := by omega
        simp only [many, manyWithin_of_length_le hstep hbudget (Nat.le_refl rest.length)]

end Parser

end CqlCompiler
