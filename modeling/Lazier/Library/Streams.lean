import Mathlib

/-!
# Streams that stop at the first failure

A stream processor works through a list of items and stops at the first one
that fails.  An item that a state ignores can be put into the list anywhere,
as long as every state on the way keeps ignoring it.
-/

namespace Lazier.Library

variable {State Item Failure : Type}

/-- Process the items in order; a failure ends the stream. -/
def processAll (step : State → Item → State × Option Failure) :
    State → List Item → State × Option Failure
  | state, [] => (state, none)
  | state, item :: rest =>
    match step state item with
    | (next, none) => processAll step next rest
    | (next, some failure) => (next, some failure)

/-- The longer list is the base list with extra items put in anywhere. -/
inductive Inserted (extra : Item → Prop) : List Item → List Item → Prop
  | nil : Inserted extra [] []
  | keep {base longer : List Item} (item : Item) (rest : Inserted extra base longer) :
      Inserted extra (item :: base) (item :: longer)
  | insert {base longer : List Item} {item : Item} (hextra : extra item)
      (rest : Inserted extra base longer) : Inserted extra base (item :: longer)

theorem Inserted.single {extra : Item → Prop} {item : Item}
    (hextra : extra item) : Inserted extra [] [item] := .insert hextra .nil

variable {step : State → Item → State × Option Failure}

theorem processAll_single {state : State} {item : Item} :
    processAll step state [item] = step state item := by
  rw [processAll]
  rcases step state item with ⟨next, _ | failure⟩ <;> rfl

theorem processAll_inserted {extra : Item → Prop} (inv : State → Prop)
    (hkeep : ∀ state item, inv state → inv (step state item).1)
    (hignored : ∀ state item, inv state → extra item → step state item = (state, none))
    {base longer : List Item} (hinserted : Inserted extra base longer)
    {state : State} (hstate : inv state) :
    processAll step state longer = processAll step state base := by
  induction hinserted generalizing state with
  | nil => rfl
  | keep item rest ih =>
    have hnext := hkeep state item hstate
    rw [processAll, processAll]
    rcases hstep : step state item with ⟨next, _ | failure⟩
    · rw [hstep] at hnext
      exact ih hnext
    · rfl
  | insert hextra rest ih =>
    rw [processAll, hignored state _ hstate hextra]
    exact ih hstate

end Lazier.Library
