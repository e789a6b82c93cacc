import Mathlib.Data.List.Basic

/-! # Loops that collect

A loop whose body yields one item and the state for the next round, until it stops. The relation
holds only of loops that end.
-/

namespace CollectLoop

variable {State Item : Type*}

/-- The loop ends after finitely many rounds and has collected the items. -/
inductive Collects (step : State → Option (Item × State)) : State → List Item → Prop
  | stop {state : State} (ended : step state = none) : Collects step state []
  | next {state after : State} {item : Item} {items : List Item}
      (stepped : step state = some (item, after)) (rest : Collects step after items) :
      Collects step state (item :: items)

/-- The items of at most so many rounds. -/
def collect (step : State → Option (Item × State)) : Nat → State → List Item
  | 0, _ => []
  | fuel + 1, state =>
      match step state with
      | none => []
      | some (item, after) => item :: collect step fuel after

variable {step : State → Option (Item × State)} {state : State}

theorem Collects.unique {items others : List Item} (collects : Collects step state items)
    (also : Collects step state others) : items = others := by
  induction collects generalizing others with
  | stop ended =>
      cases also with
      | stop => rfl
      | next stepped =>
          rw [ended] at stepped
          cases stepped
  | next stepped _ ih =>
      cases also with
      | stop ended =>
          rw [ended] at stepped
          cases stepped
      | next steppedAlso rest =>
          rw [stepped, Option.some.injEq, Prod.mk.injEq] at steppedAlso
          obtain ⟨rfl, rfl⟩ := steppedAlso
          rw [ih rest]

/-- A loop whose states get smaller ends, and as many rounds as the size are enough. -/
theorem collects_collect (size : State → Nat)
    (smaller : ∀ state item after, step state = some (item, after) → size after < size state)
    {fuel : Nat} (enough : size state ≤ fuel) : Collects step state (collect step fuel state) := by
  induction fuel generalizing state with
  | zero =>
      refine Collects.stop ?_
      cases stepped : step state with
      | none => rfl
      | some result => exact absurd (smaller state _ _ stepped) (by omega)
  | succ fuel ih =>
      rw [collect]
      cases stepped : step state with
      | none => exact Collects.stop stepped
      | some result =>
          have less := smaller state _ _ stepped
          exact Collects.next stepped (ih (by omega))

end CollectLoop
