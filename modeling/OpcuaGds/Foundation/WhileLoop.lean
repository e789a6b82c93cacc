import Mathlib.Order.Basic

/-! # Loops with an exit

A loop whose body goes on, leaves the loop with a result, or faults.
-/

namespace WhileLoop

/-- What a round of a loop comes to when it does not fault. -/
inductive Round (State Result : Type*)
  | next (state : State)
  | left (result : Result)

variable {State Result : Type*}

/-- The result of the loop; `none` when a round faults or the rounds are used up. -/
def run (round : State → Option (Round State Result)) : Nat → State → Option Result
  | 0, _ => none
  | fuel + 1, state =>
      match round state with
      | none => none
      | some (.left result) => some result
      | some (.next after) => run round fuel after

variable {round : State → Option (Round State Result)}

/-- Total correctness: where a round keeps the invariant and makes the state smaller or leaves
with a right result, the loop ends with one, after no more rounds than the size. -/
theorem run_of_variant {invariant : State → Prop} {right : Result → Prop} {size : State → Nat}
    (step : ∀ state, invariant state →
      (∃ result, round state = some (.left result) ∧ right result) ∨
        ∃ after, round state = some (.next after) ∧ invariant after ∧ size after < size state)
    {fuel : Nat} {state : State} (holds : invariant state) (enough : size state < fuel) :
    ∃ result, run round fuel state = some result ∧ right result := by
  induction fuel generalizing state with
  | zero => exact absurd enough (Nat.not_lt_zero _)
  | succ fuel ih =>
      rw [run]
      obtain ⟨result, exits, good⟩ | ⟨after, goesOn, kept, smaller⟩ := step state holds
      · rw [exits]
        exact ⟨result, rfl, good⟩
      · rw [goesOn]
        exact ih kept (Nat.lt_of_lt_of_le smaller (Nat.le_of_lt_succ enough))

end WhileLoop
