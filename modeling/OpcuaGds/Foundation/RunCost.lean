import Mathlib.Algebra.GroupWithZero.Nat
import OpcuaGds.Foundation.Transition

/-! # The cost of a run

What the steps of a run cost altogether, and how a potential of the states bounds it.
-/

namespace Transition

variable {State Event : Type*}

/-- What the steps of a run cost altogether. -/
def runCost (step : State → Event → Option State) (cost : State → Event → Nat) :
    State → List Event → Nat
  | _, [] => 0
  | state, event :: events =>
      cost state event + (step state event).elim 0 fun next => runCost step cost next events

variable {step : State → Event → Option State} {cost : State → Event → Nat}

@[simp] theorem runCost_nil (state : State) : runCost step cost state [] = 0 := rfl

theorem runCost_cons {state next : State} {event : Event} (stepped : step state event = some next)
    (events : List Event) :
    runCost step cost state (event :: events) =
      cost state event + runCost step cost next events := by
  rw [runCost, stepped]
  rfl

/-- Where every step can be made, every run can. -/
theorem exists_run (total : ∀ state event, ∃ next, step state event = some next)
    (state : State) (events : List Event) : ∃ final, run step state events = some final := by
  induction events generalizing state with
  | nil => exact ⟨state, rfl⟩
  | cons event events ih =>
      obtain ⟨next, stepped⟩ := total state event
      obtain ⟨final, reached⟩ := ih next
      exact ⟨final, run_cons_eq_some.mpr ⟨next, stepped, reached⟩⟩

/-- If every step is paid for by the potential that it takes and by what its event brings, the run
is paid for by the first potential and by what all events bring. -/
theorem runCost_add_le {potential : State → Nat} {brings : Event → Nat}
    (paid : ∀ state event next, step state event = some next →
      cost state event + potential next ≤ potential state + brings event)
    {state final : State} {events : List Event} (reached : run step state events = some final) :
    runCost step cost state events + potential final ≤
      potential state + (events.map brings).sum := by
  induction events generalizing state with
  | nil =>
      cases reached
      simp
  | cons event events ih =>
      obtain ⟨next, stepped, rest⟩ := run_cons_eq_some.mp reached
      have here := paid state event next stepped
      have later := ih rest
      rw [runCost_cons stepped, List.map_cons, List.sum_cons]
      omega

end Transition
