import Mathlib.Order.Basic
import Mathlib.Data.List.Infix

/-! # Runs of a deterministic event system

A system is given by a partial step function: an event that is not enabled has
no successor. All nondeterminism (the interleaving of several parties, the
answers of the outside world) sits in the event list, so a statement about every
event list is a statement about every run.
-/

namespace Transition

variable {State Event : Type*} (step : State → Event → Option State)

/-- The state a fixed event list leads to, when every event is enabled in turn. -/
def run : State → List Event → Option State
  | state, [] => some state
  | state, event :: events => (step state event).bind fun next => run next events

/-- A relation between a state, an event and its successor holds at every step
that the event list takes. -/
def EveryStep (holds : State → Event → State → Prop) : State → List Event → Prop
  | _, [] => True
  | state, event :: events =>
      ∀ next, step state event = some next → holds state event next ∧ EveryStep holds next events

/-- A measure never decreases between two states that one run visits. -/
def NeverDecreases {Measure : Type*} [LE Measure] (measure : State → Measure)
    (state : State) (events : List Event) : Prop :=
  ∀ front back, front ++ back <+: events → ∀ middle last,
    run step state front = some middle → run step middle back = some last →
      measure middle ≤ measure last

/-- A run of finitely many steps can be looked through. -/
instance EveryStep.decidable {holds : State → Event → State → Prop}
    [∀ state event next, Decidable (holds state event next)] :
    ∀ state events, Decidable (EveryStep step holds state events)
  | _, [] => isTrue trivial
  | state, event :: events =>
      match taken : step state event with
      | none => isTrue fun next stepped => by rw [taken] at stepped; cases stepped
      | some next =>
          have : Decidable (EveryStep step holds next events) := decidable next events
          decidable_of_iff (holds state event next ∧ EveryStep step holds next events)
            ⟨fun held other stepped => by
              rw [taken] at stepped
              cases stepped
              exact held,
            fun every => every next taken⟩

variable {step}

@[simp] theorem run_nil (state : State) : run step state [] = some state := rfl

theorem run_cons (state : State) (event : Event) (events : List Event) :
    run step state (event :: events) =
      (step state event).bind fun next => run step next events := rfl

theorem run_cons_eq_some {state final : State} {event : Event} {events : List Event} :
    run step state (event :: events) = some final ↔
      ∃ next, step state event = some next ∧ run step next events = some final := by
  rw [run_cons, Option.bind_eq_some_iff]

/-- Running appended lists is running one after the other. -/
theorem run_append (state : State) (front back : List Event) :
    run step state (front ++ back) =
      (run step state front).bind fun middle => run step middle back := by
  induction front generalizing state with
  | nil => rfl
  | cons event front ih =>
      rw [List.cons_append, run_cons, run_cons, Option.bind_assoc]
      congr 1
      funext next
      exact ih next

/-- What every step preserves holds at the end of a run. -/
theorem run_invariant {invariant : State → Prop}
    (preserved : ∀ state event next, invariant state → step state event = some next →
      invariant next)
    {state final : State} {events : List Event} (initial : invariant state)
    (reached : run step state events = some final) : invariant final := by
  induction events generalizing state with
  | nil => cases reached; exact initial
  | cons event events ih =>
      obtain ⟨next, stepped, rest⟩ := run_cons_eq_some.mp reached
      exact ih (preserved state event next initial stepped) rest

/-- What holds of the events so far and the state they lead to, at the start and after every
step, holds at the end of a run. -/
theorem run_history {invariant : List Event → State → Prop} {state : State}
    (preserved : ∀ past before event after, run step state past = some before →
      invariant past before → step before event = some after → invariant (past ++ [event]) after)
    {final : State} {events : List Event} (initial : invariant [] state)
    (reached : run step state events = some final) : invariant events final := by
  induction events using List.reverseRecOn generalizing final with
  | nil => cases reached; exact initial
  | append_singleton past event ih =>
      rw [run_append] at reached
      obtain ⟨before, earlier, last⟩ := Option.bind_eq_some_iff.mp reached
      obtain ⟨after, stepped, ended⟩ := run_cons_eq_some.mp last
      cases ended
      exact preserved past before event final earlier (ih earlier) stepped

/-- What the events of a kind preserve holds at the end of a run of such events. -/
theorem run_invariant_of_good {invariant : State → Prop} {good : Event → Prop}
    (preserved : ∀ state event next, invariant state → good event →
      step state event = some next → invariant next)
    {state final : State} {events : List Event} (initial : invariant state)
    (each : ∀ event ∈ events, good event) (reached : run step state events = some final) :
    invariant final := by
  induction events generalizing state with
  | nil => cases reached; exact initial
  | cons event events ih =>
      obtain ⟨next, stepped, rest⟩ := run_cons_eq_some.mp reached
      have kept := preserved state event next initial (each event List.mem_cons_self) stepped
      exact ih kept (fun later member => each later (List.mem_cons_of_mem _ member)) rest

/-- A projection that every step commutes with carries runs to runs. -/
theorem run_map_of_commutes {Other : Type*} {other : Other → Event → Option Other}
    (project : State → Other) (invariant : State → Prop) (good : Event → Prop)
    (preserved : ∀ state event next, invariant state → good event →
      step state event = some next → invariant next)
    (commutes : ∀ state event, invariant state → good event →
      (step state event).map project = other (project state) event)
    {state : State} {events : List Event} (initial : invariant state)
    (each : ∀ event ∈ events, good event) :
    (run step state events).map project = run other (project state) events := by
  induction events generalizing state with
  | nil => rfl
  | cons event events ih =>
      have isGood := each event List.mem_cons_self
      rw [run_cons, run_cons, ← commutes state event initial isGood, Option.map_bind,
        Option.bind_map]
      cases stepped : step state event with
      | none => rfl
      | some next =>
          exact ih (preserved state event next initial isGood stepped) fun later member =>
            each later (List.mem_cons_of_mem _ member)

/-- What every step of a kind preserves holds at the end of a run whose steps
are all of that kind. -/
theorem EveryStep.run_invariant {invariant : State → Prop}
    {holds : State → Event → State → Prop}
    (preserved : ∀ state event next, invariant state → step state event = some next →
      holds state event next → invariant next)
    {state final : State} {events : List Event} (every : EveryStep step holds state events)
    (initial : invariant state) (reached : run step state events = some final) :
    invariant final := by
  induction events generalizing state with
  | nil => cases reached; exact initial
  | cons event events ih =>
      obtain ⟨next, stepped, rest⟩ := run_cons_eq_some.mp reached
      obtain ⟨here, later⟩ := every next stepped
      exact ih later (preserved state event next initial stepped here) rest

/-- What every step of a kind preserves holds after every step of a run whose steps are all
of that kind. -/
theorem EveryStep.every_state {invariant : State → Prop}
    {holds : State → Event → State → Prop}
    (preserved : ∀ state event next, invariant state → step state event = some next →
      holds state event next → invariant next)
    {state : State} {events : List Event} (every : EveryStep step holds state events)
    (initial : invariant state) : EveryStep step (fun _ _ next => invariant next) state events := by
  induction events generalizing state with
  | nil => trivial
  | cons event events ih =>
      intro next stepped
      obtain ⟨here, later⟩ := every next stepped
      have kept := preserved state event next initial stepped here
      exact ⟨kept, ih later kept⟩

/-- Every step has what follows from what it has. -/
theorem EveryStep.imp {holds weaker : State → Event → State → Prop}
    (implies : ∀ state event next, holds state event next → weaker state event next)
    {state : State} {events : List Event} (every : EveryStep step holds state events) :
    EveryStep step weaker state events := by
  induction events generalizing state with
  | nil => trivial
  | cons event events ih =>
      intro next stepped
      obtain ⟨here, later⟩ := every next stepped
      exact ⟨implies state event next here, ih later⟩

/-- Every step has what follows from what it has and from an invariant that such steps
keep. -/
theorem EveryStep.imp_of_kept (invariant : State → Prop)
    {holds weaker : State → Event → State → Prop}
    (kept : ∀ state event next, invariant state → step state event = some next →
      holds state event next → invariant next)
    (implies : ∀ state event next, invariant state → step state event = some next →
      holds state event next → weaker state event next)
    {state : State} {events : List Event} (every : EveryStep step holds state events)
    (initial : invariant state) : EveryStep step weaker state events := by
  induction events generalizing state with
  | nil => trivial
  | cons event events ih =>
      intro next stepped
      obtain ⟨here, later⟩ := every next stepped
      exact ⟨implies state event next initial stepped here,
        ih later (kept state event next initial stepped here)⟩

theorem EveryStep.and {first second : State → Event → State → Prop} {state : State}
    {events : List Event} (every : EveryStep step first state events)
    (also : EveryStep step second state events) :
    EveryStep step (fun before event after => first before event after ∧ second before event after)
      state events := by
  induction events generalizing state with
  | nil => trivial
  | cons event events ih =>
      intro next stepped
      obtain ⟨here, later⟩ := every next stepped
      obtain ⟨alsoHere, alsoLater⟩ := also next stepped
      exact ⟨⟨here, alsoHere⟩, ih later alsoLater⟩

/-- What is true of every event can be added to what every step has. -/
theorem EveryStep.and_event {holds : State → Event → State → Prop} {good : Event → Prop}
    {state : State} {events : List Event} (every : EveryStep step holds state events)
    (each : ∀ event ∈ events, good event) :
    EveryStep step (fun before event after => holds before event after ∧ good event) state
      events := by
  induction events generalizing state with
  | nil => trivial
  | cons event events ih =>
      intro next stepped
      obtain ⟨here, later⟩ := every next stepped
      have isGood := each event List.mem_cons_self
      have rest : ∀ event ∈ events, good event := fun event member =>
        each event (List.mem_cons_of_mem _ member)
      exact ⟨⟨here, isGood⟩, ih later rest⟩

/-- A state property that holds after every step holds in the end. -/
theorem EveryStep.final {good : State → Prop} {state final : State} {events : List Event}
    (every : EveryStep step (fun _ _ next => good next) state events) (start : good state)
    (reached : run step state events = some final) : good final := by
  have preserved : ∀ before event after, good before → step before event = some after →
      good after → good after :=
    fun _ _ _ _ _ kept => kept
  exact every.run_invariant preserved start reached

/-- A property of all steps holds along every run. -/
theorem EveryStep.of_forall (invariant : State → Prop) {holds : State → Event → State → Prop}
    (preserved : ∀ state event next, invariant state → step state event = some next →
      invariant next)
    (each : ∀ state event next, invariant state → step state event = some next →
      holds state event next)
    {state : State} (events : List Event) (initial : invariant state) :
    EveryStep step holds state events := by
  induction events generalizing state with
  | nil => trivial
  | cons event events ih =>
      intro next stepped
      exact ⟨each state event next initial stepped, ih (preserved state event next initial stepped)⟩

/-- Two step properties that agree under what the first of them keeps hold along the same
runs. -/
theorem EveryStep.congr_of_kept (invariant : State → Prop)
    {holds other : State → Event → State → Prop}
    (kept : ∀ state event next, invariant state → step state event = some next →
      holds state event next → invariant next)
    (agree : ∀ state event next, invariant state → step state event = some next →
      (holds state event next ↔ other state event next))
    {state : State} (events : List Event) (initial : invariant state) :
    EveryStep step holds state events ↔ EveryStep step other state events := by
  induction events generalizing state with
  | nil => exact Iff.rfl
  | cons event events ih =>
      refine forall_congr' fun next => forall_congr' fun stepped => ?_
      rw [← agree state event next initial stepped]
      exact and_congr_right fun here => ih (kept state event next initial stepped here)

/-- Two step properties that agree under an invariant hold along the same runs. -/
theorem EveryStep.congr (invariant : State → Prop)
    {holds other : State → Event → State → Prop}
    (preserved : ∀ state event next, invariant state → step state event = some next →
      invariant next)
    (agree : ∀ state event next, invariant state → step state event = some next →
      (holds state event next ↔ other state event next))
    {state : State} (events : List Event) (initial : invariant state) :
    EveryStep step holds state events ↔ EveryStep step other state events := by
  apply EveryStep.congr_of_kept invariant _ agree events initial
  intro state event next holdsBefore stepped _
  exact preserved state event next holdsBefore stepped

/-- A state property that each step keeps exactly under a condition holds along a run
if and only if every step meets the condition. -/
theorem EveryStep.invariant_iff (invariant : State → Prop) {good : State → Prop}
    {holds : State → Event → State → Prop}
    (preserved : ∀ state event next, invariant state → step state event = some next →
      invariant next)
    (agree : ∀ state event next, invariant state → good state → step state event = some next →
      (good next ↔ holds state event next))
    {state : State} (events : List Event) (initial : invariant state) (start : good state) :
    EveryStep step (fun _ _ next => good next) state events ↔
      EveryStep step holds state events := by
  induction events generalizing state with
  | nil => exact Iff.rfl
  | cons event events ih =>
      refine forall_congr' fun next => forall_congr' fun stepped => ?_
      rw [← agree state event next initial start stepped]
      exact and_congr_right fun kept => ih (preserved state event next initial stepped) kept

theorem EveryStep.append_iff {holds : State → Event → State → Prop} {state : State}
    {front back : List Event} :
    EveryStep step holds state (front ++ back) ↔
      EveryStep step holds state front ∧
        ∀ middle, run step state front = some middle → EveryStep step holds middle back := by
  induction front generalizing state with
  | nil => simp [EveryStep]
  | cons event front ih =>
      simp only [List.cons_append, EveryStep, ih, run_cons_eq_some]
      constructor
      · intro every
        exact ⟨fun next stepped => ⟨(every next stepped).1, (every next stepped).2.1⟩,
          fun middle ⟨next, stepped, rest⟩ => (every next stepped).2.2 middle rest⟩
      · rintro ⟨every, later⟩ next stepped
        exact ⟨(every next stepped).1, (every next stepped).2,
          fun middle rest => later middle ⟨next, stepped, rest⟩⟩

/-- A measure that no step of the run lowers is monotone over the run. -/
theorem EveryStep.measure_le {Measure : Type*} [Preorder Measure] {measure : State → Measure}
    {state final : State} {events : List Event}
    (every : EveryStep step (fun before _ after => measure before ≤ measure after) state events)
    (reached : run step state events = some final) : measure state ≤ measure final := by
  have preserved : ∀ before event after, measure state ≤ measure before →
      step before event = some after → measure before ≤ measure after →
        measure state ≤ measure after :=
    fun _ _ _ below _ up => below.trans up
  exact every.run_invariant preserved le_rfl reached

/-- Visiting the states of a run in pairs says no more than visiting its steps. -/
theorem neverDecreases_iff_everyStep {Measure : Type*} [Preorder Measure]
    {measure : State → Measure} {state : State} {events : List Event} :
    NeverDecreases step measure state events ↔
      EveryStep step (fun before _ after => measure before ≤ measure after) state events := by
  constructor
  · intro never
    induction events generalizing state with
    | nil => trivial
    | cons event events ih =>
        intro next stepped
        have single : run step state [event] = some next := by simp [run_cons, stepped]
        refine ⟨never [] [event] (by simp) state next rfl single, ih ?_⟩
        intro front back within middle last first second
        refine never (event :: front) back (by simpa using within) middle last ?_ second
        simpa [run_cons, stepped] using first
  · intro every front back within middle last first second
    obtain ⟨rest, rfl⟩ := within
    rw [List.append_assoc, EveryStep.append_iff] at every
    exact (EveryStep.append_iff.mp (every.2 middle first)).1.measure_le second

end Transition
