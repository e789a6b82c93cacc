import Mathlib.Data.List.Induction
import Mathlib.Data.List.Pairwise

/-! # Requests that are admitted or not

A gate decides on each request from its state, which the decision may change. A run is a list of
requests; the log has those that were admitted, in their order.
-/

namespace Admission

variable {State Request : Type*} (gate : State → Request → Bool × State)

/-- The state after the requests. -/
def after (state : State) (requests : List Request) : State :=
  requests.foldl (fun state request => (gate state request).2) state

/-- The log with one more request. -/
def logged (state : State) (request : Request) (log : List Request) : List Request :=
  if (gate state request).1 then log ++ [request] else log

/-- The requests that are admitted. -/
def admitted : State → List Request → List Request
  | _, [] => []
  | state, request :: rest =>
      if (gate state request).1 then request :: admitted (gate state request).2 rest
      else admitted (gate state request).2 rest

variable {gate}

theorem after_append_singleton (state : State) (requests : List Request) (request : Request) :
    after gate state (requests ++ [request]) = (gate (after gate state requests) request).2 :=
  List.foldl_append

theorem admitted_append_singleton (state : State) (requests : List Request) (request : Request) :
    admitted gate state (requests ++ [request]) =
      logged gate (after gate state requests) request (admitted gate state requests) := by
  induction requests generalizing state with
  | nil =>
      rw [List.nil_append, admitted, admitted, logged, admitted]
      rfl
  | cons first rest ih =>
      rw [List.cons_append, admitted, ih, admitted, logged, logged]
      have shifted : after gate state (first :: rest) = after gate (gate state first).2 rest :=
        rfl
      rw [shifted]
      split <;> split <;> rfl

/-- What holds before the first request and is kept by every request that stands in the order to
those before it holds after every run in that order. -/
theorem holds_of_step {order : Request → Request → Prop} {start : State}
    {holds : List Request → State → List Request → Prop} (initial : holds [] start [])
    (step : ∀ seen request state log, (∀ earlier ∈ seen, order earlier request) →
      holds seen state log →
        holds (seen ++ [request]) (gate state request).2 (logged gate state request log))
    {requests : List Request} (ordered : requests.Pairwise order) :
    holds requests (after gate start requests) (admitted gate start requests) := by
  induction requests using List.reverseRecOn with
  | nil => exact initial
  | append_singleton seen request ih =>
      obtain ⟨before, -, across⟩ := List.pairwise_append.mp ordered
      rw [after_append_singleton, admitted_append_singleton]
      exact step seen request _ _
        (fun earlier among => across earlier among request List.mem_cons_self) (ih before)

/-! ## A part of the state -/

section Views

variable {View : Type*} {viewGate : View → Request → Bool × View}

/-- The requests of a kind are decided by a view of the state, which the others leave alone. -/
structure Decides (gate : State → Request → Bool × State) (viewGate : View → Request → Bool × View)
    (view : State → View) (concerns : Request → Bool) : Prop where
  decision : ∀ state request, concerns request = true →
    (gate state request).1 = (viewGate (view state) request).1
  changes : ∀ state request, concerns request = true →
    view (gate state request).2 = (viewGate (view state) request).2
  keeps : ∀ state request, concerns request = false → view (gate state request).2 = view state

variable {view : State → View} {concerns : Request → Bool}

/-- The view after a run is the view after the requests of the kind. -/
theorem Decides.after_filter (decides : Decides gate viewGate view concerns) (state : State)
    (requests : List Request) :
    view (after gate state requests) =
      after viewGate (view state) (requests.filter concerns) := by
  induction requests generalizing state with
  | nil => rfl
  | cons request rest ih =>
      have shifted : after gate state (request :: rest) = after gate (gate state request).2 rest :=
        rfl
      rw [shifted, ih]
      cases kind : concerns request with
      | true =>
          rw [List.filter_cons_of_pos kind, decides.changes state request kind]
          rfl
      | false =>
          rw [List.filter_cons_of_neg (Bool.eq_false_iff.mp kind), decides.keeps state request kind]

/-- The requests of the kind that a run admits are those that the view admits. -/
theorem Decides.filter_admitted (decides : Decides gate viewGate view concerns) (state : State)
    (requests : List Request) :
    (admitted gate state requests).filter concerns =
      admitted viewGate (view state) (requests.filter concerns) := by
  induction requests generalizing state with
  | nil => rfl
  | cons request rest ih =>
      cases kind : concerns request with
      | true =>
          rw [List.filter_cons_of_pos kind, admitted, admitted,
            ← decides.decision state request kind, ← decides.changes state request kind, ← ih]
          split
          · exact List.filter_cons_of_pos kind
          · rfl
      | false =>
          rw [List.filter_cons_of_neg (Bool.eq_false_iff.mp kind), admitted,
            ← decides.keeps state request kind, ← ih]
          split
          · exact List.filter_cons_of_neg (Bool.eq_false_iff.mp kind)
          · rfl

end Views

end Admission
