import Mathlib.Data.List.Forall2
import Mathlib.Logic.Basic

/-! # Results of code that may raise

The checks and the reads of a function with early exits, and when their sequence returns.
-/

namespace Fallible

variable {Failure Value Result : Type}

/-- A check that raises unless its condition holds. -/
def check (condition : Prop) [Decidable condition] (failure : Failure) : Except Failure Unit :=
  if condition then .ok () else .error failure

/-- The value, or the failure of its absence. -/
def orRaise (failure : Failure) : Option Value → Except Failure Value
  | some value => .ok value
  | none => .error failure

theorem bind_eq_ok {first : Except Failure Value} {next : Value → Except Failure Result}
    {result : Result} :
    (first >>= next) = .ok result ↔ ∃ value, first = .ok value ∧ next value = .ok result := by
  cases first with
  | error failure =>
      constructor
      · exact fun impossible => nomatch impossible
      · rintro ⟨value, impossible, _⟩
        exact nomatch impossible
  | ok value =>
      constructor
      · exact fun continued => ⟨value, rfl, continued⟩
      · rintro ⟨other, same, continued⟩
        rw [Except.ok.injEq] at same
        exact same ▸ continued

theorem bind_eq_error {first : Except Failure Value} {next : Value → Except Failure Result}
    {failure : Failure} :
    (first >>= next) = .error failure ↔
      first = .error failure ∨ ∃ value, first = .ok value ∧ next value = .error failure := by
  cases first with
  | error other =>
      constructor
      · intro raised
        cases raised
        exact Or.inl rfl
      · rintro (raised | ⟨value, impossible, _⟩)
        · cases raised
          rfl
        · cases impossible
  | ok value =>
      constructor
      · exact fun continued => Or.inr ⟨value, rfl, continued⟩
      · rintro (impossible | ⟨other, same, continued⟩)
        · cases impossible
        · cases same
          exact continued

/-- A check has one result only. -/
theorem exists_check {rest : Unit → Prop} : (∃ done, rest done) ↔ rest () :=
  ⟨fun ⟨_, holds⟩ => holds, fun holds => ⟨(), holds⟩⟩

theorem check_eq_ok {condition : Prop} [Decidable condition] {failure : Failure} {result : Unit} :
    check condition failure = .ok result ↔ condition := by
  unfold check
  by_cases holds : condition
  · simp [holds]
  · simp [holds]

theorem check_eq_error {condition : Prop} [Decidable condition] {failure other : Failure} :
    check condition failure = .error other ↔ ¬ condition ∧ failure = other := by
  unfold check
  by_cases holds : condition
  · simp [holds]
  · simp [holds]

theorem orRaise_eq_ok {failure : Failure} {value : Option Value} {result : Value} :
    orRaise failure value = .ok result ↔ value = some result := by
  cases value <;> simp [orRaise]

theorem orRaise_eq_error {failure other : Failure} {value : Option Value} :
    orRaise failure value = .error other ↔ value = none ∧ failure = other := by
  cases value <;> simp [orRaise]

theorem mapError_eq_ok {Other : Type} {change : Failure → Other} {result : Except Failure Value}
    {value : Value} : result.mapError change = .ok value ↔ result = .ok value := by
  cases result with
  | error failure =>
      constructor
      · intro same
        cases same
      · intro same
        cases same
  | ok found =>
      constructor
      · intro same
        cases same
        rfl
      · intro same
        cases same
        rfl

theorem toOption_eq_some {result : Except Failure Value} {value : Value} :
    result.toOption = some value ↔ result = .ok value := by
  cases result <;> simp [Except.toOption]

/-- Where no call raises, the results are those of the inputs in their order. -/
theorem forall₂_of_mapM {call : Value → Except Failure Result} {inputs : List Value}
    {results : List Result} (mapped : inputs.mapM call = .ok results) :
    List.Forall₂ (fun input result => call input = .ok result) inputs results := by
  induction inputs generalizing results with
  | nil =>
      cases mapped
      exact .nil
  | cons input inputs ih =>
      rw [List.mapM_cons] at mapped
      obtain ⟨first, here, rest⟩ := bind_eq_ok.mp mapped
      obtain ⟨others, later, same⟩ := bind_eq_ok.mp rest
      cases same
      exact .cons here (ih later)

theorem exists_of_mem_mapM {call : Value → Except Failure Result} {inputs : List Value}
    {results : List Result} (mapped : inputs.mapM call = .ok results) {result : Result}
    (member : result ∈ results) : ∃ input ∈ inputs, call input = .ok result := by
  have paired := forall₂_of_mapM mapped
  clear mapped
  induction paired with
  | nil => cases member
  | cons here _ ih =>
      rcases List.mem_cons.mp member with rfl | later
      · exact ⟨_, List.mem_cons_self, here⟩
      · obtain ⟨other, among, called⟩ := ih later
        exact ⟨other, List.mem_cons_of_mem _ among, called⟩

end Fallible
