import OpcuaGds.Agent.MaintenanceWindow

/-! # Weekly windows over midnight

A weekly window whose end is earlier than its start begins on its weekdays and runs past
midnight into the following days. `maintenance_window_status` looks for the weekday of the
instant also after midnight, so the two readings of a policy are compared here part by part.
-/

namespace OpcuaGds.Agent

/-- The weekday before a weekday, Monday being 0. -/
def weekdayBefore (weekday : Nat) : Nat := (weekday + 6) % 7

namespace MaintenanceWindow

/-- A window covers an instant: a dated one from its start to its end, a weekly one on its
weekdays, where one that ends earlier than it starts runs into the day after. -/
def Spans (now : Int) (clock : LocalTime) : MaintenanceWindow → Prop
  | .absolute startAt endAt => ∃ start finish, parseRfc3339Utc startAt = some start ∧
      parseRfc3339Utc endAt = some finish ∧ start ≤ now ∧ now ≤ finish
  | .weekly days start finish =>
      if start ≤ finish then
        clock.weekday ∈ days ∧ start ≤ clock.minute ∧ clock.minute ≤ finish
      else
        (clock.weekday ∈ days ∧ start ≤ clock.minute) ∨
          (weekdayBefore clock.weekday ∈ days ∧ clock.minute ≤ finish)

/-- The part of a window that does not lie after a midnight covers the instant. -/
def SpansBeforeMidnight (now : Int) (clock : LocalTime) : MaintenanceWindow → Prop
  | .absolute startAt endAt => ∃ start finish, parseRfc3339Utc startAt = some start ∧
      parseRfc3339Utc endAt = some finish ∧ start ≤ now ∧ now ≤ finish
  | .weekly days start finish =>
      clock.weekday ∈ days ∧ start ≤ clock.minute ∧ (start ≤ finish → clock.minute ≤ finish)

/-- A weekly window over midnight has not ended at the minute and is set for the weekday. -/
def OvernightOn (weekday minute : Nat) : MaintenanceWindow → Prop
  | .absolute _ _ => False
  | .weekly days start finish => finish < start ∧ minute ≤ finish ∧ weekday ∈ days

theorem spans_iff {now : Int} {clock : LocalTime} {window : MaintenanceWindow} :
    window.Spans now clock ↔ window.SpansBeforeMidnight now clock ∨
      window.OvernightOn (weekdayBefore clock.weekday) clock.minute := by
  cases window with
  | absolute startAt endAt => simp only [Spans, SpansBeforeMidnight, OvernightOn, or_false]
  | weekly days start finish =>
      unfold Spans SpansBeforeMidnight OvernightOn
      by_cases order : start ≤ finish
      · simp [order, Nat.not_lt.mpr order]
      · simp only [order, if_false, false_imp_iff, and_true, Nat.not_le.mp order, true_and,
          and_comm (a := clock.minute ≤ finish)]

/-- What the code counts as covered: after midnight it takes the weekday of the instant. -/
theorem covers_iff {now : Int} {clock : LocalTime} {window : MaintenanceWindow} :
    window.Covers now clock ↔ window.SpansBeforeMidnight now clock ∨
      window.OvernightOn clock.weekday clock.minute := by
  cases window with
  | absolute startAt endAt => simp only [Covers, SpansBeforeMidnight, OvernightOn, or_false]
  | weekly days start finish =>
      unfold Covers SpansBeforeMidnight OvernightOn InDailyInterval
      by_cases order : start ≤ finish
      · simp [order, Nat.not_lt.mpr order]
      · have overnight : finish < start := Nat.not_le.mp order
        simp only [order, if_false, false_imp_iff, and_true, overnight, true_and]
        rw [and_or_left, and_comm (a := clock.minute ≤ finish)]

end MaintenanceWindow

namespace MaintenancePolicy

variable (zoneinfo : ZoneInfo) (policy : MaintenancePolicy) (target : String) (now : Int)

/-- What the clock of the policy's zone shows at an instant. -/
def clockAt : LocalTime := localTime (zoneUsed zoneinfo policy.timezone).2 now

/-- Some window of the target covers the instant. -/
def Spans : Prop :=
  ∃ window ∈ (policy.of target).windows, window.Spans now (policy.clockAt zoneinfo now)

/-- Some window of the target covers the instant by a part that lies before a midnight. -/
def SpansBeforeMidnight : Prop :=
  ∃ window ∈ (policy.of target).windows,
    window.SpansBeforeMidnight now (policy.clockAt zoneinfo now)

/-- Some window over midnight that has not ended at the time of day is set for the weekday. -/
def OvernightOn (weekday : Nat) : Prop :=
  ∃ window ∈ (policy.of target).windows,
    window.OvernightOn weekday (policy.clockAt zoneinfo now).minute

end MaintenancePolicy

section Status

variable {zoneinfo : ZoneInfo} {target : String} {policy : MaintenancePolicy} {now : Int}

theorem spans_iff :
    policy.Spans zoneinfo target now ↔ policy.SpansBeforeMidnight zoneinfo target now ∨
      policy.OvernightOn zoneinfo target now
        (weekdayBefore (policy.clockAt zoneinfo now).weekday) := by
  simp only [MaintenancePolicy.Spans, MaintenanceWindow.spans_iff, and_or_left, exists_or,
    MaintenancePolicy.SpansBeforeMidnight, MaintenancePolicy.OvernightOn]

theorem inWindow_iff :
    policy.InWindow zoneinfo target now ↔ policy.SpansBeforeMidnight zoneinfo target now ∨
      policy.OvernightOn zoneinfo target now (policy.clockAt zoneinfo now).weekday := by
  unfold MaintenancePolicy.InWindow
  simp only [MaintenanceWindow.covers_iff, and_or_left, exists_or,
    MaintenancePolicy.SpansBeforeMidnight, MaintenancePolicy.OvernightOn,
    MaintenancePolicy.clockAt]

/-- The status says whether a window covers the instant exactly where a part before midnight
does, or the windows over midnight that have not ended are set for the weekday of the instant
just when they are set for the weekday before it. -/
theorem withinWindow_exact_iff :
    ((maintenanceWindowStatus zoneinfo target policy now).withinWindow = true ↔
        policy.Spans zoneinfo target now) ↔
      policy.SpansBeforeMidnight zoneinfo target now ∨
        (policy.OvernightOn zoneinfo target now (policy.clockAt zoneinfo now).weekday ↔
          policy.OvernightOn zoneinfo target now
            (weekdayBefore (policy.clockAt zoneinfo now).weekday)) := by
  rw [withinWindow_iff, inWindow_iff, spans_iff]
  by_cases before : policy.SpansBeforeMidnight zoneinfo target now
  · simp only [before, true_or]
  · simp only [before, false_or]

end Status

/-- A window on Fridays from 22:00 to 02:00. -/
def fridayNight : MaintenancePolicy where
  timezone := "UTC"
  targets := [("fuxa", {
    windows := [.weekly [4] 1320 120]
    blackouts := []
    policy := defaultTargetPolicy "fuxa" })]
  globalBlackouts := []

/-- One hour after the midnight that ends Friday 2 January 2026 the window is reported as
closed. -/
theorem friday_night_closed_on_saturday :
    ¬ ((maintenanceWindowStatus (fun _ => none) "fuxa" fridayNight
          63903085200000000).withinWindow = true ↔
        fridayNight.Spans (fun _ => none) "fuxa" 63903085200000000) := by
  have clock : fridayNight.clockAt (fun _ => none) 63903085200000000 =
      { weekday := 5, minute := 60 } := by decide
  have closed : (maintenanceWindowStatus (fun _ => none) "fuxa" fridayNight
      63903085200000000).withinWindow = false := by decide
  have spanned : fridayNight.Spans (fun _ => none) "fuxa" 63903085200000000 := by
    refine ⟨.weekly [4] 1320 120, by decide, ?_⟩
    rw [clock]
    exact .inr ⟨by decide, by decide⟩
  rw [closed]
  exact fun exact => Bool.false_ne_true (exact.mpr spanned)

end OpcuaGds.Agent
