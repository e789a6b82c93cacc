import OpcuaGds.Agent.ArtifactVerification

/-! # Maintenance windows and blackouts

`maintenance_window_status`: what the maintenance policy says about a target at an
instant. The rules of time zones come from the `zoneinfo` database.
-/

namespace OpcuaGds.Agent

/-- A blackout as `_parse_blackout_entry` returns it. -/
structure Blackout where
  name : String
  startAt : String
  endAt : String
  deriving DecidableEq, Repr

/-- A window as `_parse_window_entry` returns it: between two moments, or on some
weekdays, Monday being 0, between two minutes of the day. -/
inductive MaintenanceWindow where
  | absolute (startAt endAt : String)
  | weekly (days : List Nat) (start finish : Nat)
  deriving DecidableEq, Repr

/-- The policy of one target. -/
structure TargetPolicy where
  maintenanceWindowRequired : Bool
  approvalLevel : String
  emergencyOverrideAllowed : Bool
  autoRollbackEnabled : Bool
  deriving DecidableEq, Repr

/-- What the maintenance policy holds for one target. -/
structure TargetMaintenance where
  windows : List MaintenanceWindow
  blackouts : List Blackout
  policy : TargetPolicy
  deriving DecidableEq, Repr

/-- What `load_maintenance_policy` returns. -/
structure MaintenancePolicy where
  timezone : String
  targets : List (String × TargetMaintenance)
  globalBlackouts : List Blackout
  deriving DecidableEq, Repr

/-- `_default_target_policy`. -/
def defaultTargetPolicy (target : String) : TargetPolicy :=
  let base : TargetPolicy := {
    maintenanceWindowRequired := true
    approvalLevel := "single"
    emergencyOverrideAllowed := false
    autoRollbackEnabled := true }
  if target = "opcua-server" then { base with approvalLevel := "dual" }
  else if target = "fuxa" then
    { base with approvalLevel := "single", emergencyOverrideAllowed := true }
  else if "dmz-gateway".toList.isPrefixOf target.toList then
    { base with
      maintenanceWindowRequired := false
      approvalLevel := "single"
      emergencyOverrideAllowed := true }
  else base

/-- What is held for a target; one that the policy does not name has no windows. -/
def MaintenancePolicy.of (policy : MaintenancePolicy) (target : String) : TargetMaintenance :=
  (policy.targets.lookup target).getD
    { windows := [], blackouts := [], policy := defaultTargetPolicy target }

/-- The zones that `ZoneInfo` knows, each with the offset of its clock at an instant. -/
abbrev ZoneInfo := String → Option (Int → Int)

/-- A weekday and a time of day to the minute. -/
structure LocalTime where
  weekday : Nat
  minute : Nat
  deriving DecidableEq, Repr

/-- `now_utc.astimezone(tzinfo)`, by `weekday()` and `time()`. -/
def localTime (offset : Int → Int) (now : Int) : LocalTime where
  weekday := (((now + offset now) / 86400000000 + 6) % 7).toNat
  minute := ((now + offset now) / 60000000 % 1440).toNat

/-- The zone that is used: UTC in place of one that cannot be loaded. -/
def zoneUsed (zoneinfo : ZoneInfo) (name : String) : String × (Int → Int) :=
  match zoneinfo name with
  | some offset => (name, offset)
  | none => ("UTC", fun _ => 0)

/-- The body of the loop over the blackouts. -/
def Blackout.isActive (blackout : Blackout) (now : Int) : Bool :=
  match parseRfc3339Utc blackout.startAt, parseRfc3339Utc blackout.endAt with
  | some start, some finish => start ≤ now ∧ now ≤ finish
  | _, _ => false

/-- The body of the loop over the windows; `none` where it goes on to the next window. -/
def MaintenanceWindow.inside? (now : Int) (clock : LocalTime) :
    MaintenanceWindow → Option Bool
  | .absolute startAt endAt =>
      match parseRfc3339Utc startAt, parseRfc3339Utc endAt with
      | some start, some finish => some (start ≤ now ∧ now ≤ finish)
      | _, _ => none
  | .weekly days start finish =>
      if clock.weekday ∉ days then none
      else if start ≤ finish then some (start ≤ clock.minute ∧ clock.minute ≤ finish)
      else some (clock.minute ≥ start ∨ clock.minute ≤ finish)

/-- The loop over the windows, from a value of `within_window`. -/
def withinWindowLoop (now : Int) (clock : LocalTime) : List MaintenanceWindow → Bool → Bool
  | [], withinWindow => withinWindow
  | window :: rest, withinWindow =>
      match window.inside? now clock with
      | none => withinWindowLoop now clock rest withinWindow
      | some true => true
      | some false => withinWindowLoop now clock rest false

/-- What `maintenance_window_status` returns. -/
structure MaintenanceWindowStatus where
  status : String
  withinWindow : Bool
  withinBlackout : Bool
  activeBlackoutName : Option String
  timezone : String
  windowRequired : Bool
  emergencyOverrideAllowed : Bool
  policy : TargetPolicy
  deriving DecidableEq, Repr

/-- `maintenance_window_status`. -/
def maintenanceWindowStatus (zoneinfo : ZoneInfo) (target : String) (policy : MaintenancePolicy)
    (now : Int) : MaintenanceWindowStatus :=
  let targetObj := policy.of target
  let zone := zoneUsed zoneinfo policy.timezone
  let activeBlackout := (policy.globalBlackouts ++ targetObj.blackouts).find? fun blackout =>
    blackout.isActive now
  let withinWindow := withinWindowLoop now (localTime zone.2 now) targetObj.windows false
  { status :=
      if activeBlackout.isSome then "blackout"
      else if targetObj.windows = [] then "not_configured"
      else if withinWindow then "open"
      else "closed"
    withinWindow := withinWindow
    withinBlackout := activeBlackout.isSome
    activeBlackoutName := activeBlackout.map Blackout.name
    timezone := zone.1
    windowRequired := targetObj.policy.maintenanceWindowRequired
    emergencyOverrideAllowed := targetObj.policy.emergencyOverrideAllowed
    policy := targetObj.policy }

/-! ## What the status says -/

/-- A blackout covers an instant, both of its ends included. -/
def Blackout.Covers (blackout : Blackout) (now : Int) : Prop :=
  ∃ start finish, parseRfc3339Utc blackout.startAt = some start ∧
    parseRfc3339Utc blackout.endAt = some finish ∧ start ≤ now ∧ now ≤ finish

/-- A minute lies in a daily interval, which may go over midnight. -/
def InDailyInterval (start finish minute : Nat) : Prop :=
  if start ≤ finish then start ≤ minute ∧ minute ≤ finish else start ≤ minute ∨ minute ≤ finish

/-- A window covers an instant that a clock shows as a weekday and a minute. -/
def MaintenanceWindow.Covers (now : Int) (clock : LocalTime) : MaintenanceWindow → Prop
  | .absolute startAt endAt => ∃ start finish, parseRfc3339Utc startAt = some start ∧
      parseRfc3339Utc endAt = some finish ∧ start ≤ now ∧ now ≤ finish
  | .weekly days start finish => clock.weekday ∈ days ∧ InDailyInterval start finish clock.minute

namespace MaintenancePolicy

/-- A blackout of the policy or of the target covers the instant. -/
def InBlackout (policy : MaintenancePolicy) (target : String) (now : Int) : Prop :=
  ∃ blackout ∈ policy.globalBlackouts ++ (policy.of target).blackouts, blackout.Covers now

/-- A window of the target covers the instant, by the clock of the policy's zone. -/
def InWindow (zoneinfo : ZoneInfo) (policy : MaintenancePolicy) (target : String) (now : Int) :
    Prop :=
  ∃ window ∈ (policy.of target).windows,
    window.Covers now (localTime (zoneUsed zoneinfo policy.timezone).2 now)

end MaintenancePolicy

theorem Blackout.isActive_iff {blackout : Blackout} {now : Int} :
    blackout.isActive now = true ↔ blackout.Covers now := by
  unfold isActive Covers
  cases parseRfc3339Utc blackout.startAt with
  | none => simp
  | some start =>
      cases parseRfc3339Utc blackout.endAt with
      | none => simp
      | some finish => simp

theorem MaintenanceWindow.inside?_eq_some_true {now : Int} {clock : LocalTime}
    {window : MaintenanceWindow} :
    window.inside? now clock = some true ↔ window.Covers now clock := by
  cases window with
  | absolute startAt endAt =>
      simp only [inside?, Covers]
      cases parseRfc3339Utc startAt with
      | none => simp
      | some start =>
          cases parseRfc3339Utc endAt with
          | none => simp
          | some finish => simp
  | weekly days start finish =>
      unfold inside? Covers InDailyInterval
      by_cases today : clock.weekday ∈ days
      · by_cases order : start ≤ finish
        · simp [today, order]
        · simp [today, order]
      · simp [today]

/-- The loop ends with a window that covers the instant, if there is one. -/
theorem withinWindowLoop_iff (now : Int) (clock : LocalTime) (windows : List MaintenanceWindow) :
    withinWindowLoop now clock windows false = true ↔
      ∃ window ∈ windows, window.Covers now clock := by
  induction windows with
  | nil => simp [withinWindowLoop]
  | cons window rest ih =>
      rw [List.exists_mem_cons_iff, ← ih, ← MaintenanceWindow.inside?_eq_some_true,
        withinWindowLoop]
      cases window.inside? now clock with
      | none => simp
      | some here => cases here <;> simp

section Status

variable {zoneinfo : ZoneInfo} {target : String} {policy : MaintenancePolicy} {now : Int}

theorem withinBlackout_iff :
    (maintenanceWindowStatus zoneinfo target policy now).withinBlackout = true ↔
      policy.InBlackout target now := by
  rw [maintenanceWindowStatus, List.find?_isSome, MaintenancePolicy.InBlackout]
  exact exists_congr fun blackout => and_congr_right fun _ => Blackout.isActive_iff

theorem withinWindow_iff :
    (maintenanceWindowStatus zoneinfo target policy now).withinWindow = true ↔
      policy.InWindow zoneinfo target now :=
  withinWindowLoop_iff now _ _

end Status

end OpcuaGds.Agent
