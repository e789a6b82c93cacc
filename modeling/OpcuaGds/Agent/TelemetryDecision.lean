import Mathlib.Data.Rat.Defs
import Mathlib.Algebra.Order.Ring.Rat
import Mathlib.Data.List.Infix
import OpcuaGds.Foundation.AdmissionLog
import OpcuaGds.Foundation.Dict
import OpcuaGds.Foundation.PythonText

/-! # Which events the agent forwards to the collector

`_telemetry_decision` suppresses an event whose key was sent less than the window before. The key
joins five texts with bars, and a bar inside a text is not told apart from one between two texts.
-/

namespace OpcuaGds.Agent.Telemetry

/-! ## The decision -/

/-- `ALWAYS_FORWARD_EVENT_HINTS`. -/
def alwaysForwardEventHints : List String :=
  ["agent_start", "agent_stop", "runtime_write_deprecated_use_native_client",
    "target_not_managed_by_agent_zone", "trust_anchor_mismatch", "certificate_package_rejected",
    "package_activation_failed", "renew_runtime_certificate_failed",
    "signed_artifact_validation_failed", "approval_denied", "approval_expired", "blackout_active",
    "maintenance_window_closed", "vault_sealed", "crl_stale", "policy_violation"]

/-- `SECURITY_CATEGORIES`. -/
def securityCategories : List String :=
  ["security", "policy_audit", "access_control", "error", "sensitive_operator_action",
    "pki_lifecycle", "certificate_lifecycle"]

/-- `HEALTH_CATEGORIES`. -/
def healthCategories : List String := ["system_health", "lifecycle", "pki_trust_sync"]

/-- The telemetry part of the environment; a rate that is no number is `none`. -/
structure TelemetryEnv where
  enabled : Bool
  mode : String
  dedupWindowSeconds : Int
  healthSummarySeconds : Int
  sampleRate : Option ℚ

inductive TelemetryMode where
  | debugAll
  | securityOnly
  | sampledOperations
  | off
  deriving DecidableEq

namespace TelemetryEnv

variable (env : TelemetryEnv)

/-- `_telemetry_policy_mode`. -/
def policyMode : TelemetryMode :=
  match PythonText.lower (PythonText.strip env.mode) with
  | "debug_all" => .debugAll
  | "sampled_operations" => .sampledOperations
  | "off" => .off
  | _ => .securityOnly

/-- `_telemetry_dedup_window_seconds`. -/
def dedupWindow : Int := max 0 env.dedupWindowSeconds

/-- `_telemetry_health_summary_seconds`. -/
def healthSummary : Int := max 1 env.healthSummarySeconds

/-- `_telemetry_sample_rate`. -/
def sampling : ℚ :=
  match env.sampleRate with
  | none => 5 / 100
  | some value => max 0 (min 1 value)

end TelemetryEnv

/-- An event, the time at which it comes and the number that is drawn for it. -/
structure TelemetryEvent (Value : Type) where
  time : ℚ
  draw : ℚ
  eventCategory : String
  severity : String
  message : String
  raw : Dict String Value
  tags : Dict String Value

/-- What `_telemetry_decision` answers. -/
inductive TelemetryDecision where
  | telemetryDisabled
  | modeOff
  | dedupSuppressed
  | modeDebugAll
  | securityEvent
  | healthRateLimited
  | healthSummary
  | sampled
  | sampledDrop
  | securityOnlyDrop
  deriving DecidableEq

namespace TelemetryDecision

def allow : TelemetryDecision → Bool
  | .modeDebugAll | .securityEvent | .healthSummary | .sampled => true
  | _ => false

def reason : TelemetryDecision → String
  | .telemetryDisabled => "telemetry_disabled"
  | .modeOff => "mode_off"
  | .dedupSuppressed => "dedup_suppressed"
  | .modeDebugAll => "mode_debug_all"
  | .securityEvent => "security_event"
  | .healthRateLimited => "health_rate_limited"
  | .healthSummary => "health_summary"
  | .sampled => "sampled"
  | .sampledDrop => "sampled_drop"
  | .securityOnlyDrop => "security_only_drop"

end TelemetryDecision

/-- `TELEMETRY_LAST_SENT` and `TELEMETRY_LAST_HEALTH`. -/
structure TelemetryState where
  lastSent : Dict String ℚ
  lastHealth : Dict String ℚ

/-- The state of a process that starts. -/
def TelemetryState.initial : TelemetryState := ⟨.empty, .empty⟩

/-- `TELEMETRY_LAST_SENT[key] = now`. -/
def TelemetryState.sent (state : TelemetryState) (key : String) (now : ℚ) : TelemetryState :=
  { state with lastSent := state.lastSent.set key now }

/-- The five texts that tell events apart. -/
structure EventFields where
  category : String
  severity : String
  message : String
  target : String
  code : String
  deriving DecidableEq

/-- The texts joined by bars. -/
def EventFields.joined (fields : EventFields) : String :=
  fields.category ++ "|" ++ fields.severity ++ "|" ++ fields.message ++ "|" ++ fields.target ++
    "|" ++ fields.code

section Decision

variable {Value : Type} (str : Value → String)

/-- `str(values.get(name, ""))`. -/
def textOf (values : Dict String Value) (name : String) : String :=
  (values.get? name).elim "" str

def TelemetryEvent.fields (event : TelemetryEvent Value) : EventFields where
  category := event.eventCategory
  severity := event.severity
  message := event.message
  target := textOf str event.tags "target"
  code := textOf str event.raw "error_code"

/-- `_event_key`. -/
def eventKey (event : TelemetryEvent Value) : String := (event.fields str).joined

/-- `_is_security_event`. -/
def isSecurityEvent (event : TelemetryEvent Value) : Bool :=
  let text := PythonText.lower (event.message ++ " " ++ textOf str event.raw "event_type" ++ " " ++
    textOf str event.raw "error_code")
  event.eventCategory ∈ securityCategories ||
    event.severity ∈ ["warning", "error", "critical"] ||
    alwaysForwardEventHints.any (fun hint => decide (hint.toList <:+: text.toList)) ||
    PythonText.lower (textOf str event.tags "sensitive_action") == "true"

/-- Whether a time is less than an interval ago. -/
def isWithin (interval : Int) (last : Option ℚ) (now : ℚ) : Bool :=
  last.any fun last => decide (now - last < interval)

/-- `_telemetry_decision`, with the state that it leaves. -/
def telemetryDecision (env : TelemetryEnv) (state : TelemetryState)
    (event : TelemetryEvent Value) : TelemetryDecision × TelemetryState :=
  let now := event.time
  let key := eventKey str event
  let healthKey := event.eventCategory ++ "|" ++ event.severity ++ "|" ++ event.message
  if !env.enabled then (.telemetryDisabled, state)
  else if env.policyMode = .off then (.modeOff, state)
  else if 0 < env.dedupWindow && isWithin env.dedupWindow (state.lastSent.get? key) now then
    (.dedupSuppressed, state)
  else if env.policyMode = .debugAll then (.modeDebugAll, state.sent key now)
  else if isSecurityEvent str event then (.securityEvent, state.sent key now)
  else if event.eventCategory ∈ healthCategories then
    if isWithin env.healthSummary (state.lastHealth.get? healthKey) now then
      (.healthRateLimited, state)
    else
      (.healthSummary,
        { state with lastHealth := state.lastHealth.set healthKey now }.sent key now)
  else if env.policyMode = .sampledOperations then
    if event.draw ≤ env.sampling then (.sampled, state.sent key now) else (.sampledDrop, state)
  else (.securityOnlyDrop, state)

/-- The decision as a gate. -/
def forwards (env : TelemetryEnv) (state : TelemetryState) (event : TelemetryEvent Value) :
    Bool × TelemetryState :=
  let (decision, next) := telemetryDecision str env state event
  (decision.allow, next)

/-! ## What a decision says and leaves -/

variable {str} {env : TelemetryEnv} {state : TelemetryState} {event : TelemetryEvent Value}

variable (str) in
/-- Whether the key of an event was sent less than the window before. -/
def IsRecent (env : TelemetryEnv) (state : TelemetryState) (event : TelemetryEvent Value) : Prop :=
  ∃ last, state.lastSent.get? (eventKey str event) = some last ∧
    event.time - last < env.dedupWindow

theorem isWithin_iff {interval : Int} {last : Option ℚ} {now : ℚ} :
    isWithin interval last now = true ↔ ∃ time, last = some time ∧ now - time < interval := by
  rw [isWithin, Option.any_eq_true]
  simp only [decide_eq_true_eq]

/-- An event is suppressed only when its key was sent less than the window before. -/
theorem isRecent_of_suppressed
    (suppressed : (telemetryDecision str env state event).1 = .dedupSuppressed) :
    IsRecent str env state event := by
  unfold telemetryDecision at suppressed
  dsimp only at suppressed
  split at suppressed
  · cases suppressed
  · split at suppressed
    · cases suppressed
    · split at suppressed
      · rename_i recent
        exact isWithin_iff.mp (Bool.and_eq_true_iff.mp recent).2
      · repeat' split at suppressed
        all_goals cases suppressed

variable (str env state event) in
/-- An event that is forwarded was not sent less than the window before, and its time is
recorded; any other leaves the times as they are. -/
theorem forwards_cases :
    ((forwards str env state event).1 = true ∧
      (env.dedupWindow ≤ 0 ∨ ¬IsRecent str env state event) ∧
      (forwards str env state event).2.lastSent =
        state.lastSent.set (eventKey str event) event.time) ∨
    ((forwards str env state event).1 = false ∧
      (forwards str env state event).2.lastSent = state.lastSent) := by
  unfold forwards telemetryDecision
  dsimp only
  split
  · exact .inr ⟨rfl, rfl⟩
  · split
    · exact .inr ⟨rfl, rfl⟩
    · split
      · exact .inr ⟨rfl, rfl⟩
      · rename_i fresh
        have apart : env.dedupWindow ≤ 0 ∨ ¬IsRecent str env state event := by
          rw [Bool.and_eq_true, decide_eq_true_iff, isWithin_iff, not_and_or, not_lt] at fresh
          exact fresh
        repeat' split
        all_goals first | exact .inl ⟨rfl, apart, rfl⟩ | exact .inr ⟨rfl, rfl⟩

end Decision

end OpcuaGds.Agent.Telemetry
