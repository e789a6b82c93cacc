import OpcuaGds.Agent.SyncCycle
import OpcuaGds.Foundation.JsonPython

/-! # Forwarding of the GDS telemetry

After a cycle the agent pulls the reports of the GDS and forwards to the collector an event for
the pull, one for a drift, one for each component with a problem, and one for each operational
certificate that is about to expire.
-/

namespace OpcuaGds.Agent

/-- What `pull_gds_telemetry` returns. -/
structure GdsTelemetry where
  mtlsMetrics : Json
  certificateTelemetry : Json
  certificateDrift : Json
  componentLifecycleStatus : Json

/-- `dictionary.get(key, default)`, of a document that is a dictionary. -/
def entryOr (document : Json) (key : String) (default : Json) : Json :=
  (document.field? key).getD default

/-- `value if isinstance(value, dict) else {}`. -/
def documentOrEmpty (document : Json) : Json := if document.isObject then document else .obj []

/-- `value is True`. -/
def isTrueValue : Json → Bool
  | .bool value => value
  | _ => false

/-- `value is False`. -/
def isFalseValue : Json → Bool
  | .bool value => !value
  | _ => false

/-- `str(value or "")`. -/
def textOrEmpty (value : Json) : String := if value.truthy then value.toStr else ""

section Events

variable (syncCycleId telemetryPath : String)

/-- The tags that every event has. -/
def cycleTags : List (String × Json) :=
  [("sync_cycle_id", .str syncCycleId), ("correlation_id", .str syncCycleId)]

def telemetryPulledEvent (metrics drift components : Json) : OtEvent where
  severity := "info"
  eventCategory := "pki_trust_sync"
  message := "gds_telemetry_pulled"
  raw := [("sync_cycle_id", .str syncCycleId),
    ("mtls_success_count", entryOr metrics "success_count" .null),
    ("mtls_failure_count", entryOr metrics "failure_count" .null),
    ("certificate_drift_count", entryOr drift "drift_count" .null),
    ("component_status_count", match entryOr components "components" (.arr []) with
      | .arr items => .int items.length
      | _ => .int 0),
    ("telemetry_path", .str telemetryPath)]
  tags := cycleTags syncCycleId

def driftDetectedEvent (drift : Json) : OtEvent where
  severity := "warning"
  eventCategory := "pki_validation"
  message := "certificate_inventory_drift_detected"
  raw := [("sync_cycle_id", .str syncCycleId),
    ("drift_count", entryOr drift "drift_count" .null),
    ("items", entryOr drift "items" (.arr []))]
  tags := cycleTags syncCycleId ++ [("risk_level", .str "MEDIUM")]

/-- What is wrong with a component: the message, the severity, and what is added to the raw
value. -/
def componentProblem? (component : Json) : Option (String × String × List (String × Json)) :=
  let exported := entryOr component "private_key_exported" .null
  let touched := entryOr component "private_key_touched" .null
  if isTrueValue exported || isTrueValue touched then
    some ("component_private_key_policy_violation_reported", "critical",
      [("private_key_exported", exported), ("private_key_touched", touched)])
  else if isFalseValue (entryOr component "crl_freshness_verified" .null) then
    some ("component_crl_freshness_not_verified", "warning", [])
  else if PythonText.lower (textOrEmpty (entryOr component "last_renewal_status" .null)) =
      "failed" then
    some ("component_renewal_failed", "warning", [])
  else if PythonText.lower (textOrEmpty (entryOr component "last_apply_status" .null)) =
      "failed" then
    some ("component_trust_apply_failed", "warning", [])
  else none

/-- The event of a component; what is no dictionary is passed over. -/
def componentEvent? (component : Json) : Option OtEvent :=
  if component.isObject then do
    let applicationUri := textOrEmpty (entryOr component "application_uri" .null)
    let target := textOrEmpty (entryOr component "target" .null)
    let (message, severity, more) ← componentProblem? component
    return {
      severity := severity
      eventCategory := "pki_lifecycle"
      message := message
      raw := [("sync_cycle_id", .str syncCycleId), ("application_uri", .str applicationUri),
        ("target", .str target)] ++ more
      tags := cycleTags syncCycleId ++ [("application_uri", .str applicationUri),
        ("risk_level", .str (if severity = "critical" then "CRITICAL" else "MEDIUM"))] }
  else none

def componentEvents (components : Json) : List OtEvent :=
  match entryOr components "components" (.arr []) with
  | .arr items => items.filterMap (componentEvent? syncCycleId)
  | _ => []

/-- An event of `_telemetry_cert_events`. -/
structure CertEvent where
  message : String
  severity : String
  raw : List (String × Json)
  tags : List (String × Json)

/-- One round of `_telemetry_cert_events`. -/
def telemetryCertEvent? (cert : Json) : Option CertEvent :=
  let status := PythonText.lower (entryOr cert "status" (.str "")).toStr
  let state := (entryOr cert "expiry_state" (.str "unknown")).toStr
  if !cert.isObject then none
  else if isFalseValue (entryOr cert "operational" .null) || (status ≠ "" && status ≠ "active") ||
      (entryOr cert "revoked_at" .null).truthy then none
  else if state ∉ ["warning", "critical", "expired"] then none
  else some {
    message := if state = "warning" then "certificate_expiry_warning"
      else "certificate_expiry_critical"
    severity := if state = "warning" then "warning" else "critical"
    raw := [("application_uri", entryOr cert "application_uri" .null),
      ("common_name", entryOr cert "common_name" .null),
      ("fingerprint_sha256", entryOr cert "fingerprint_sha256" .null),
      ("serial_number", entryOr cert "serial_number" .null),
      ("days_remaining", entryOr cert "days_remaining" .null), ("expiry_state", .str state)]
    tags := [("application_uri", .str (entryOr cert "application_uri" (.str "")).toStr),
      ("certificate_serial", .str (entryOr cert "serial_number" (.str "")).toStr),
      ("mtls_fingerprint_sha256", .str (entryOr cert "fingerprint_sha256" (.str "")).toStr),
      ("risk_level", .str (if state = "warning" then "MEDIUM" else "CRITICAL"))] }

/-- `_telemetry_cert_events`. -/
def telemetryCertEvents (certificateTelemetry : Json) : List CertEvent :=
  match entryOr certificateTelemetry "certificates" (.arr []) with
  | .arr certs => certs.filterMap telemetryCertEvent?
  | _ => []

def certEvent (event : CertEvent) : OtEvent where
  severity := event.severity
  eventCategory := "pki_validation"
  message := event.message
  raw := ("sync_cycle_id", .str syncCycleId) :: event.raw
  tags := event.tags ++ cycleTags syncCycleId

/-- `int(value or 0)`. -/
def intOrZero (value : Json) : Option Int := if value.truthy then value.toInt? else some 0

/-- The events that `persist_and_forward_gds_telemetry` forwards for what it has pulled, and whether
it comes to its end: it raises at a drift count that is no number. -/
def gdsTelemetryEvents (telemetry : GdsTelemetry) : List OtEvent × Bool :=
  let metrics := documentOrEmpty telemetry.mtlsMetrics
  let drift := documentOrEmpty telemetry.certificateDrift
  let certificates := documentOrEmpty telemetry.certificateTelemetry
  let components := documentOrEmpty telemetry.componentLifecycleStatus
  let pulled := telemetryPulledEvent syncCycleId telemetryPath metrics drift components
  match intOrZero (entryOr drift "drift_count" .null) with
  | none => ([pulled], false)
  | some driftCount =>
      (pulled :: (if 0 < driftCount then [driftDetectedEvent syncCycleId drift] else []) ++
        componentEvents syncCycleId components ++
        (telemetryCertEvents certificates).map (certEvent syncCycleId), true)

end Events

end OpcuaGds.Agent
