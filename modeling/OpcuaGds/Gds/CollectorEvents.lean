import OpcuaGds.Foundation.JsonPython
import OpcuaGds.Foundation.JsonText
import OpcuaGds.Gds.ArtifactSigning

/-! # The events that GDS sends to the collector

Audit rows, health reports and database snapshots in the collector's form, with secrets
redacted and the raw part bounded. A stored time is a value of its own only in audit rows;
in the other inputs it stands as its text.
-/

namespace OpcuaGds.Gds.Collector

/-- `DROP_OR_REDACT_KEYS`. -/
def dropOrRedactKeys : List String :=
  ["token", "client_token", "x-vault-token", "x-gds-agent-token", "password", "passwd", "pwd",
    "role_id", "secret_id", "private_key", "private_key_pem", "server_key", "client_key", "pem",
    "csr_pem", "certificate_pem", "ca_chain_pem", "crl_base64", "root_crl_base64",
    "intermediate_crl_base64", "crl_bundle", "signature_base64"]

/-- `SAFE_FIELD_NAMES`; the order in which the set is walked only orders fields. -/
def safeFieldNames : List String :=
  ["event_type", "actor", "target", "application_uri", "runtime_instance_id", "package_id",
    "request_id", "certificate_id", "fingerprint_sha256", "serial_number", "trustlist_zone",
    "trustlist_role", "trustlist_version", "artifact_revision", "artifact_sha256", "error_code",
    "correlation_id", "source_ip", "mtls_verify_status"]

/-- What `AUDIT_EVENT_MAP` says of a type of audit event. -/
structure AuditEventClass where
  eventName : String
  category : String
  severity : String
  alertCandidate : Bool

/-- `AUDIT_EVENT_MAP`. -/
def auditEventMap : List (String × AuditEventClass) :=
  [("application_register", ⟨"gds_client_registered", "pki_lifecycle", "info", false⟩),
    ("certificate_request_created", ⟨"gds_enrollment_request", "pki_lifecycle", "info", false⟩),
    ("certificate_renewal_requested", ⟨"gds_enrollment_request", "pki_lifecycle", "info", false⟩),
    ("csr_validated", ⟨"gds_enrollment_approved", "pki_lifecycle", "info", false⟩),
    ("component_enrollment_completed",
      ⟨"gds_enrollment_approved", "pki_lifecycle", "info", false⟩),
    ("csr_rejected", ⟨"gds_enrollment_failed", "pki_lifecycle", "warning", true⟩),
    ("certificate_issue_failed", ⟨"gds_enrollment_failed", "pki_lifecycle", "warning", true⟩),
    ("certificate_renewal_failed", ⟨"gds_enrollment_failed", "pki_lifecycle", "warning", true⟩),
    ("certificate_issued", ⟨"gds_certificate_issued", "certificate_lifecycle", "info", true⟩),
    ("certificate_renewal_packaged",
      ⟨"gds_certificate_renewed", "certificate_lifecycle", "info", true⟩),
    ("certificate_revoked", ⟨"gds_certificate_revoked", "certificate_lifecycle", "warning", true⟩),
    ("certificate_revocation_crl_refreshed",
      ⟨"gds_certificate_revoked", "certificate_lifecycle", "warning", true⟩),
    ("trustlist_build", ⟨"gds_trust_list_updated", "pki_trust_sync", "info", false⟩),
    ("artifact_regenerated", ⟨"gds_trust_list_published", "pki_trust_sync", "info", true⟩),
    ("trustlist_artifact_rebuild", ⟨"gds_trust_list_published", "pki_trust_sync", "info", true⟩),
    ("agent_auth_failure", ⟨"gds_unauthorized_request", "security", "warning", true⟩),
    ("agent_unauthorized_pull", ⟨"gds_unauthorized_request", "security", "warning", true⟩),
    ("mtls_client_identity_failure", ⟨"gds_unauthorized_request", "security", "warning", true⟩)]

/-! ## Redaction and limits -/

/-- The form of a key that `redact_secrets` looks up. -/
def normalizedKey (key : String) : String :=
  String.ofList (PythonText.replaceChar '-' ['_']
    (PythonText.lower (PythonText.strip key)).toList)

mutual

/-- `redact_secrets`. -/
def redactSecrets : Json → Json
  | .obj fields => .obj (redactFields fields)
  | .arr items => .arr (redactItems items)
  | .str value =>
      if "-----BEGIN ".toList <:+: value.toList ∨ "-----END ".toList <:+: value.toList then
        .str "<redacted-pem>"
      else .str value
  | value => value

def redactItems : List Json → List Json
  | [] => []
  | item :: rest => redactSecrets item :: redactItems rest

def redactFields : List (String × Json) → List (String × Json)
  | [] => []
  | (key, value) :: rest =>
      (key, if normalizedKey key ∈ dropOrRedactKeys then .str "<redacted>"
        else redactSecrets value) :: redactFields rest

end

/-- `truncate_text`. -/
def truncateText (value : String) (maxLen : Int) : String :=
  if maxLen ≤ 0 ∨ (value.toList.length : Int) ≤ maxLen then value
  else String.ofList (value.toList.take (maxLen - 15).toNat ++ "...<truncated>".toList)

/-- `limit_raw`. -/
def limitRaw (raw : Json) (maxRawLen : Int) : Json :=
  let safe := redactSecrets raw
  let encoded := safe.text
  if maxRawLen ≤ 0 ∨ (encoded.length : Int) ≤ maxRawLen then safe
  else .obj [("truncated", .bool true),
    ("preview", .str (truncateText (String.ofList encoded) maxRawLen))]

/-! ## One event -/

/-- The texts that `_base_event` puts around an event. -/
structure EventForm where
  eventName : String
  eventCategory : String
  severity : String
  message : String
  timestamp : String

/-- `dmz_collector_max_message_len` and `dmz_collector_max_raw_len`. -/
structure EventLimits where
  maxMessageLen : Int
  maxRawLen : Int

/-- `_base_event`; `fresh` is the identifier drawn for the event. -/
def baseEvent (limits : EventLimits) (fresh : String) (form : EventForm)
    (raw : Json) (tags : List (String × Json)) : Json :=
  let id := match tags.lookup "event_id" with
    | some given => if given.truthy then given else .str fresh
    | none => .str fresh
  .obj [("id", id), ("timestamp", .str form.timestamp), ("zone", .str "DMZ"),
    ("source_type", .str "gds"), ("sourcetype", .str "labshock:dmz:gds"),
    ("asset_name", .str "labshock_gds"), ("asset_ip", .str "192.168.10.30"),
    ("severity", .str form.severity), ("protocol", .str "http"),
    ("event_category", .str form.eventCategory),
    ("message", .str (truncateText form.message limits.maxMessageLen)),
    ("raw", limitRaw raw limits.maxRawLen),
    ("tags", .obj (Json.setField "gds_event" (.str form.eventName) (redactFields tags)))]

/-- `_timestamp_from` of a document whose times are texts. -/
def timestampFrom (now : String) (values : Json) : String :=
  let keys := ["created_at", "generated_at", "reported_at", "ts", "timestamp", "checked_at"]
  match (keys.filterMap values.field?).find? Json.truthy with
  | some value => value.toStr
  | none => now

/-- `_target_parts`. -/
def targetParts (target : String) : List (String × Json) :=
  match (target.toList.splitOn ':').map String.ofList with
  | [kind, id] =>
      if kind = "certificate" ∧ id ≠ "" then [("certificate_id", .str id)] else []
  | kind :: first :: second :: _ =>
      if kind ∈ ["trustlist", "trustlist_artifact", "trustlist_artifact_sig",
          "trustlist_artifact_canonical"] then
        [("trustlist_zone", .str first), ("trustlist_role", .str second)]
      else if kind = "certificate" ∧ first ≠ "" then [("certificate_id", .str first)]
      else []
  | _ => []

/-- `{**left, **right}`. -/
def mergeFields (left right : List (String × Json)) : List (String × Json) :=
  right.foldl (fun fields field => Json.setField field.1 field.2 fields) left

/-- Neither `None` nor the empty text. -/
def isGiven : Json → Bool
  | .null => false
  | .str value => value != ""
  | _ => true

/-- A row of `audit_events`; `audit` stores an object as its details. -/
structure AuditRow where
  id : Nat
  eventType : String
  actor : String
  target : String
  detailsJson : List (String × Json)
  createdAt : Timestamp.DateTime

/-- The fields of the row, its time in the form that `_json_safe` gives it. -/
def AuditRow.fields (row : AuditRow) : List (String × Json) :=
  [("id", .int row.id), ("event_type", .str row.eventType), ("actor", .str row.actor),
    ("target", .str row.target), ("details_json", .obj row.detailsJson),
    ("created_at", .str (toRfc3339Utc row.createdAt))]

/-- `_safe_fields`. -/
def safeFields (row details : List (String × Json)) (target : String) : List (String × Json) :=
  let merged := mergeFields (mergeFields row details) (targetParts target)
  let fields := safeFieldNames.filterMap fun key =>
    ((merged.lookup key).filter isGiven).map fun value => (key, value)
  match details.lookup "verify" with
  | some verify =>
      if (fields.lookup "mtls_verify_status").isSome then fields
      else Json.setField "mtls_verify_status" verify fields
  | none => fields

/-- `str(flag).lower()`. -/
def flagText (flag : Bool) : Json := .str (if flag then "true" else "false")

/-- `normalize_audit_event`. -/
def normalizeAuditEvent (limits : EventLimits) (fresh : String) (row : AuditRow) : Json :=
  let auditEventType := if row.eventType = "" then "gds_audit_event" else row.eventType
  let known := (auditEventMap.lookup auditEventType).getD
    ⟨"gds_audit_event", "audit", "info", false⟩
  let tags := mergeFields
    [("source_table", .str "audit_events"), ("audit_event_type", .str auditEventType),
      ("alert_candidate", flagText known.alertCandidate)]
    (safeFields row.fields row.detailsJson row.target)
  baseEvent limits fresh
    { eventName := known.eventName
      eventCategory := known.category
      severity := known.severity
      message := known.eventName ++ ": " ++ auditEventType
      timestamp := toRfc3339Utc row.createdAt }
    (.obj [("audit_row", .obj row.fields), ("details", .obj row.detailsJson),
      ("normalized_event", .str known.eventName)])
    tags

/-- `bool(document.get(key))`. -/
def flag (document : Json) (key : String) : Bool := ((document.field? key).getD .null).truthy

/-- `normalize_db_snapshot_event`. -/
def normalizeDbSnapshotEvent (limits : EventLimits) (fresh now : String) (snapshot : Json) :
    Json :=
  let ok := flag snapshot "ok"
  let eventName := if ok then "gds_db_snapshot" else "gds_db_disconnected"
  baseEvent limits fresh
    { eventName := eventName
      eventCategory := if ok then "system_health" else "error"
      severity := if ok then "info" else "critical"
      message := eventName
      timestamp := timestampFrom now snapshot }
    (.obj [("db_snapshot", snapshot)])
    [("source_table", .str "gds_db_telemetry"), ("alert_candidate", flagText !ok),
      ("database", (snapshot.field? "database").getD (.str "")),
      ("db_host", (snapshot.field? "host").getD (.str ""))]

/-- `normalize_db_health_event`. -/
def normalizeDbHealthEvent (limits : EventLimits) (fresh now : String) (health : Json) : Json :=
  let postgres := ((health.field? "components").bind fun components =>
    components.field? "postgres").getD .null
  let ok := flag postgres "ok"
  let eventName := if ok then "gds_db_connected" else "gds_db_disconnected"
  baseEvent limits fresh
    { eventName := eventName
      eventCategory := if ok then "system_health" else "error"
      severity := if ok then "info" else "critical"
      message := eventName
      timestamp := now }
    (.obj [("health", health)])
    [("source_table", .str "gds_health"), ("alert_candidate", flagText !ok),
      ("postgres_ok", flagText ok)]

/-- `normalize_heartbeat_event`. -/
def normalizeHeartbeatEvent (limits : EventLimits) (fresh now : String) (health : Json) : Json :=
  let ok := flag health "ok"
  baseEvent limits fresh
    { eventName := "gds_heartbeat"
      eventCategory := if ok then "system_health" else "error"
      severity := if ok then "info" else "warning"
      message := "gds_heartbeat"
      timestamp := now }
    (.obj [("health", health)])
    [("source_table", .str "gds_health"), ("alert_candidate", flagText !ok),
      ("health_ok", flagText ok)]

/-! ## The size limit of a payload -/

section Limit

variable {Event : Type} (body : Event → Json)

/-- The bytes of the posted text, which is ASCII. -/
def payloadBytes (events : List Event) : Nat := (Json.arr (events.map body)).text.length

/-- The loop of `_payload_within_limit`: take over events as long as they fit. -/
def fitting (maxPayloadBytes : Int) : List Event → List Event → List Event
  | trimmed, [] => trimmed
  | trimmed, event :: rest =>
      if maxPayloadBytes < payloadBytes body (trimmed ++ [event]) then trimmed
      else fitting maxPayloadBytes (trimmed ++ [event]) rest

/-- `_payload_within_limit`. -/
def payloadWithinLimit (maxPayloadBytes : Int) (events : List Event) : List Event :=
  if maxPayloadBytes ≤ 0 then events
  else if (payloadBytes body events : Int) ≤ maxPayloadBytes then events
  else
    let trimmed := fitting body maxPayloadBytes [] events
    if trimmed = [] then events.take 1 else trimmed

end Limit

section LimitProperties

variable {Event : Type} {body : Event → Json} {maxPayloadBytes : Int}

theorem itemsText_length_le (front back : List Json) :
    (Json.itemsText front).length ≤ (Json.itemsText (front ++ back)).length := by
  induction front with
  | nil => cases back <;> simp [Json.itemsText]
  | cons item front ih =>
      simp only [List.cons_append, Json.itemsText, List.length_cons, List.length_append]
      omega

/-- A payload is no longer than one that continues it. -/
theorem payloadBytes_mono {front events : List Event} (within : front <+: events) :
    payloadBytes body front ≤ payloadBytes body events := by
  obtain ⟨back, rfl⟩ := within
  rw [payloadBytes, payloadBytes, List.map_append]
  cases front.map body with
  | nil =>
      cases back.map body with
      | nil => exact le_rfl
      | cons item rest =>
          have closed := itemsText_length_le [] rest
          simp only [List.nil_append, Json.itemsText, List.length_cons, List.length_nil] at closed
          simp only [List.nil_append, Json.text, List.length_cons, List.length_nil,
            List.length_append]
          omega
  | cons item rest =>
      have longer := itemsText_length_le rest (back.map body)
      simp only [List.cons_append, Json.text, List.length_cons, List.length_append]
      omega

/-- What the loop takes over is what was taken over before, and more of the events. -/
theorem fitting_between (trimmed events : List Event) :
    trimmed <+: fitting body maxPayloadBytes trimmed events ∧
      fitting body maxPayloadBytes trimmed events <+: trimmed ++ events := by
  induction events generalizing trimmed with
  | nil => exact ⟨List.prefix_rfl, by rw [List.append_nil]; exact List.prefix_rfl⟩
  | cons event events ih =>
      rw [fitting]
      split
      · exact ⟨List.prefix_rfl, List.prefix_append _ _⟩
      · obtain ⟨grown, within⟩ := ih (trimmed ++ [event])
        refine ⟨(List.prefix_append _ _).trans grown, ?_⟩
        rwa [List.append_assoc, List.singleton_append] at within

/-- The loop takes over a further part exactly if the payload then still fits. -/
theorem prefix_fitting_iff {trimmed front events : List Event} (within : front <+: events) :
    trimmed ++ front <+: fitting body maxPayloadBytes trimmed events ↔
      front = [] ∨ (payloadBytes body (trimmed ++ front) : Int) ≤ maxPayloadBytes := by
  induction events generalizing trimmed front with
  | nil =>
      rw [List.prefix_nil.mp within, List.append_nil]
      exact iff_of_true List.prefix_rfl (.inl rfl)
  | cons event events ih =>
      cases front with
      | nil =>
          rw [List.append_nil]
          exact iff_of_true (fitting_between _ _).1 (.inl rfl)
      | cons head front =>
          obtain ⟨rfl, rest⟩ := List.cons_prefix_cons.mp within
          have regroup : trimmed ++ head :: front = (trimmed ++ [head]) ++ front := by
            rw [List.append_assoc, List.singleton_append]
          have first : payloadBytes body (trimmed ++ [head]) ≤
              payloadBytes body (trimmed ++ [head] ++ front) :=
            payloadBytes_mono (List.prefix_append _ _)
          rw [fitting, regroup]
          split
          · rename_i tooLarge
            refine iff_of_false (fun longer => ?_) (fun fits => ?_)
            · have lengths := longer.length_le
              simp only [List.length_append, List.length_cons] at lengths
              omega
            · rcases fits with none | fits
              · exact List.cons_ne_nil _ _ none
              · omega
          · rename_i fits
            rw [ih rest]
            refine ⟨fun h => .inr ?_, fun h => ?_⟩
            · rcases h with rfl | h
              · rw [List.append_nil]
                omega
              · exact h
            · rcases h with none | h
              · exact absurd none (List.cons_ne_nil _ _)
              · exact .inr h

/-- The limited payload is a front part of the events. -/
theorem payloadWithinLimit_front (events : List Event) :
    payloadWithinLimit body maxPayloadBytes events <+: events := by
  rw [payloadWithinLimit]
  split
  · exact List.prefix_rfl
  · split
    · exact List.prefix_rfl
    · dsimp only
      split
      · exact List.take_prefix 1 events
      · exact (fitting_between [] events).2

/-- The limited payload holds a front part of the events exactly if there is no limit, or
that part fits, or it is no more than the one event that is sent whatever its size. -/
theorem prefix_payloadWithinLimit_iff {front events : List Event} (within : front <+: events) :
    front <+: payloadWithinLimit body maxPayloadBytes events ↔
      maxPayloadBytes ≤ 0 ∨ (payloadBytes body front : Int) ≤ maxPayloadBytes ∨
        front.length ≤ 1 := by
  have mono : payloadBytes body front ≤ payloadBytes body events := payloadBytes_mono within
  rw [payloadWithinLimit]
  split
  · rename_i unlimited
    exact iff_of_true within (.inl unlimited)
  · rename_i limited
    split
    · rename_i fits
      exact iff_of_true within (.inr (.inl (by omega)))
    · have fittingIff : [] ++ front <+: fitting body maxPayloadBytes [] events ↔
          front = [] ∨ (payloadBytes body ([] ++ front) : Int) ≤ maxPayloadBytes :=
        prefix_fitting_iff within
      rw [List.nil_append] at fittingIff
      dsimp only
      split
      · rename_i none
        rw [none, List.prefix_nil] at fittingIff
        rw [List.prefix_take_iff, and_iff_right within]
        refine ⟨fun single => .inr (.inr single), fun h => ?_⟩
        rcases h with unlimited | fits | single
        · exact absurd unlimited limited
        · simp [fittingIff.mpr (.inr fits)]
        · exact single
      · rename_i nonempty
        have inside : fitting body maxPayloadBytes [] events <+: events :=
          (fitting_between [] events).2
        rw [fittingIff]
        refine ⟨fun h => ?_, fun h => ?_⟩
        · rcases h with rfl | fits
          · exact .inr (.inr (Nat.zero_le 1))
          · exact .inr (.inl fits)
        · rcases h with unlimited | fits | single
          · exact absurd unlimited limited
          · exact .inr fits
          · have longer : front.length ≤ (fitting body maxPayloadBytes [] events).length :=
              single.trans (List.length_pos_iff.mpr nonempty)
            exact fittingIff.mp (List.prefix_of_prefix_length_le within inside longer)

end LimitProperties

end OpcuaGds.Gds.Collector
