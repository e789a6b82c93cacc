import OpcuaGds.Agent.GdsTelemetry
import OpcuaGds.Gds.ReportDocuments

/-! # Alerts about certificates that expire

What reaches the collector of the certificates in the store of the GDS: the GDS makes the reports,
the agent reads their documents and forwards events.
-/

namespace OpcuaGds.Agent

open Gds (Certificate Application CertificateRecord ExpiryThresholds)

def expiryMessages : List String := ["certificate_expiry_warning", "certificate_expiry_critical"]

def componentMessages : List String :=
  ["component_private_key_policy_violation_reported", "component_crl_freshness_not_verified",
    "component_renewal_failed", "component_trust_apply_failed"]

/-- The fingerprint and the severity of an alert about a certificate. -/
def OtEvent.expiryAlert? (event : OtEvent) : Option (String × String) :=
  if event.message ∈ expiryMessages then
    match event.raw.lookup "fingerprint_sha256" with
    | some (.str fingerprint) => some (fingerprint, event.severity)
    | _ => none
  else none

/-! ## Reading the records -/

/-- The severity of the alert about a record. -/
def recordSeverity? (record : CertificateRecord) : Option String :=
  if record.operational then
    match record.expiryState with
    | .warning => some "warning"
    | .critical | .expired => some "critical"
    | .unknown | .ok => none
  else none

theorem recordSeverity?_critical {record : CertificateRecord} :
    recordSeverity? record = some "critical" ↔ record.operational = true ∧
      record.expiryState ∈ [Gds.ExpiryState.expired, .critical] := by
  rw [recordSeverity?]
  cases record.operational with
  | false => simp
  | true => cases record.expiryState <;> simp

theorem recordSeverity?_warning {record : CertificateRecord} :
    recordSeverity? record = some "warning" ↔
      record.operational = true ∧ record.expiryState = .warning := by
  rw [recordSeverity?]
  cases record.operational with
  | false => simp
  | true => cases record.expiryState <;> simp

/-- The agent alerts about an operational record that is about to expire. -/
theorem expiryAlert?_of_record (syncCycleId : String) {record : CertificateRecord}
    (consistent : record.operational = true → record.status = .active ∧ record.revokedAt = none) :
    ((telemetryCertEvent? record.toJson).map (certEvent syncCycleId)).bind OtEvent.expiryAlert? =
      (recordSeverity? record).map (record.fingerprintSha256, ·) := by
  have operational : entryOr record.toJson "operational" .null = .bool record.operational := rfl
  have status : entryOr record.toJson "status" (.str "") = .str record.status.name := rfl
  have revokedAt : entryOr record.toJson "revoked_at" .null = Gds.asIso record.revokedAt := rfl
  have state : entryOr record.toJson "expiry_state" (.str "unknown") =
      .str record.expiryState.name := rfl
  have isDict : record.toJson.isObject = true := rfl
  rw [telemetryCertEvent?, operational, status, revokedAt, state, recordSeverity?, isDict]
  cases isOperational : record.operational with
  | false => rfl
  | true =>
      obtain ⟨active, notRevoked⟩ := consistent isOperational
      rw [active, notRevoked]
      have lowered : PythonText.lower (Json.str Gds.CertificateStatus.active.name).toStr =
          "active" := by decide
      rw [lowered]
      cases record.expiryState <;> rfl

/-! ## Reading the reports -/

theorem intOrZero_int (number : Int) : intOrZero (.int number) = some number := by
  rw [intOrZero]
  by_cases zero : number = 0
  · simp [Json.truthy, zero]
  · simp [Json.truthy, Json.toInt?, zero]

/-- The events for the documents of a drift report and of any other reports. -/
theorem gdsTelemetryEvents_of_report (syncCycleId telemetryPath : String)
    {telemetry : GdsTelemetry} {report : Gds.CertificateDriftReport}
    (isDrift : telemetry.certificateDrift = report.toJson) :
    gdsTelemetryEvents syncCycleId telemetryPath telemetry =
      (telemetryPulledEvent syncCycleId telemetryPath (documentOrEmpty telemetry.mtlsMetrics)
          report.toJson (documentOrEmpty telemetry.componentLifecycleStatus) ::
        (if 0 < report.driftCount then [driftDetectedEvent syncCycleId report.toJson] else []) ++
          componentEvents syncCycleId (documentOrEmpty telemetry.componentLifecycleStatus) ++
          (telemetryCertEvents (documentOrEmpty telemetry.certificateTelemetry)).map
            (certEvent syncCycleId), true) := by
  have isDict : documentOrEmpty report.toJson = report.toJson := rfl
  have driftCount : entryOr report.toJson "drift_count" .null = .int report.driftCount := rfl
  simp only [gdsTelemetryEvents, isDrift, isDict, driftCount, intOrZero_int, Int.natCast_pos]

/-- What is said of components has messages of its own. -/
theorem componentEvent?_message {syncCycleId : String} {component : Json} {event : OtEvent}
    (made : componentEvent? syncCycleId component = some event) :
    event.message ∈ componentMessages := by
  rw [componentEvent?] at made
  split at made
  · obtain ⟨⟨message, severity, more⟩, isProblem, isEvent⟩ := Option.bind_eq_some_iff.mp made
    cases isEvent
    rw [componentProblem?] at isProblem
    split at isProblem
    · cases isProblem; simp [componentMessages]
    · split at isProblem
      · cases isProblem; simp [componentMessages]
      · split at isProblem
        · cases isProblem; simp [componentMessages]
        · split at isProblem
          · cases isProblem; simp [componentMessages]
          · cases isProblem
  · cases made

theorem mem_componentEvents {syncCycleId : String} {components : Json} {event : OtEvent}
    (member : event ∈ componentEvents syncCycleId components) :
    ∃ component, componentEvent? syncCycleId component = some event := by
  rw [componentEvents] at member
  split at member
  · obtain ⟨component, -, made⟩ := List.mem_filterMap.mp member
    exact ⟨component, made⟩
  · cases member

theorem filterMap_expiryAlert?_componentEvents (syncCycleId : String) (components : Json) :
    (componentEvents syncCycleId components).filterMap OtEvent.expiryAlert? = [] := by
  refine List.filterMap_eq_nil_iff.mpr fun event member => ?_
  obtain ⟨component, made⟩ := mem_componentEvents member
  have apart : ∀ message ∈ componentMessages, message ∉ expiryMessages := by decide
  exact if_neg (apart _ (componentEvent?_message made))

/-- The alerts that are forwarded are those about the records, in their order. -/
theorem filterMap_expiryAlert?_of_reports (syncCycleId telemetryPath : String)
    {telemetry : GdsTelemetry} {certificates : Gds.CertificateTelemetry}
    {report : Gds.CertificateDriftReport}
    (isTelemetry : telemetry.certificateTelemetry = certificates.toJson)
    (isDrift : telemetry.certificateDrift = report.toJson)
    (consistent : ∀ record ∈ certificates.certificates, record.operational = true →
      record.status = .active ∧ record.revokedAt = none) :
    (gdsTelemetryEvents syncCycleId telemetryPath telemetry).1.filterMap OtEvent.expiryAlert? =
      certificates.certificates.filterMap fun record =>
        (recordSeverity? record).map (record.fingerprintSha256, ·) := by
  have isDict : documentOrEmpty certificates.toJson = certificates.toJson := rfl
  have records : telemetryCertEvents certificates.toJson =
      (certificates.certificates.map CertificateRecord.toJson).filterMap telemetryCertEvent? := rfl
  have noPulled (metrics drift components : Json) :
      (telemetryPulledEvent syncCycleId telemetryPath metrics drift components).expiryAlert? =
        none := rfl
  have noDrift : (if 0 < report.driftCount then [driftDetectedEvent syncCycleId report.toJson]
      else []).filterMap OtEvent.expiryAlert? = [] := by
    split <;> rfl
  rw [gdsTelemetryEvents_of_report syncCycleId telemetryPath isDrift, isTelemetry, isDict, records,
    List.cons_append, List.cons_append, List.filterMap_cons_none (noPulled _ _ _),
    List.filterMap_append, List.filterMap_append, noDrift,
    filterMap_expiryAlert?_componentEvents, List.nil_append, List.nil_append,
    List.filterMap_map, List.filterMap_filterMap, List.filterMap_map]
  refine List.filterMap_congr fun record member => ?_
  rw [← expiryAlert?_of_record syncCycleId (consistent record member), Option.bind_map]
  rfl

theorem certEvent_message {syncCycleId : String} {certificates : Json} {event : OtEvent}
    (member : event ∈ (telemetryCertEvents certificates).map (certEvent syncCycleId)) :
    event.message ∈ expiryMessages := by
  obtain ⟨made, among, rfl⟩ := List.mem_map.mp member
  rw [telemetryCertEvents] at among
  split at among
  · obtain ⟨cert, -, isEvent⟩ := List.mem_filterMap.mp among
    rw [telemetryCertEvent?] at isEvent
    split at isEvent
    · cases isEvent
    · split at isEvent
      · cases isEvent
      · split at isEvent
        · cases isEvent
        · cases isEvent
          rw [certEvent]
          dsimp only
          split <;> simp [expiryMessages]
  · cases among

/-- The event of a drift is forwarded exactly for a report with items. -/
theorem exists_driftDetected (syncCycleId telemetryPath : String) {telemetry : GdsTelemetry}
    {report : Gds.CertificateDriftReport} (isDrift : telemetry.certificateDrift = report.toJson) :
    (∃ event ∈ (gdsTelemetryEvents syncCycleId telemetryPath telemetry).1,
        event.message = "certificate_inventory_drift_detected") ↔ 0 < report.driftCount := by
  have componentsApart : "certificate_inventory_drift_detected" ∉ componentMessages := by decide
  have certsApart : "certificate_inventory_drift_detected" ∉ expiryMessages := by decide
  rw [gdsTelemetryEvents_of_report syncCycleId telemetryPath isDrift]
  constructor
  · rintro ⟨event, member, isMessage⟩
    rw [List.cons_append, List.cons_append, List.mem_cons, List.mem_append, List.mem_append]
      at member
    rcases member with rfl | (isDetected | ofComponent) | ofCert
    · have pulledApart : "gds_telemetry_pulled" ≠ "certificate_inventory_drift_detected" := by
        decide
      exact absurd isMessage pulledApart
    · by_contra none
      rw [if_neg none] at isDetected
      cases isDetected
    · obtain ⟨component, made⟩ := mem_componentEvents ofComponent
      exact absurd (isMessage ▸ componentEvent?_message made) componentsApart
    · exact absurd (isMessage ▸ certEvent_message ofCert) certsApart
  · intro some
    refine ⟨driftDetectedEvent syncCycleId report.toJson, ?_, rfl⟩
    rw [if_pos some]
    simp

/-! ## The time that is left -/

section Times

variable (thresholds : ExpiryThresholds) (certificate : Certificate) (now : Int)

/-- The certificate is past its end, or not more days are left than are critical. -/
def IsCritical : Prop :=
  ∃ notAfter, certificate.notAfter = some notAfter ∧ (notAfter < now ∨
    notAfter - now < (thresholds.certExpiryCriticalDays + 1) * Gds.microsPerDay)

/-- It is not critical, and not more days are left than are worth a warning. -/
def NeedsWarning : Prop :=
  ¬IsCritical thresholds certificate now ∧ ∃ notAfter, certificate.notAfter = some notAfter ∧
    notAfter - now < (thresholds.certExpiryWarningDays + 1) * Gds.microsPerDay

end Times

section Severity

variable {thresholds : ExpiryThresholds} {clock : Nat → Int} {row : Certificate × Application}

theorem days_le_iff {left days : Int} :
    left / Gds.microsPerDay ≤ days ↔ left < (days + 1) * Gds.microsPerDay := by
  rw [← Int.lt_add_one_iff, Int.ediv_lt_iff_lt_mul (by decide)]

theorem days_neg_iff {left : Int} : left / Gds.microsPerDay < 0 ↔ left < 0 := by
  rw [Int.ediv_lt_iff_lt_mul (by decide), zero_mul]

theorem expiryState_critical_iff {certificate : Certificate} {now : Int} :
    Gds.expiryState thresholds (Gds.daysUntil certificate.notAfter now) ∈
        [Gds.ExpiryState.expired, .critical] ↔ IsCritical thresholds certificate now := by
  rw [IsCritical]
  cases certificate.notAfter with
  | none => simp [Gds.daysUntil, Gds.expiryState]
  | some notAfter =>
      simp only [Gds.daysUntil, Option.map_some, Gds.expiryState, days_neg_iff, days_le_iff,
        sub_neg, Option.some.injEq, exists_eq_left']
      split
      · simp [*]
      · split
        · simp [*]
        · split <;> simp [*]

theorem expiryState_warning_iff {certificate : Certificate} {now : Int} :
    Gds.expiryState thresholds (Gds.daysUntil certificate.notAfter now) = .warning ↔
      NeedsWarning thresholds certificate now := by
  rw [NeedsWarning, ← expiryState_critical_iff]
  cases certificate.notAfter with
  | none => simp [Gds.daysUntil, Gds.expiryState]
  | some notAfter =>
      simp only [Gds.daysUntil, Option.map_some, Gds.expiryState, days_neg_iff, days_le_iff,
        sub_neg, Option.some.injEq, exists_eq_left']
      split
      · simp
      · split
        · simp
        · split <;> simp [*]

/-- The severity of the alert about a certificate that is looked at. -/
def rowSeverity? (thresholds : ExpiryThresholds) (clock : Nat → Int)
    (row : Certificate × Application) : Option String :=
  recordSeverity? (Gds.certificateTelemetryRecord thresholds (clock row.1.id) row)

theorem rowSeverity?_critical :
    rowSeverity? thresholds clock row = some "critical" ↔
      Gds.Database.Certificate.isActive row.1 = true ∧
        IsCritical thresholds row.1 (clock row.1.id) :=
  recordSeverity?_critical.trans (and_congr_right fun _ => expiryState_critical_iff)

theorem rowSeverity?_warning :
    rowSeverity? thresholds clock row = some "warning" ↔
      Gds.Database.Certificate.isActive row.1 = true ∧
        NeedsWarning thresholds row.1 (clock row.1.id) :=
  recordSeverity?_warning.trans (and_congr_right fun _ => expiryState_warning_iff)

end Severity

/-! ## Every run of the store -/

/-- The alerts among the events: one for each active certificate that is about to expire, critical
where it is past its end or not more days are left than are critical, and no others. -/
structure AlertsExactly (db : Gds.Database) (thresholds : ExpiryThresholds) (clock : Nat → Int)
    (alerts : List (String × String)) : Prop where
  once : (alerts.map Prod.fst).Nodup
  critical : ∀ certificate ∈ db.certificates,
    (certificate.fingerprintSha256, "critical") ∈ alerts ↔
      Gds.Database.Certificate.isActive certificate = true ∧
        IsCritical thresholds certificate (clock certificate.id)
  warning : ∀ certificate ∈ db.certificates,
    (certificate.fingerprintSha256, "warning") ∈ alerts ↔
      Gds.Database.Certificate.isActive certificate = true ∧
        NeedsWarning thresholds certificate (clock certificate.id)
  stored : ∀ alert ∈ alerts, ∃ certificate ∈ db.certificates,
    certificate.fingerprintSha256 = alert.1

section Rows

variable {db : Gds.Database} {thresholds : ExpiryThresholds} {clock : Nat → Int}

/-- The alerts about the listed certificates. -/
def rowAlerts (thresholds : ExpiryThresholds) (clock : Nat → Int)
    (rows : List (Certificate × Application)) : List (String × String) :=
  rows.filterMap fun row => (rowSeverity? thresholds clock row).map (row.1.fingerprintSha256, ·)

theorem mem_rowAlerts {severity fingerprint : String} {rows : List (Certificate × Application)} :
    (fingerprint, severity) ∈ rowAlerts thresholds clock rows ↔
      ∃ row ∈ rows, rowSeverity? thresholds clock row = some severity ∧
        row.1.fingerprintSha256 = fingerprint := by
  simp [rowAlerts, and_comm]

/-- Fingerprints tell the alerts apart. -/
theorem mem_rowAlerts_of_stored (wellFormed : db.WellFormed)
    (fingerprints : (db.certificates.map Certificate.fingerprintSha256).Nodup)
    {severity : String} (holds : Certificate → Prop)
    (law : ∀ row, rowSeverity? thresholds clock row = some severity ↔ holds row.1)
    {certificate : Certificate} (stored : certificate ∈ db.certificates) :
    (certificate.fingerprintSha256, severity) ∈ rowAlerts thresholds clock db.listCertificates ↔
      holds certificate := by
  rw [mem_rowAlerts]
  constructor
  · rintro ⟨row, listed, isSeverity, same⟩
    have one : row.1 = certificate :=
      List.inj_on_of_nodup_map fingerprints (Gds.Database.mem_listCertificates.mp listed).1
        stored same
    rw [← one]
    exact (law row).mp isSeverity
  · intro held
    obtain ⟨application, listed⟩ := Gds.Database.exists_mem_listCertificates wellFormed stored
    exact ⟨_, listed, (law (certificate, application)).mpr held, rfl⟩

theorem alertsExactly_rowAlerts (wellFormed : db.WellFormed)
    (fingerprints : (db.certificates.map Certificate.fingerprintSha256).Nodup) :
    AlertsExactly db thresholds clock (rowAlerts thresholds clock db.listCertificates) := by
  refine ⟨?_, ?_, ?_, ?_⟩
  · have listed : (db.listCertificates.map fun row => row.1.fingerprintSha256).Nodup := by
      have perm := (Gds.Database.map_fst_listCertificates wellFormed).map
        Certificate.fingerprintSha256
      rw [List.map_map] at perm
      exact perm.nodup_iff.mpr fingerprints
    exact listed.sublist (Dict.keys_filterMap_sublist _ _ _)
  · intro certificate stored
    exact mem_rowAlerts_of_stored wellFormed fingerprints
      (fun certificate => Gds.Database.Certificate.isActive certificate = true ∧
        IsCritical thresholds certificate (clock certificate.id))
      (fun _ => rowSeverity?_critical) stored
  · intro certificate stored
    exact mem_rowAlerts_of_stored wellFormed fingerprints
      (fun certificate => Gds.Database.Certificate.isActive certificate = true ∧
        NeedsWarning thresholds certificate (clock certificate.id))
      (fun _ => rowSeverity?_warning) stored
  · intro alert member
    obtain ⟨row, listed, -, same⟩ := mem_rowAlerts.mp member
    exact ⟨row.1, (Gds.Database.mem_listCertificates.mp listed).1, same⟩

end Rows

section Runs

open Gds.Database (StoreOperation)

variable {operations : List StoreOperation} {db : Gds.Database}

/-- What is pulled at fifty. -/
def telemetryAtFifty (db : Gds.Database) : GdsTelemetry where
  mtlsMetrics := .null
  certificateTelemetry :=
    (db.certificateTelemetry Gds.Database.exampleThresholds (fun _ => 50) 50).toJson
  certificateDrift :=
    (db.certificateDriftReport Gds.Database.exampleThresholds (fun _ => 50) 50).toJson
  componentLifecycleStatus := .null

end Runs

end OpcuaGds.Agent
