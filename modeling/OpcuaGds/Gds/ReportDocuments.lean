import OpcuaGds.Foundation.Json
import OpcuaGds.Foundation.TimestampText
import OpcuaGds.Gds.ComponentStatus
import OpcuaGds.Gds.InventoryReports

/-! # The documents of the reports

The bodies with which the GDS answers those who read its reports.
-/

namespace OpcuaGds.Gds

/-- `isoformat` of an instant in UTC; the driver loads no instant outside the years of
`datetime`. -/
def isoText (instant : Int) : String :=
  match Timestamp.DateTime.ofMicros? instant with
  | some moment => String.ofList (Timestamp.isoformat moment .utc)
  | none => ""

/-- `_as_iso`. -/
def asIso (value : Option Int) : Json := value.elim .null fun instant => .str (isoText instant)

def jsonText (value : Option String) : Json := value.elim .null .str

def jsonInt (value : Option Int) : Json := value.elim .null .int

def CertificateStatus.name : CertificateStatus → String
  | .active => "active"
  | .revoked => "revoked"
  | .expired => "expired"

/-- The entries of a count. -/
def countsToJson (counts : Dict String Nat) : Json :=
  .obj (counts.items.map fun entry => (entry.1, .int entry.2))

def CertificateRecord.toJson (record : CertificateRecord) : Json :=
  .obj [("id", .int record.id), ("application_id", .int record.applicationId),
    ("application_uri", .str record.applicationUri), ("common_name", .str record.commonName),
    ("zone", .str record.zone.name), ("role", .str record.role.name),
    ("fingerprint_sha256", .str record.fingerprintSha256),
    ("serial_number", jsonText record.serialNumber), ("not_before", asIso record.notBefore),
    ("not_after", asIso record.notAfter), ("days_remaining", jsonInt record.daysRemaining),
    ("expiry_state", .str record.expiryState.name), ("operational", .bool record.operational),
    ("status", .str record.status.name), ("revoked_at", asIso record.revokedAt)]

/-- The answer of `get_certificate_telemetry`. -/
def CertificateTelemetry.toJson (telemetry : CertificateTelemetry) : Json :=
  .obj [("generated_at", .str (isoText telemetry.generatedAt)),
    ("thresholds", .obj [("warning_days", .int telemetry.thresholds.certExpiryWarningDays),
      ("critical_days", .int telemetry.thresholds.certExpiryCriticalDays)]),
    ("counts_by_expiry_state", countsToJson telemetry.countsByExpiryState),
    ("historical_counts_by_expiry_state", countsToJson telemetry.historicalCountsByExpiryState),
    ("operational_certificate_count", .int telemetry.operationalCertificateCount),
    ("historical_certificate_count", .int telemetry.historicalCertificateCount),
    ("certificates", .arr (telemetry.certificates.map CertificateRecord.toJson))]

def CertificateDrift.toJson : CertificateDrift → Json
  | .applicationMissingActiveCertificate applicationId applicationUri zone role =>
      .obj [("type", .str "application_missing_active_certificate"),
        ("application_id", .int applicationId), ("application_uri", .str applicationUri),
        ("zone", .str zone.name), ("role", .str role.name)]
  | .activeCertificateExpired certificateId applicationUri fingerprintSha256 daysRemaining =>
      .obj [("type", .str "active_certificate_expired"), ("certificate_id", .int certificateId),
        ("application_uri", .str applicationUri), ("fingerprint_sha256", .str fingerprintSha256),
        ("days_remaining", jsonInt daysRemaining)]
  | .revokedCertificateMissingRevokedAt certificateId applicationUri fingerprintSha256 =>
      .obj [("type", .str "revoked_certificate_missing_revoked_at"),
        ("certificate_id", .int certificateId), ("application_uri", .str applicationUri),
        ("fingerprint_sha256", .str fingerprintSha256)]

/-- The answer of `get_certificate_drift`. -/
def CertificateDriftReport.toJson (report : CertificateDriftReport) : Json :=
  .obj [("generated_at", .str (isoText report.generatedAt)), ("status", .str report.status),
    ("drift_count", .int report.driftCount),
    ("items", .arr (report.items.map CertificateDrift.toJson))]

/-- A listed row, without the copy of its report in `status_json`. -/
def ComponentStatusRow.toJson (row : ComponentStatusRow) : Json :=
  .obj [("application_uri", .str row.applicationUri),
    ("component_name", jsonText row.report.componentName),
    ("runtime_instance_id", jsonText row.report.runtimeInstanceId),
    ("zone", jsonText row.report.zone), ("role", jsonText row.report.role),
    ("target", jsonText row.report.target),
    ("certificate_fingerprint_sha256", jsonText row.report.certificateFingerprintSha256),
    ("certificate_not_before", asIso row.report.certificateNotBefore),
    ("certificate_not_after", asIso row.report.certificateNotAfter),
    ("days_until_expiry", jsonInt row.report.daysUntilExpiry),
    ("trust_artifact_version", jsonInt row.report.trustArtifactVersion),
    ("trust_artifact_revision", jsonInt row.report.trustArtifactRevision),
    ("trust_artifact_sha256", jsonText row.report.trustArtifactSha256),
    ("crl_freshness_verified", .bool row.report.crlFreshnessVerified),
    ("last_pull_status", jsonText row.report.lastPullStatus),
    ("last_apply_status", jsonText row.report.lastApplyStatus),
    ("last_renewal_status", jsonText row.report.lastRenewalStatus),
    ("private_key_exported", .bool row.report.privateKeyExported),
    ("private_key_touched", .bool row.report.privateKeyTouched),
    ("runtime_write_enabled", .bool row.report.runtimeWriteEnabled),
    ("reported_at", .str (isoText row.reportedAt)), ("updated_at", .str (isoText row.updatedAt))]

/-- The answer of `get_all_component_lifecycle_status`. -/
def componentStatusList (table : ComponentStatusTable) (generatedAt : Int) : Json :=
  .obj [("schema", .str "labshock_gds_component_status_list_v1"),
    ("generated_at", .str (isoText generatedAt)),
    ("components", .arr ((listComponentStatuses table 200).map ComponentStatusRow.toJson))]

end OpcuaGds.Gds
