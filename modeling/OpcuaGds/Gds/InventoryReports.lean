import OpcuaGds.Foundation.Dict
import OpcuaGds.Foundation.PythonText
import OpcuaGds.Gds.Expiry
import OpcuaGds.Gds.StoreIntegrity

/-! # The certificate reports of the GDS

The telemetry and the drift report go through the rows of the store and look at the clock once
for each certificate. What they say in the states that the program reaches.
-/

namespace OpcuaGds.Gds

/-! ## The state of a certificate -/

structure ExpiryThresholds where
  certExpiryWarningDays : Int
  certExpiryCriticalDays : Int

inductive ExpiryState where
  | unknown
  | expired
  | critical
  | warning
  | ok
  deriving DecidableEq, Repr

def ExpiryState.name : ExpiryState → String
  | .unknown => "unknown"
  | .expired => "expired"
  | .critical => "critical"
  | .warning => "warning"
  | .ok => "ok"

def microsPerDay : Int := 86400 * 1000000

/-- `_days_until` of a stored time. -/
def daysUntil (value : Option Int) (now : Int) : Option Int :=
  value.map fun value => (value - now) / microsPerDay

/-- `_expiry_state`. -/
def expiryState (thresholds : ExpiryThresholds) : Option Int → ExpiryState
  | none => .unknown
  | some days =>
      if days < 0 then .expired
      else if days ≤ thresholds.certExpiryCriticalDays then .critical
      else if days ≤ thresholds.certExpiryWarningDays then .warning
      else .ok

/-- What `_certificate_telemetry_record` gives. -/
structure CertificateRecord where
  id : Nat
  applicationId : Nat
  applicationUri : String
  commonName : String
  zone : Zone
  role : Role
  fingerprintSha256 : String
  serialNumber : Option String
  notBefore : Option Int
  notAfter : Option Int
  daysRemaining : Option Int
  expiryState : ExpiryState
  operational : Bool
  status : CertificateStatus
  revokedAt : Option Int
  deriving DecidableEq, Repr

/-- `_certificate_telemetry_record`. -/
def certificateTelemetryRecord (thresholds : ExpiryThresholds) (now : Int)
    (row : Certificate × Application) : CertificateRecord where
  id := row.1.id
  applicationId := row.1.applicationId
  applicationUri := row.2.applicationUri
  commonName := row.2.commonName
  zone := row.2.zone
  role := row.2.role
  fingerprintSha256 := row.1.fingerprintSha256
  serialNumber := row.1.serialNumber
  notBefore := row.1.notBefore
  notAfter := row.1.notAfter
  daysRemaining := daysUntil row.1.notAfter now
  expiryState := expiryState thresholds (daysUntil row.1.notAfter now)
  operational := Database.Certificate.isActive row.1
  status := row.1.status
  revokedAt := row.1.revokedAt

/-- `_count_by_expiry_state`. -/
def countByExpiryState (records : List CertificateRecord) : Dict String Nat :=
  Dict.tally (records.map fun record => record.expiryState.name)

/-! ## The reports -/

/-- The body that `get_certificate_telemetry` returns. -/
structure CertificateTelemetry where
  generatedAt : Int
  thresholds : ExpiryThresholds
  countsByExpiryState : Dict String Nat
  historicalCountsByExpiryState : Dict String Nat
  operationalCertificateCount : Nat
  historicalCertificateCount : Nat
  certificates : List CertificateRecord

inductive CertificateDrift where
  | applicationMissingActiveCertificate (applicationId : Nat) (applicationUri : String)
      (zone : Zone) (role : Role)
  | activeCertificateExpired (certificateId : Nat) (applicationUri fingerprintSha256 : String)
      (daysRemaining : Option Int)
  | revokedCertificateMissingRevokedAt (certificateId : Nat)
      (applicationUri fingerprintSha256 : String)
  deriving DecidableEq, Repr

structure CertificateDriftReport where
  generatedAt : Int
  status : String
  driftCount : Nat
  items : List CertificateDrift
  deriving DecidableEq, Repr

namespace Database

/-- `list_applications`. -/
def listApplications (db : Database) : List Application :=
  db.applications.insertionSort fun left right => left.id ≤ right.id

/-- `list_certificates`. -/
def listCertificates (db : Database) : List (Certificate × Application) :=
  (db.certificates.filterMap fun certificate =>
    (db.application? certificate.applicationId).map fun application =>
      (certificate, application)).insertionSort fun left right => left.1.id ≤ right.1.id

section Reports

-- the time at which the certificate of an identifier is looked at
variable (thresholds : ExpiryThresholds) (clock : Nat → Int) (generatedAt : Int) (db : Database)

/-- `get_certificate_telemetry`. -/
def certificateTelemetry : CertificateTelemetry :=
  let certs := db.listCertificates.map fun row =>
    certificateTelemetryRecord thresholds (clock row.1.id) row
  let operationalCerts := certs.filter CertificateRecord.operational
  { generatedAt := generatedAt
    thresholds := thresholds
    countsByExpiryState := countByExpiryState operationalCerts
    historicalCountsByExpiryState :=
      countByExpiryState (certs.filter fun record => !record.operational)
    operationalCertificateCount := operationalCerts.length
    historicalCertificateCount := certs.length - operationalCerts.length
    certificates := certs }

/-- `active_cert_apps`. -/
def activeCertApps : List Nat :=
  (db.listCertificates.filter fun row => row.1.status = .active).map fun row => row.1.applicationId

def missingItems : List CertificateDrift :=
  (db.listApplications.filter fun application =>
    PythonText.lower application.status = "active" ∧ application.id ∉ db.activeCertApps).map
      fun application => .applicationMissingActiveCertificate application.id
        application.applicationUri application.zone application.role

def expiredItem? (row : Certificate × Application) : Option CertificateDrift :=
  let telemetry := certificateTelemetryRecord thresholds (clock row.1.id) row
  if telemetry.expiryState = .expired ∧ row.1.status = .active then
    some (.activeCertificateExpired row.1.id row.2.applicationUri row.1.fingerprintSha256
      telemetry.daysRemaining)
  else none

def undatedItem? (row : Certificate × Application) : Option CertificateDrift :=
  if row.1.status = .revoked ∧ row.1.revokedAt = none then
    some (.revokedCertificateMissingRevokedAt row.1.id row.2.applicationUri
      row.1.fingerprintSha256)
  else none

/-- `_certificate_drift_report`. -/
def certificateDriftReport : CertificateDriftReport :=
  let drift := db.missingItems ++ db.listCertificates.flatMap fun row =>
    (expiredItem? thresholds clock row).toList ++ (undatedItem? row).toList
  { generatedAt := generatedAt
    status := if drift.isEmpty then "ok" else "drift_detected"
    driftCount := drift.length
    items := drift }

end Reports

/-! ## Listing -/

theorem mem_listApplications {db : Database} {application : Application} :
    application ∈ db.listApplications ↔ application ∈ db.applications := by
  rw [listApplications, List.mem_insertionSort]

theorem mem_listCertificates {db : Database} {row : Certificate × Application} :
    row ∈ db.listCertificates ↔
      row.1 ∈ db.certificates ∧ db.application? row.1.applicationId = some row.2 := by
  rw [listCertificates, List.mem_insertionSort, List.mem_filterMap]
  constructor
  · rintro ⟨certificate, stored, joined⟩
    obtain ⟨application, found, rfl⟩ := Option.map_eq_some_iff.mp joined
    exact ⟨stored, found⟩
  · rintro ⟨stored, found⟩
    exact ⟨row.1, stored, by rw [found, Option.map_some]⟩

/-- Where references point at rows, every certificate is listed once. -/
theorem map_fst_listCertificates {db : Database} (wellFormed : db.WellFormed) :
    (db.listCertificates.map Prod.fst).Perm db.certificates := by
  refine ((List.perm_insertionSort _ _).map Prod.fst).trans ?_
  rw [List.map_filterMap]
  have joined : ∀ certificate ∈ db.certificates,
      ((db.application? certificate.applicationId).map fun application =>
        (certificate, application)).map Prod.fst = some certificate := by
    intro certificate stored
    obtain ⟨application, found⟩ :=
      application?_isSome (wellFormed.certificateOwner certificate stored)
    rw [found]
    rfl
  rw [List.filterMap_congr joined, List.filterMap_some]

theorem exists_mem_listCertificates {db : Database} (wellFormed : db.WellFormed)
    {certificate : Certificate} (stored : certificate ∈ db.certificates) :
    ∃ application, (certificate, application) ∈ db.listCertificates := by
  obtain ⟨⟨_, application⟩, listed, rfl⟩ :=
    List.mem_map.mp ((map_fst_listCertificates wellFormed).mem_iff.mpr stored)
  exact ⟨application, listed⟩

theorem countP_listCertificates {db : Database} (wellFormed : db.WellFormed)
    (holds : Certificate → Bool) :
    db.listCertificates.countP (fun row => holds row.1) = db.certificates.countP holds := by
  rw [← (map_fst_listCertificates wellFormed).countP_eq, List.countP_map]
  rfl

/-! ## Certificates past their end -/

theorem expiryState_eq_expired {thresholds : ExpiryThresholds} {days : Option Int} :
    expiryState thresholds days = .expired ↔ ∃ number, days = some number ∧ number < 0 := by
  cases days with
  | none => simp [expiryState]
  | some days =>
      simp only [expiryState, Option.some.injEq, exists_eq_left']
      split
      · simp [*]
      · rename_i notNegative
        refine iff_of_false ?_ notNegative
        split
        · simp
        · split <;> simp

/-- A number of days is negative exactly from the end on. -/
theorem expiryState_daysUntil {thresholds : ExpiryThresholds} {certificate : Certificate}
    {now : Int} :
    expiryState thresholds (daysUntil certificate.notAfter now) = .expired ↔
      certificate.IsPast now := by
  rw [expiryState_eq_expired, Certificate.IsPast]
  cases certificate.notAfter with
  | none => simp [daysUntil]
  | some notAfter =>
      have before : (notAfter - now) / microsPerDay < 0 ↔ notAfter < now := by
        rw [Int.ediv_lt_iff_lt_mul (by decide), zero_mul, sub_neg]
      simpa [daysUntil] using before

/-- Where exactly the revoked certificates are dated, an active one is not revoked. -/
theorem RevocationDated.isActive_iff {db : Database} (dated : db.RevocationDated)
    {certificate : Certificate} (stored : certificate ∈ db.certificates) :
    Certificate.isActive certificate = true ↔ certificate.status = .active := by
  rw [Certificate.isActive, decide_eq_true_eq]
  refine and_iff_left_of_imp fun active => ?_
  have notRevoked : ¬certificate.revokedAt.isSome = true := by
    rw [← dated certificate stored, active]
    decide
  simpa using notRevoked

theorem isExpiredActive_iff {certificate : Certificate} {now : Int} :
    Certificate.isExpiredActive certificate now = true ↔
      Certificate.isActive certificate = true ∧ certificate.IsPast now := by
  rw [Certificate.isExpiredActive, Certificate.isActive, decide_eq_true_eq, decide_eq_true_eq,
    Certificate.IsPast, Option.any_eq_true, ← and_assoc]
  simp only [decide_eq_true_eq]

/-! ## What the drift report says -/

def HasActiveCertificate (db : Database) (applicationId : Nat) : Prop :=
  ∃ certificate ∈ db.certificates,
    certificate.applicationId = applicationId ∧ Certificate.isActive certificate = true

/-- An application is reported that counts as active and has no active certificate. -/
def missingDrift (application : Application) : CertificateDrift :=
  .applicationMissingActiveCertificate application.id application.applicationUri application.zone
    application.role

def expiredDrift (clock : Nat → Int) (row : Certificate × Application) : CertificateDrift :=
  .activeCertificateExpired row.1.id row.2.applicationUri row.1.fingerprintSha256
    (daysUntil row.1.notAfter (clock row.1.id))

/-- The report has the active applications without an active certificate and the certificates
that the expiry operation would mark when they are looked at, and it is ok when there are none. -/
structure DriftExact (db : Database) (clock : Nat → Int) (report : CertificateDriftReport) :
    Prop where
  missing : ∀ application ∈ db.applications, missingDrift application ∈ report.items ↔
    PythonText.lower application.status = "active" ∧ ¬db.HasActiveCertificate application.id
  expired : ∀ certificate ∈ db.certificates,
    (∃ application ∈ db.applications, application.id = certificate.applicationId ∧
        expiredDrift clock (certificate, application) ∈ report.items) ↔
      Certificate.isExpiredActive certificate (clock certificate.id) = true
  nothingElse : ∀ item ∈ report.items, (∃ application ∈ db.applications,
      item = missingDrift application) ∨
    ∃ certificate ∈ db.certificates, ∃ application,
      item = expiredDrift clock (certificate, application)
  counted : report.driftCount = report.items.length
  ok : report.status = "ok" ↔
    (∀ application ∈ db.applications, PythonText.lower application.status = "active" →
        db.HasActiveCertificate application.id) ∧
      ∀ certificate ∈ db.certificates,
        Certificate.isExpiredActive certificate (clock certificate.id) = false

section Exact

variable {thresholds : ExpiryThresholds} {clock : Nat → Int} {generatedAt : Int} {db : Database}

theorem mem_activeCertApps (wellFormed : db.WellFormed) (dated : db.RevocationDated)
    {applicationId : Nat} :
    applicationId ∈ db.activeCertApps ↔ db.HasActiveCertificate applicationId := by
  simp only [activeCertApps, List.mem_map, List.mem_filter, decide_eq_true_eq]
  constructor
  · rintro ⟨row, ⟨listed, active⟩, owner⟩
    have stored := (mem_listCertificates.mp listed).1
    exact ⟨row.1, stored, owner, (dated.isActive_iff stored).mpr active⟩
  · rintro ⟨certificate, stored, owner, active⟩
    obtain ⟨application, listed⟩ := exists_mem_listCertificates wellFormed stored
    exact ⟨_, ⟨listed, (of_decide_eq_true active).1⟩, owner⟩

theorem mem_missingItems (wellFormed : db.WellFormed) (dated : db.RevocationDated)
    {item : CertificateDrift} :
    item ∈ db.missingItems ↔ ∃ application ∈ db.applications, item = missingDrift application ∧
      PythonText.lower application.status = "active" ∧
        ¬db.HasActiveCertificate application.id := by
  simp only [missingItems, List.mem_map, List.mem_filter, decide_eq_true_eq, mem_listApplications,
    mem_activeCertApps wellFormed dated]
  constructor
  · rintro ⟨application, ⟨stored, lacks⟩, rfl⟩
    exact ⟨application, stored, rfl, lacks⟩
  · rintro ⟨application, stored, rfl, lacks⟩
    exact ⟨application, ⟨stored, lacks⟩, rfl⟩

/-- Where exactly the revoked certificates are dated, the report has no item about them. -/
theorem items_certificateDriftReport (dated : db.RevocationDated) :
    (db.certificateDriftReport thresholds clock generatedAt).items =
      db.missingItems ++ (db.listCertificates.filter fun row =>
        Certificate.isExpiredActive row.1 (clock row.1.id)).map (expiredDrift clock) := by
  refine congrArg (db.missingItems ++ ·) ?_
  rw [← List.filterMap_eq_map, List.filterMap_filter, List.filterMap_eq_flatMap_toList]
  refine List.flatMap_congr fun row listed => ?_
  have stored := (mem_listCertificates.mp listed).1
  have noUndated : undatedItem? row = none := by
    refine if_neg fun undated => ?_
    have isDated := (dated row.1 stored).mp undated.1
    rw [undated.2] at isDated
    cases isDated
  have condition : expiryState thresholds (daysUntil row.1.notAfter (clock row.1.id)) = .expired ∧
      row.1.status = .active ↔ Certificate.isExpiredActive row.1 (clock row.1.id) = true := by
    rw [isExpiredActive_iff, dated.isActive_iff stored, expiryState_daysUntil, and_comm]
  rw [noUndated, Option.toList_none, List.append_nil]
  exact congrArg Option.toList (if_congr condition rfl rfl)

theorem missingDrift_mem_items (wellFormed : db.WellFormed) (dated : db.RevocationDated)
    {application : Application} (stored : application ∈ db.applications) :
    missingDrift application ∈ (db.certificateDriftReport thresholds clock generatedAt).items ↔
      PythonText.lower application.status = "active" ∧
        ¬db.HasActiveCertificate application.id := by
  rw [items_certificateDriftReport dated, List.mem_append, or_iff_left fun among => ?noExpired,
    mem_missingItems wellFormed dated]
  case noExpired =>
    obtain ⟨_, -, isMissing⟩ := List.mem_map.mp among
    cases isMissing
  constructor
  · rintro ⟨other, otherStored, same, lacks⟩
    have one : application = other :=
      List.inj_on_of_nodup_map wellFormed.applicationIds stored otherStored
        (CertificateDrift.applicationMissingActiveCertificate.inj same).1
    rw [one]
    exact lacks
  · intro lacks
    exact ⟨application, stored, rfl, lacks⟩

theorem expiredDrift_mem_items (wellFormed : db.WellFormed) (dated : db.RevocationDated)
    {certificate : Certificate} (stored : certificate ∈ db.certificates) :
    (∃ application ∈ db.applications, application.id = certificate.applicationId ∧
        expiredDrift clock (certificate, application) ∈
          (db.certificateDriftReport thresholds clock generatedAt).items) ↔
      Certificate.isExpiredActive certificate (clock certificate.id) = true := by
  simp only [items_certificateDriftReport dated, List.mem_append, List.mem_map, List.mem_filter]
  constructor
  · rintro ⟨application, -, -, inMissing | ⟨row, ⟨listed, isExpired⟩, same⟩⟩
    · obtain ⟨_, -, isMissing, -⟩ := (mem_missingItems wellFormed dated).mp inMissing
      cases isMissing
    · have one : row.1 = certificate :=
        List.inj_on_of_nodup_map wellFormed.certificateIds (mem_listCertificates.mp listed).1
          stored (CertificateDrift.activeCertificateExpired.inj same).1
      rw [← one]
      exact isExpired
  · intro isExpired
    obtain ⟨application, listed⟩ := exists_mem_listCertificates wellFormed stored
    have found := (mem_listCertificates.mp listed).2
    exact ⟨application, List.mem_of_find?_eq_some found,
      by simpa using List.find?_some found, .inr ⟨_, ⟨listed, isExpired⟩, rfl⟩⟩

theorem status_eq_ok_iff :
    (db.certificateDriftReport thresholds clock generatedAt).status = "ok" ↔
      (db.certificateDriftReport thresholds clock generatedAt).items = [] := by
  rw [certificateDriftReport, ← List.isEmpty_iff]
  dsimp only
  split <;> simp [*]

theorem driftExact (wellFormed : db.WellFormed) (dated : db.RevocationDated) :
    db.DriftExact clock (db.certificateDriftReport thresholds clock generatedAt) := by
  refine ⟨fun _ => missingDrift_mem_items wellFormed dated,
    fun _ => expiredDrift_mem_items wellFormed dated, ?_, rfl, ?_⟩
  · intro item member
    rw [items_certificateDriftReport dated, List.mem_append] at member
    rcases member with inMissing | inExpired
    · obtain ⟨application, stored, isMissing, -⟩ := (mem_missingItems wellFormed dated).mp inMissing
      exact .inl ⟨application, stored, isMissing⟩
    · obtain ⟨row, listed, rfl⟩ := List.mem_map.mp inExpired
      have stored := (mem_listCertificates.mp (List.mem_filter.mp listed).1).1
      exact .inr ⟨row.1, stored, row.2, rfl⟩
  · rw [status_eq_ok_iff, items_certificateDriftReport dated, List.append_eq_nil_iff]
    apply and_congr
    · simp only [List.eq_nil_iff_forall_not_mem, mem_missingItems wellFormed dated]
      constructor
      · intro none application stored active
        by_contra lacks
        exact none _ ⟨application, stored, rfl, active, lacks⟩
      · rintro covered _ ⟨application, stored, -, active, lacks⟩
        exact lacks (covered application stored active)
    · rw [List.map_eq_nil_iff, List.filter_eq_nil_iff]
      constructor
      · intro unexpired certificate stored
        obtain ⟨application, listed⟩ := exists_mem_listCertificates wellFormed stored
        exact Bool.eq_false_iff.mpr (unexpired _ listed)
      · intro unexpired row listed
        exact Bool.eq_false_iff.mp (unexpired row.1 (mem_listCertificates.mp listed).1)

end Exact

/-! ## What the reports count -/

def CertificateDrift.isExpired : CertificateDrift → Bool
  | .activeCertificateExpired .. => true
  | _ => false

section Counts

variable {thresholds : ExpiryThresholds} {clock : Nat → Int} {generatedAt : Int} {db : Database}

theorem countP_expired_items (wellFormed : db.WellFormed) (dated : db.RevocationDated) :
    (db.certificateDriftReport thresholds clock generatedAt).items.countP
        CertificateDrift.isExpired =
      db.certificates.countP fun certificate =>
        Certificate.isExpiredActive certificate (clock certificate.id) := by
  have noMissing : db.missingItems.countP CertificateDrift.isExpired = 0 := by
    refine List.countP_eq_zero.mpr fun item member => ?_
    obtain ⟨_, -, rfl, -⟩ := (mem_missingItems wellFormed dated).mp member
    exact Bool.false_ne_true
  rw [items_certificateDriftReport dated, List.countP_append, noMissing, Nat.zero_add,
    List.countP_map, List.countP_filter, ← countP_listCertificates wellFormed]
  rfl

theorem get?_counts_expired (wellFormed : db.WellFormed) (dated : db.RevocationDated) :
    ((db.certificateTelemetry thresholds clock generatedAt).countsByExpiryState.get?
        "expired").getD 0 =
      db.certificates.countP fun certificate =>
        Certificate.isExpiredActive certificate (clock certificate.id) := by
  have named (state : ExpiryState) : state.name = "expired" ↔ state = .expired := by
    cases state <;> decide
  rw [certificateTelemetry, countByExpiryState, Dict.getD_get?_tally, List.count,
    List.countP_map, List.countP_filter, List.countP_map, ← countP_listCertificates wellFormed]
  refine List.countP_congr fun row listed => ?_
  have stored := (mem_listCertificates.mp listed).1
  simp only [Function.comp_apply, certificateTelemetryRecord, Bool.and_eq_true, beq_iff_eq, named,
    expiryState_daysUntil, isExpiredActive_iff, dated.isActive_iff stored, and_comm]

/-- The telemetry counts as many expired operational certificates as the drift report has, namely
those that the expiry operation would mark, and counts every certificate once. -/
structure ReportsAgree (db : Database) (clock : Nat → Int) (telemetry : CertificateTelemetry)
    (report : CertificateDriftReport) : Prop where
  alike : (telemetry.countsByExpiryState.get? "expired").getD 0 =
    report.items.countP CertificateDrift.isExpired
  marked : report.items.countP CertificateDrift.isExpired =
    db.certificates.countP fun certificate =>
      Certificate.isExpiredActive certificate (clock certificate.id)
  operational : (telemetry.countsByExpiryState.items.map Prod.snd).sum =
    db.certificates.countP Certificate.isActive
  historical : (telemetry.countsByExpiryState.items.map Prod.snd).sum +
    (telemetry.historicalCountsByExpiryState.items.map Prod.snd).sum = db.certificates.length

theorem sum_countByExpiryState (records : List CertificateRecord) :
    ((countByExpiryState records).items.map Prod.snd).sum = records.length := by
  rw [countByExpiryState, Dict.sum_tally, List.length_map]

theorem reportsAgree (wellFormed : db.WellFormed) (dated : db.RevocationDated) :
    db.ReportsAgree clock (db.certificateTelemetry thresholds clock generatedAt)
      (db.certificateDriftReport thresholds clock generatedAt) := by
  have expired := @countP_expired_items thresholds clock generatedAt db wellFormed dated
  have operational : ((db.certificateTelemetry thresholds clock
      generatedAt).countsByExpiryState.items.map Prod.snd).sum =
        db.certificates.countP Certificate.isActive := by
    rw [certificateTelemetry, sum_countByExpiryState, ← List.countP_eq_length_filter,
      List.countP_map, ← countP_listCertificates wellFormed]
    rfl
  refine ⟨(get?_counts_expired wellFormed dated).trans expired.symm, expired, operational, ?_⟩
  rw [operational, certificateTelemetry, sum_countByExpiryState, ← List.countP_eq_length_filter,
    List.countP_map, ← (map_fst_listCertificates wellFormed).length_eq, List.length_map,
    ← countP_listCertificates wellFormed,
    List.length_eq_countP_add_countP (fun row : Certificate × Application =>
      Certificate.isActive row.1) (l := db.listCertificates)]
  refine congrArg _ (List.countP_congr fun row _ => ?_)
  simp [certificateTelemetryRecord]

/-- The expiry operation leaves none to mark of those that were past their end before. -/
theorem countP_expired_marked {now : Int} (looked : ∀ id, clock id ≤ now) :
    ((db.markExpiredActiveCertificates now).certificates.countP fun certificate =>
      Certificate.isExpiredActive certificate (clock certificate.id)) = 0 := by
  rw [List.countP_eq_zero]
  intro certificate stored isExpired
  obtain ⟨old, oldStored, rfl⟩ := List.mem_map.mp stored
  by_cases marked : Certificate.isExpiredActive old now = true
  · rw [if_pos marked] at isExpired
    exact absurd isExpired (by simp [Certificate.isExpiredActive])
  · rw [if_neg marked, isExpiredActive_iff] at isExpired
    obtain ⟨isActive, notAfter, isEnd, past⟩ := isExpired
    exact marked (isExpiredActive_iff.mpr
      ⟨isActive, notAfter, isEnd, past.trans_le (looked old.id)⟩)

end Counts

/-! ## Every run -/

section Runs

variable {operations : List StoreOperation} {db : Database}

/-- In every state that the program reaches the drift report is exact; no revoked certificate is
there without the time of its revocation. -/
theorem certificate_drift_exact (active : ∀ operation ∈ operations, operation.InsertsActive)
    (reached : Transition.run storeStep GdsState.initial.db operations = some db)
    (thresholds : ExpiryThresholds) (clock : Nat → Int) (generatedAt : Int) :
    db.DriftExact clock (db.certificateDriftReport thresholds clock generatedAt) :=
  driftExact (wellFormed_run reached) (revocationDated_run active reached)

/-- A client with a certificate that ends at forty. -/
def clientOperations : List StoreOperation :=
  [.upsertApplication "urn:client" "Client" .ot .scadaClient none "active",
    .insertCertificate exampleNewCertificate 10]

theorem clientOperations_active : ∀ operation ∈ clientOperations, operation.InsertsActive := by
  intro operation member
  rcases List.mem_pair.mp member with rfl | rfl
  · trivial
  · rfl

def exampleThresholds : ExpiryThresholds := ⟨30, 7⟩

theorem expired_client_reported :
    ∃ db, Transition.run storeStep GdsState.initial.db clientOperations = some db ∧
      (db.certificateDriftReport exampleThresholds (fun _ => 50) 50).status = "drift_detected" ∧
        db.DriftExact (fun _ => 50)
          (db.certificateDriftReport exampleThresholds (fun _ => 50) 50) :=
  ⟨_, rfl, by decide +kernel, certificate_drift_exact clientOperations_active rfl _ _ _⟩

/-- In every state that the program reaches the two reports agree with the store, and once the
certificates that the expiry operation finds are marked, they have none that was past its end by
then. -/
theorem expired_reports_agree (active : ∀ operation ∈ operations, operation.InsertsActive)
    (reached : Transition.run storeStep GdsState.initial.db operations = some db)
    (thresholds : ExpiryThresholds) (clock : Nat → Int) (generatedAt : Int) :
    db.ReportsAgree clock (db.certificateTelemetry thresholds clock generatedAt)
        (db.certificateDriftReport thresholds clock generatedAt) ∧
      ∀ now, (∀ id, clock id ≤ now) →
        let marked := db.markExpiredActiveCertificates now
        ((marked.certificateTelemetry thresholds clock generatedAt).countsByExpiryState.get?
            "expired").getD 0 = 0 ∧
          (marked.certificateDriftReport thresholds clock generatedAt).items.countP
            CertificateDrift.isExpired = 0 := by
  have wellFormed := wellFormed_run reached
  have dated := revocationDated_run active reached
  refine ⟨reportsAgree wellFormed dated, fun now looked => ?_⟩
  have stepped : db.storeStep (.markExpiredActiveCertificates now) =
      some (db.markExpiredActiveCertificates now) := rfl
  have marks : StoreOperation.InsertsActive (.markExpiredActiveCertificates now) := trivial
  have agree := @reportsAgree thresholds clock generatedAt _ (wellFormed.storeStep stepped)
    (dated.storeStep marks stepped)
  have none : ((db.markExpiredActiveCertificates now).certificates.countP fun certificate =>
      Certificate.isExpiredActive certificate (clock certificate.id)) = 0 :=
    countP_expired_marked looked
  exact ⟨(agree.alike.trans agree.marked).trans none, agree.marked.trans none⟩

theorem expired_client_marked :
    ∃ db, Transition.run storeStep GdsState.initial.db clientOperations = some db ∧
      (db.certificateDriftReport exampleThresholds (fun _ => 50) 50).items.countP
          CertificateDrift.isExpired = 1 ∧
        db.ReportsAgree (fun _ => 50) (db.certificateTelemetry exampleThresholds (fun _ => 50) 50)
            (db.certificateDriftReport exampleThresholds (fun _ => 50) 50) ∧
          ((db.markExpiredActiveCertificates 50).certificateDriftReport exampleThresholds
            (fun _ => 50) 50).items.countP CertificateDrift.isExpired = 0 := by
  obtain ⟨agree, marked⟩ := expired_reports_agree clientOperations_active rfl exampleThresholds
    (fun _ => 50) 50
  exact ⟨_, rfl, by decide +kernel, agree, (marked 50 fun _ => le_rfl).2⟩

theorem exists_selected {applicationId : Nat} (has : db.HasActiveCertificate applicationId) :
    ∃ id, db.activeCertificateIdForApplication applicationId = some id := by
  obtain ⟨certificate, stored, owner, isActive⟩ := has
  rw [activeCertificateIdForApplication]
  split
  · exact ⟨_, rfl⟩
  · have among : certificate ∈ db.ownActiveCertificates applicationId :=
      List.mem_filter.mpr ⟨stored, decide_eq_true ⟨owner, isActive⟩⟩
    cases first : VersionedTable.firstBy ownBefore (db.ownActiveCertificates applicationId) with
    | none =>
        rw [VersionedTable.firstBy_eq_none_iff.mp first] at among
        cases among
    | some newest => exact ⟨newest.id, rfl⟩

/-- After an ok drift report, every list that is ensured in the same state for a time that is not
later has a certificate for each active application of its place, and none that is past its end. -/
theorem ok_report_covers_lists (active : ∀ operation ∈ operations, operation.InsertsActive)
    (reached : Transition.run storeStep GdsState.initial.db operations = some db)
    {thresholds : ExpiryThresholds} {clock : Nat → Int} {generatedAt now : Int}
    (ok : (db.certificateDriftReport thresholds clock generatedAt).status = "ok")
    (looked : ∀ id, now ≤ clock id) (zone : Zone) (role : Role) :
    ∃ trustList, (db.ensureTrustListCurrent zone role now).latestTrustList? zone role =
        some trustList ∧
      (∀ application ∈ db.applications, application.status = "active" →
        trustlistApplicationFilter zone role application = true →
          ∃ id ∈ trustList.members, db.Selects application.id id) ∧
      db.FreeOfExpired trustList.members now := by
  have wellFormed := wellFormed_run reached
  have dated := revocationDated_run active reached
  obtain ⟨covered, unexpired⟩ := (driftExact wellFormed dated).ok.mp ok
  obtain ⟨trustList, latest, members⟩ := latestTrustList?_ensure db zone role now
  refine ⟨trustList, latest, fun application stored isActive ofPlace => ?_, ?_⟩
  · have lowered : PythonText.lower application.status = "active" := by
      rw [isActive]
      decide
    obtain ⟨id, selected⟩ := exists_selected (covered application stored lowered)
    have selects := selects_iff.mpr selected
    refine ⟨id, ?_, selects⟩
    rw [members, mem_desired_iff]
    exact ⟨application, stored, isActive, ofPlace, selects⟩
  · rw [freeOfExpired_iff wellFormed fun id => (members id).trans mem_desired_iff]
    intro certificate stored _
    rw [← Bool.not_eq_true, isExpiredActive_iff]
    rintro ⟨isActive, notAfter, isEnd, past⟩
    have isExpired := isExpiredActive_iff.mpr
      ⟨isActive, notAfter, isEnd, past.trans_le (looked certificate.id)⟩
    rw [unexpired certificate stored] at isExpired
    cases isExpired

theorem current_client_covered :
    ∃ db, Transition.run storeStep GdsState.initial.db clientOperations = some db ∧
      ∃ trustList, (db.ensureTrustListCurrent .ot .server 30).latestTrustList? .ot .server =
          some trustList ∧
        (∀ application ∈ db.applications, application.status = "active" →
          trustlistApplicationFilter .ot .server application = true →
            ∃ id ∈ trustList.members, db.Selects application.id id) ∧
        db.FreeOfExpired trustList.members 30 := by
  have ok : ((Transition.run storeStep GdsState.initial.db clientOperations).map fun db =>
      (db.certificateDriftReport exampleThresholds (fun _ => 30) 30).status) = some "ok" := by
    decide +kernel
  obtain ⟨db, reached, isOk⟩ := Option.map_eq_some_iff.mp ok
  exact ⟨db, reached,
    ok_report_covers_lists clientOperations_active reached isOk (fun _ => le_rfl) .ot .server⟩

end Runs

end Database

end OpcuaGds.Gds
