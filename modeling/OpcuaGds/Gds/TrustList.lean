import OpcuaGds.Gds.Database

/-! # Trust lists

Which certificates belong to the trust list of a zone and a role, and how versions
of the list are built and read back.
-/

namespace OpcuaGds.Gds

namespace Database

/-- `_trustlist_application_filter`: the list of the OT servers holds clients of
other places instead of the servers themselves. -/
def trustlistApplicationFilter (zone : Zone) (role : Role) (application : Application) : Bool :=
  if zone = .ot ∧ role = .server then
    (application.zone = .dmz ∧ application.role = .southboundClient) ∨
      (application.zone = .ot ∧ application.role = .scadaClient)
  else application.zone = zone ∧ application.role = role

/-- `c.status = 'active' AND c.revoked_at IS NULL`. -/
def Certificate.isActive (certificate : Certificate) : Bool :=
  certificate.status = .active ∧ certificate.revokedAt = none

/-- The activated packages of an application with their active certificates. -/
def activatedCertificates (db : Database) (applicationId : Nat) :
    List (CertificatePackage × Certificate) :=
  db.packages.filterMap fun package =>
    if package.applicationId = applicationId ∧ package.lifecycleState = .activated ∧
        package.status = "active" then
      (package.certificateId.bind db.certificate?).bind fun certificate =>
        if Certificate.isActive certificate then some (package, certificate) else none
    else none

/-- `ORDER BY cp.created_at DESC, cp.generation DESC, c.id DESC`. -/
def activatedBefore (left right : CertificatePackage × Certificate) : Bool :=
  VersionedTable.descending left.1.createdAt right.1.createdAt
    (VersionedTable.descending left.1.generation right.1.generation
      (VersionedTable.descending left.2.id right.2.id false))

/-- The active certificates that an application owns. -/
def ownActiveCertificates (db : Database) (applicationId : Nat) : List Certificate :=
  db.certificates.filter fun certificate =>
    certificate.applicationId = applicationId ∧ Certificate.isActive certificate

/-- A column that may be missing, descending: missing values come first. -/
def descendingNullable (left right : Option Int) (rest : Bool) : Bool :=
  match left, right with
  | none, none => rest
  | none, some _ => true
  | some _, none => false
  | some left, some right => VersionedTable.descending left right rest

/-- `ORDER BY c.created_at DESC, c.not_before DESC, c.id DESC`. -/
def ownBefore (left right : Certificate) : Bool :=
  VersionedTable.descending left.createdAt right.createdAt
    (descendingNullable left.notBefore right.notBefore
      (VersionedTable.descending left.id right.id false))

/-- `_active_certificate_id_for_application`. -/
def activeCertificateIdForApplication (db : Database) (applicationId : Nat) : Option Nat :=
  match VersionedTable.firstBy activatedBefore (db.activatedCertificates applicationId) with
  | some row => some row.2.id
  | none =>
      (VersionedTable.firstBy ownBefore (db.ownActiveCertificates applicationId)).map Certificate.id

/-- The applications that a list is made from, by URI. -/
def trustlistApplications (db : Database) (zone : Zone) (role : Role) : List Application :=
  (db.applications.filter fun application =>
    application.status = "active" ∧ trustlistApplicationFilter zone role application).insertionSort
      fun left right => left.applicationUri ≤ right.applicationUri

/-- `_desired_trustlist_certificate_ids`. -/
def desiredTrustlistCertificateIds (db : Database) (zone : Zone) (role : Role) : List Nat :=
  (db.trustlistApplications zone role).filterMap fun application =>
    db.activeCertificateIdForApplication application.id

/-- The stored versions of one list. -/
def trustListsOf (db : Database) (zone : Zone) (role : Role) : List TrustList :=
  db.trustLists.filter fun trustList => trustList.zone = zone ∧ trustList.role = role

/-- `ORDER BY version DESC LIMIT 1`. -/
def latestTrustList? (db : Database) (zone : Zone) (role : Role) : Option TrustList :=
  VersionedTable.latest? TrustList.version (db.trustListsOf zone role)

/-- The row that `build_trust_list` inserts, with its members. -/
def newTrustList (db : Database) (zone : Zone) (role : Role) (now : Int) : TrustList where
  id := freshId (db.trustLists.map TrustList.id)
  zone := zone
  role := role
  version := VersionedTable.maxVersion TrustList.version (db.trustListsOf zone role) + 1
  members := (db.desiredTrustlistCertificateIds zone role).dedup
  publishedAt := now

/-- `build_trust_list`. -/
def buildTrustList (db : Database) (zone : Zone) (role : Role) (now : Int) : Database :=
  { db with trustLists := db.trustLists ++ [db.newTrustList zone role now] }

/-- Whether a version has the members that the list should have now. -/
def isCurrent (db : Database) (trustList : TrustList) : Bool :=
  trustList.members.insertionSort (· ≤ ·) =
    (db.desiredTrustlistCertificateIds trustList.zone trustList.role).insertionSort (· ≤ ·)

/-- `ensure_trust_list_current`: a new version, unless the latest one is current. -/
def ensureTrustListCurrent (db : Database) (zone : Zone) (role : Role) (now : Int) : Database :=
  match db.latestTrustList? zone role with
  | some trustList => if db.isCurrent trustList then db else db.buildTrustList zone role now
  | none => db.buildTrustList zone role now

/-- A row of the certificate query of `get_latest_trust_list_with_certs`. -/
structure TrustedCertificate where
  certificateId : Nat
  applicationUri : String
  commonName : String
  zone : Zone
  role : Role
  componentType : Option String
  fingerprintSha256 : String
  pem : String
  deriving DecidableEq

/-- The join of one member with its certificate and its application. -/
def trustedCertificate? (db : Database) (certificateId : Nat) : Option TrustedCertificate := do
  let certificate ← db.certificate? certificateId
  let application ← db.application? certificate.applicationId
  some {
    certificateId := certificate.id
    applicationUri := application.applicationUri
    commonName := application.commonName
    zone := application.zone
    role := application.role
    componentType := application.componentType
    fingerprintSha256 := certificate.fingerprintSha256
    pem := certificate.pem }

/-- The certificates of a version, by application URI. -/
def trustedCertificates (db : Database) (trustList : TrustList) : List TrustedCertificate :=
  (trustList.members.filterMap db.trustedCertificate?).insertionSort
    fun left right => left.applicationUri ≤ right.applicationUri

/-- `get_latest_trust_list_with_certs`. -/
def latestTrustListWithCerts? (db : Database) (zone : Zone) (role : Role) :
    Option (TrustList × List TrustedCertificate) :=
  (db.latestTrustList? zone role).map fun trustList => (trustList, db.trustedCertificates trustList)

/-! ## What a build stores -/

@[simp] theorem buildTrustList_applications (db : Database) (zone : Zone) (role : Role)
    (now : Int) :
    (db.buildTrustList zone role now).applications = db.applications := rfl

@[simp] theorem buildTrustList_certificates (db : Database) (zone : Zone) (role : Role)
    (now : Int) :
    (db.buildTrustList zone role now).certificates = db.certificates := rfl

@[simp] theorem buildTrustList_trustArtifacts (db : Database) (zone : Zone) (role : Role)
    (now : Int) : (db.buildTrustList zone role now).trustArtifacts = db.trustArtifacts := rfl

theorem trustListsOf_buildTrustList_self (db : Database) (zone : Zone) (role : Role) (now : Int) :
    (db.buildTrustList zone role now).trustListsOf zone role =
      db.trustListsOf zone role ++ [db.newTrustList zone role now] := by
  simp [trustListsOf, buildTrustList, newTrustList]

theorem trustListsOf_buildTrustList_of_ne (db : Database) {zone other : Zone} {role kind : Role}
    (distinct : ¬(zone = other ∧ role = kind)) (now : Int) :
    (db.buildTrustList zone role now).trustListsOf other kind = db.trustListsOf other kind := by
  simp [trustListsOf, buildTrustList, newTrustList, distinct]

/-- The version just built is the latest one. -/
theorem latestTrustList?_buildTrustList_self (db : Database) (zone : Zone) (role : Role)
    (now : Int) :
    (db.buildTrustList zone role now).latestTrustList? zone role =
      some (db.newTrustList zone role now) := by
  rw [latestTrustList?, trustListsOf_buildTrustList_self]
  exact VersionedTable.latest?_concat (Nat.lt_succ_self _)

/-- A build of one list leaves the others alone. -/
theorem latestTrustList?_buildTrustList_of_ne (db : Database) {zone other : Zone}
    {role kind : Role} (distinct : ¬(zone = other ∧ role = kind)) (now : Int) :
    (db.buildTrustList zone role now).latestTrustList? other kind =
      db.latestTrustList? other kind := by
  rw [latestTrustList?, trustListsOf_buildTrustList_of_ne db distinct, latestTrustList?]

/-- A selected certificate is stored and active. -/
theorem activeCertificateId_isActive {db : Database} {applicationId id : Nat}
    (selected : db.activeCertificateIdForApplication applicationId = some id) :
    ∃ certificate ∈ db.certificates, certificate.id = id ∧ Certificate.isActive certificate := by
  unfold activeCertificateIdForApplication at selected
  split at selected
  · rename_i row top
    have member := VersionedTable.firstBy_mem top
    simp only [activatedCertificates, List.mem_filterMap] at member
    obtain ⟨package, _, found⟩ := member
    split at found
    · obtain ⟨certificate, lookup, active⟩ := Option.bind_eq_some_iff.mp found
      obtain ⟨certificateId, _, stored⟩ := Option.bind_eq_some_iff.mp lookup
      split at active
      · rename_i isActive
        cases active
        cases selected
        exact ⟨certificate, List.mem_of_find?_eq_some stored, rfl, isActive⟩
      · cases active
    · cases found
  · obtain ⟨certificate, top, rfl⟩ := Option.map_eq_some_iff.mp selected
    have member := VersionedTable.firstBy_mem top
    simp only [ownActiveCertificates, List.mem_filter, decide_eq_true_eq] at member
    exact ⟨certificate, member.1, rfl, member.2.2⟩

/-- Every certificate that a list should have is stored and active. -/
theorem desired_isActive {db : Database} {zone : Zone} {role : Role} {id : Nat}
    (desired : id ∈ db.desiredTrustlistCertificateIds zone role) :
    ∃ certificate ∈ db.certificates, certificate.id = id ∧ Certificate.isActive certificate := by
  obtain ⟨application, _, selected⟩ := List.mem_filterMap.mp desired
  exact activeCertificateId_isActive selected

end Database

end OpcuaGds.Gds
