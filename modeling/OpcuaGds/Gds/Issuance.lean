import OpcuaGds.Gds.CertificateStore
import OpcuaGds.Gds.PackageManifest

/-! # Issuance of certificate packages

`issue_certificate_package` as a process: every statement of it that reads or commits
is a step of its own, so that any number of calls interleave as they do on one
database. What the outside world supplies (the outcome of CSR validation, the answer of
Vault, fresh identifiers, the CRLs) comes with the step that uses it, and a call may
raise at every step.
-/

namespace OpcuaGds.Gds

/-! ## Tables -/

/-- A row of `applications` with the column that issuance reads besides the others. -/
structure RegisteredApplication extends Application where
  runtimeInstanceId : Option String

/-- `str(app.get("runtime_instance_id") or app.get("application_uri") or "")`. -/
def RegisteredApplication.runtime (application : RegisteredApplication) : String :=
  (application.runtimeInstanceId.filter (· ≠ "")).getD application.applicationUri

/-- A row of `component_profiles`. -/
structure ComponentProfile where
  profileName : String
  status : String
  adapter : RuntimeAdapter

inductive RequestStatus where
  | validated
  | rejected
  | failed
  | issued
  | packaged
  | dryRunValidated
  | dryRunRejected
  deriving DecidableEq, Repr

/-- A row of `certificate_requests`. -/
structure CertificateRequest where
  requestId : String
  applicationId : Nat
  runtimeInstanceId : String
  profileName : String
  csrFingerprintSha256 : String
  status : RequestStatus
  deriving DecidableEq, Repr

/-- A row of `certificate_packages` with all its columns. -/
structure IssuedPackage extends CertificatePackage where
  runtimeInstanceId : String
  requestId : String
  profileName : String
  supersedesPackageId : Option String
  supersedesGeneration : Option Nat
  manifestJson : Json
  manifestSha256 : String
  signatureBase64 : String

/-- A package row as it was inserted: without what lifecycle updates made of it. -/
def IssuedPackage.inserted (package : IssuedPackage) : IssuedPackage :=
  { package with lifecycleState := .packaged, status := "active" }

/-- The tables that issuance reads and writes. -/
structure IssuanceTables where
  applications : List RegisteredApplication
  profiles : List ComponentProfile
  requests : List CertificateRequest
  certificates : List Certificate
  packages : List IssuedPackage

namespace IssuanceTables

/-- The same tables as the certificate store sees them. -/
def database (tables : IssuanceTables) : Database where
  applications := tables.applications.map RegisteredApplication.toApplication
  certificates := tables.certificates
  packages := tables.packages.map IssuedPackage.toCertificatePackage
  packageEvents := []
  trustLists := []
  trustArtifacts := []

/-- `get_application_by_uri`. -/
def getApplicationByUri (tables : IssuanceTables) (applicationUri : String) :
    Option RegisteredApplication :=
  tables.applications.find? fun application => application.applicationUri = applicationUri

/-- `get_component_profile`. -/
def getComponentProfile (tables : IssuanceTables) (profileName : String) :
    Option ComponentProfile :=
  tables.profiles.find? fun profile => profile.profileName = profileName

/-- The statuses that `get_certificate_request_by_csr` passes over. -/
def settledStatuses : List RequestStatus :=
  [.failed, .rejected, .dryRunValidated, .dryRunRejected]

/-- Whether `get_certificate_request_by_csr` finds a request. -/
def hasRequestByCsr (tables : IssuanceTables) (csrFingerprintSha256 : String) : Bool :=
  tables.requests.any fun request =>
    request.csrFingerprintSha256 = csrFingerprintSha256 ∧ request.status ∉ settledStatuses

/-- The status that is stored for a request. -/
def requestStatus? (tables : IssuanceTables) (requestId : String) : Option RequestStatus :=
  (tables.requests.find? fun request => request.requestId = requestId).map
    CertificateRequest.status

/-- `insert_certificate_request`; identifiers are unique. -/
def insertCertificateRequest (tables : IssuanceTables) (request : CertificateRequest) :
    Option IssuanceTables :=
  if tables.requests.any (·.requestId = request.requestId) then none
  else some { tables with requests := tables.requests ++ [request] }

/-- `update_certificate_request_status`. -/
def updateCertificateRequestStatus (tables : IssuanceTables) (requestId : String)
    (status : RequestStatus) : IssuanceTables :=
  { tables with requests := tables.requests.map fun request =>
      if request.requestId = requestId then { request with status := status } else request }

/-- `get_certificate_by_fingerprint`. -/
def getCertificateByFingerprint (tables : IssuanceTables) (fingerprintSha256 : String) :
    Option Certificate :=
  tables.certificates.find? fun certificate => certificate.fingerprintSha256 = fingerprintSha256

/-- `get_latest_certificate_package_for_application`. -/
def getLatestPackage (tables : IssuanceTables) (applicationId : Nat) (profileName : String) :
    Option PreviousPackage :=
  (VersionedTable.latest? (fun package => package.generation)
    (tables.packages.filter fun package =>
      package.applicationId = applicationId ∧ package.profileName = profileName)).map
    fun package => { packageId := package.packageId, generation := package.generation }

/-- `insert_certificate_package` under the two `UNIQUE` constraints of the table. -/
def insertCertificatePackage (tables : IssuanceTables) (package : IssuedPackage) :
    Option IssuanceTables :=
  if tables.packages.any (·.packageId = package.packageId) ∨
      tables.packages.any (fun stored => stored.applicationId = package.applicationId ∧
        stored.profileName = package.profileName ∧ stored.generation = package.generation) then
    none
  else some { tables with packages := tables.packages ++ [package] }

/-- The `UPDATE` of `update_certificate_package_lifecycle`. -/
def storeLifecycle (tables : IssuanceTables) (packageId : String) (target : LifecycleState) :
    IssuanceTables :=
  { tables with packages := tables.packages.map fun package =>
      if package.packageId = packageId then
        { package with toPackageRow := package.toPackageRow.store target }
      else package }

end IssuanceTables

/-! ## Calls -/

/-- The arguments of a call; the fingerprint is missing when the CSR cannot be parsed or
its signature is invalid. -/
structure IssuanceInput where
  applicationUri : String
  runtimeInstanceId : String
  profileName : String
  csrFingerprintSha256 : Option String
  allowDuplicateCsr : Bool

/-- What a call has read before it stores its request. -/
structure IssuanceSubject where
  application : RegisteredApplication
  profile : ComponentProfile
  runtimeInstanceId : String
  csrFingerprintSha256 : String

/-- What a call knows once the issued certificate is stored; `inserted` tells a row that
this call added from one that was there. -/
structure Issuing where
  subject : IssuanceSubject
  requestId : String
  issuedCert : IssuedCertificate
  certificateId : Nat
  inserted : Bool

/-- How far a call has come. -/
inductive IssuancePhase where
  | started
  | applicationRead (application : RegisteredApplication)
  | profileRead (application : RegisteredApplication) (profile : ComponentProfile)
  | duplicateChecked (subject : IssuanceSubject)
  | rejected (requestId : String)
  | validated (subject : IssuanceSubject) (requestId : String)
  | signingFailed (requestId : String)
  | failureRecorded (requestId : String)
  | signed (subject : IssuanceSubject) (requestId : String) (issuedCert : IssuedCertificate)
  | certificateKnown (subject : IssuanceSubject) (requestId : String)
      (issuedCert : IssuedCertificate)
  | certificateStored (issuing : Issuing)
  | issuedRecorded (issuing : Issuing)
  | previousRead (issuing : Issuing) (previous : Option PreviousPackage)
  | packageStored (issuing : Issuing)
  | packagedRecorded (issuing : Issuing)
  | returned
  | raised

/-- What enters the manifest from outside the database. -/
structure PackageSources where
  caChain : String
  crl : String
  crlBundle : List (String × Json)
  crlMetadata : List (String × Json)
  compatibility : RuntimeCompatibility
  packageId : HexId
  createdAt : Timestamp.DateTime
  storedAt : Int

/-- The steps of a call, with what the outside world supplies to them. -/
inductive IssuanceAction where
  | readApplication
  | readProfile
  | checkDuplicate
  | storeRequest (requestId : HexId) (validationErrors : List String)
  | vaultSigned (issuedCert : IssuedCertificate)
  | vaultFailed
  | recordFailure
  | insertCertificate (now : Int)
  | findCertificate
  | recordIssued
  | readPrevious
  | insertPackage (sources : PackageSources)
  | recordPackaged
  | finish
  | raise

/-- The arguments of `insert_certificate`. -/
def newCertificate (applicationId : Nat) (issuedCert : IssuedCertificate) :
    Database.NewCertificate where
  applicationId := applicationId
  fingerprintSha256 := issuedCert.fingerprintSha256
  serialNumber := some issuedCert.serialNumber
  notBefore := some issuedCert.notBefore.micros
  notAfter := some issuedCert.notAfter.micros
  pem := issuedCert.pem

/-- The material of the manifest. -/
def Issuing.material (issuing : Issuing) (sources : PackageSources) : PackageMaterial where
  applicationUri := issuing.subject.application.applicationUri
  runtimeInstanceId := issuing.subject.runtimeInstanceId
  profileName := issuing.subject.profile.profileName
  componentType := issuing.subject.application.componentType
  role := issuing.subject.application.role.name
  issuedCert := issuing.issuedCert
  caChain := sources.caChain
  crl := sources.crl
  crlBundle := sources.crlBundle
  crlMetadata := sources.crlMetadata
  adapter := issuing.subject.profile.adapter
  compatibility := sources.compatibility
  packageId := sources.packageId
  createdAt := sources.createdAt

section Calls

variable {PrivateKey PublicKey : Type} (crypto : Crypto PrivateKey PublicKey)
  (signer : TrustArtifactSigner PrivateKey)

/-- The row that is inserted into `certificate_packages`. -/
def Issuing.package (issuing : Issuing) (previous : Option PreviousPackage)
    (sources : PackageSources) : IssuedPackage :=
  let manifest := packageManifest crypto signer (issuing.material sources) previous
  { packageId := sources.packageId.text
    lifecycleState := .packaged
    status := "active"
    applicationId := issuing.subject.application.id
    certificateId := some issuing.certificateId
    generation := nextGeneration previous
    createdAt := sources.storedAt
    runtimeInstanceId := issuing.subject.runtimeInstanceId
    requestId := issuing.requestId
    profileName := issuing.subject.profile.profileName
    supersedesPackageId := previous.map PreviousPackage.packageId
    supersedesGeneration := previous.map PreviousPackage.generation
    manifestJson := manifest
    manifestSha256 := manifestSha256 crypto manifest
    signatureBase64 := signer.signCanonicalPayload crypto (canonicalPackageManifest manifest) }

/-- One step of one call. A check that fails and a constraint that is violated leave only
`raise`. -/
def advance (input : IssuanceInput) (tables : IssuanceTables) :
    IssuancePhase → IssuanceAction → Option (IssuanceTables × IssuancePhase)
  | .started, .readApplication => do
      let application ← tables.getApplicationByUri input.applicationUri
      guard (input.runtimeInstanceId = "" ∨ application.runtime = "" ∨
        input.runtimeInstanceId = application.runtime)
      some (tables, .applicationRead application)
  | .applicationRead application, .readProfile => do
      let profile ← tables.getComponentProfile input.profileName
      guard (PythonText.lower profile.status = "active")
      some (tables, .profileRead application profile)
  | .profileRead application profile, .checkDuplicate => do
      let fingerprint ← input.csrFingerprintSha256
      guard (input.allowDuplicateCsr ∨ tables.hasRequestByCsr fingerprint = false)
      some (tables, .duplicateChecked {
        application := application
        profile := profile
        runtimeInstanceId :=
          if input.runtimeInstanceId = "" then application.runtime else input.runtimeInstanceId
        csrFingerprintSha256 := fingerprint })
  | .duplicateChecked subject, .storeRequest requestId validationErrors => do
      let after ← tables.insertCertificateRequest {
        requestId := requestId.text
        applicationId := subject.application.id
        runtimeInstanceId := subject.runtimeInstanceId
        profileName := subject.profile.profileName
        csrFingerprintSha256 := subject.csrFingerprintSha256
        status := if validationErrors = [] then .validated else .rejected }
      some (after, if validationErrors = [] then .validated subject requestId.text
        else .rejected requestId.text)
  | .validated subject requestId, .vaultSigned issuedCert =>
      some (tables, .signed subject requestId issuedCert)
  | .validated _ requestId, .vaultFailed => some (tables, .signingFailed requestId)
  | .signingFailed requestId, .recordFailure =>
      some (tables.updateCertificateRequestStatus requestId .failed, .failureRecorded requestId)
  | .signed subject requestId issuedCert, .insertCertificate now => do
      let stored := tables.getCertificateByFingerprint issuedCert.fingerprintSha256
      let after ← tables.database.insertCertificate
        (newCertificate subject.application.id issuedCert) now
      if stored.isSome then some (tables, .certificateKnown subject requestId issuedCert)
      else some ({ tables with certificates := after.certificates }, .certificateStored {
        subject := subject
        requestId := requestId
        issuedCert := issuedCert
        certificateId := Database.freshId (tables.certificates.map Certificate.id)
        inserted := true })
  | .certificateKnown subject requestId issuedCert, .findCertificate => do
      let stored ← tables.getCertificateByFingerprint issuedCert.fingerprintSha256
      some (tables, .certificateStored {
        subject := subject
        requestId := requestId
        issuedCert := issuedCert
        certificateId := stored.id
        inserted := false })
  | .certificateStored issuing, .recordIssued =>
      some (tables.updateCertificateRequestStatus issuing.requestId .issued,
        .issuedRecorded issuing)
  | .issuedRecorded issuing, .readPrevious =>
      some (tables, .previousRead issuing
        (tables.getLatestPackage issuing.subject.application.id
          issuing.subject.profile.profileName))
  | .previousRead issuing previous, .insertPackage sources => do
      let after ← tables.insertCertificatePackage (issuing.package crypto signer previous sources)
      some (after, .packageStored issuing)
  | .packageStored issuing, .recordPackaged =>
      some (tables.updateCertificateRequestStatus issuing.requestId .packaged,
        .packagedRecorded issuing)
  | .packagedRecorded _, .finish => some (tables, .returned)
  | .returned, .raise => none
  | .raised, .raise => none
  | _, .raise => some (tables, .raised)
  | _, _ => none

/-! ## Runs -/

variable {Call : Type} [DecidableEq Call] (input : Call → IssuanceInput)

/-- Any number of calls on one database. -/
structure IssuanceState (Call : Type) where
  tables : IssuanceTables
  calls : Call → IssuancePhase

inductive IssuanceEvent (Call : Type) where
  | act (call : Call) (action : IssuanceAction)
  | storeLifecycle (packageId : String) (target : LifecycleState)

/-- One event: a step of a call, or the `UPDATE` of a lifecycle report. -/
def issuanceStep (state : IssuanceState Call) : IssuanceEvent Call → Option (IssuanceState Call)
  | .act call action =>
      (advance crypto signer (input call) state.tables (state.calls call) action).map fun result =>
        { tables := result.1, calls := Function.update state.calls call result.2 }
  | .storeLifecycle packageId target =>
      some { state with tables := state.tables.storeLifecycle packageId target }

/-- No call has begun, and no package is stored. -/
def IssuanceState.initial (Call : Type) (applications : List RegisteredApplication)
    (profiles : List ComponentProfile) (requests : List CertificateRequest)
    (certificates : List Certificate) : IssuanceState Call where
  tables := {
    applications := applications
    profiles := profiles
    requests := requests
    certificates := certificates
    packages := [] }
  calls := fun _ => .started

end Calls

/-! ## What one step of a call does -/

namespace IssuanceTables

/-- The package rows as they were inserted. -/
def records (tables : IssuanceTables) : List IssuedPackage :=
  tables.packages.map IssuedPackage.inserted

@[simp] theorem records_updateCertificateRequestStatus (tables : IssuanceTables)
    (requestId : String) (status : RequestStatus) :
    (tables.updateCertificateRequestStatus requestId status).records = tables.records := rfl

/-- Lifecycle updates touch no record. -/
@[simp] theorem records_storeLifecycle (tables : IssuanceTables) (packageId : String)
    (target : LifecycleState) :
    (tables.storeLifecycle packageId target).records = tables.records := by
  rw [records, records, storeLifecycle, List.map_map]
  apply List.map_congr_left
  intro package _
  by_cases named : package.packageId = packageId
  · rw [Function.comp_apply, if_pos named]
    rfl
  · rw [Function.comp_apply, if_neg named]

@[simp] theorem requestStatus?_storeLifecycle (tables : IssuanceTables) (packageId : String)
    (target : LifecycleState) (requestId : String) :
    (tables.storeLifecycle packageId target).requestStatus? requestId =
      tables.requestStatus? requestId := rfl

/-- A request row is added under an identifier that was not in use. -/
theorem insertCertificateRequest_eq_some {tables after : IssuanceTables}
    {request : CertificateRequest}
    (stored : tables.insertCertificateRequest request = some after) :
    tables.requestStatus? request.requestId = none ∧
      after.requestStatus? request.requestId = some request.status ∧
      (∀ other ≠ request.requestId, after.requestStatus? other = tables.requestStatus? other) ∧
      after.records = tables.records := by
  rw [insertCertificateRequest] at stored
  split at stored
  · cases stored
  · rename_i absent
    cases stored
    have fresh : tables.requests.find? (fun row => row.requestId = request.requestId) = none := by
      simpa using absent
    refine ⟨?_, ?_, fun other distinct => ?_, rfl⟩
    · rw [requestStatus?, fresh, Option.map_none]
    · simp [requestStatus?, List.find?_append, fresh]
    · simp [requestStatus?, List.find?_append, Ne.symm distinct]

/-- A status update reaches the named request only. -/
theorem requestStatus?_update (tables : IssuanceTables) (requestId other : String)
    (status : RequestStatus) :
    (tables.updateCertificateRequestStatus requestId status).requestStatus? other =
      if other = requestId then (tables.requestStatus? other).map fun _ => status
      else tables.requestStatus? other := by
  rw [updateCertificateRequestStatus, requestStatus?, requestStatus?]
  induction tables.requests with
  | nil => simp
  | cons request rest ih =>
      by_cases named : request.requestId = requestId
      · by_cases sought : other = requestId
        · subst sought
          simp [named]
        · have apart : request.requestId ≠ other := fun same => sought (same.symm.trans named)
          simp only [List.map_cons, if_pos named, List.find?_cons, decide_eq_false apart]
          exact ih
      · by_cases sought : request.requestId = other
        · subst sought
          simp [named]
        · simp only [List.map_cons, if_neg named, List.find?_cons, decide_eq_false sought]
          exact ih

theorem requestStatus?_update_of_ne (tables : IssuanceTables) {requestId other : String}
    (distinct : other ≠ requestId) (status : RequestStatus) :
    (tables.updateCertificateRequestStatus requestId status).requestStatus? other =
      tables.requestStatus? other := by
  rw [requestStatus?_update, if_neg distinct]

theorem requestStatus?_update_self (tables : IssuanceTables) {requestId : String}
    (stored : (tables.requestStatus? requestId).isSome) (status : RequestStatus) :
    (tables.updateCertificateRequestStatus requestId status).requestStatus? requestId =
      some status := by
  obtain ⟨old, found⟩ := Option.isSome_iff_exists.mp stored
  rw [requestStatus?_update, if_pos rfl, found, Option.map_some]

/-- A package row is added when neither its identifier nor its generation is taken. -/
theorem insertCertificatePackage_eq_some {tables after : IssuanceTables} {package : IssuedPackage}
    (stored : tables.insertCertificatePackage package = some after) :
    after = { tables with packages := tables.packages ++ [package] } ∧
      ∀ row ∈ tables.records, row.applicationId = package.applicationId →
        row.profileName = package.profileName → row.generation ≠ package.generation := by
  rw [insertCertificatePackage] at stored
  split at stored
  · cases stored
  · rename_i free
    cases stored
    refine ⟨rfl, fun row member application profile generation => ?_⟩
    obtain ⟨origin, listed, rfl⟩ := List.mem_map.mp member
    apply free
    right
    rw [List.any_eq_true]
    exact ⟨origin, listed, by simpa using ⟨application, profile, generation⟩⟩

/-- The package that is to be superseded is a stored one of the same lineage. -/
theorem getLatestPackage_eq_some {tables : IssuanceTables} {applicationId : Nat}
    {profileName : String} {previous : PreviousPackage}
    (latest : tables.getLatestPackage applicationId profileName = some previous) :
    ∃ row ∈ tables.records, row.applicationId = applicationId ∧ row.profileName = profileName ∧
      row.packageId = previous.packageId ∧ row.generation = previous.generation := by
  rw [getLatestPackage, Option.map_eq_some_iff] at latest
  obtain ⟨package, found, rfl⟩ := latest
  have member := VersionedTable.latest?_mem found
  rw [List.mem_filter, decide_eq_true_eq] at member
  exact ⟨package.inserted, List.mem_map.mpr ⟨package, member.1, rfl⟩, member.2.1, member.2.2, rfl,
    rfl⟩

/-- What a call with a request of its own leaves alone: the requests of the others and
the packages that are stored. -/
structure Extends (own : Option String) (tables after : IssuanceTables) : Prop where
  status : ∀ requestId, own ≠ some requestId → (tables.requestStatus? requestId).isSome →
    after.requestStatus? requestId = tables.requestStatus? requestId
  records : after.records = tables.records ∨
    ∃ package, own = some package.requestId ∧ after.records = tables.records ++ [package]

theorem Extends.refl (own : Option String) (tables : IssuanceTables) :
    Extends own tables tables where
  status _ _ _ := rfl
  records := Or.inl rfl

theorem Extends.update (tables : IssuanceTables) (requestId : String) (status : RequestStatus) :
    Extends (some requestId) tables (tables.updateCertificateRequestStatus requestId status) where
  status _ other _ :=
    tables.requestStatus?_update_of_ne (fun same => other (congrArg some same.symm)) status
  records := Or.inl rfl

/-- A stored record stays. -/
theorem Extends.mem {own : Option String} {tables after : IssuanceTables}
    (extended : Extends own tables after) {row : IssuedPackage} (member : row ∈ tables.records) :
    row ∈ after.records := by
  rcases extended.records with same | ⟨package, _, added⟩
  · exact same ▸ member
  · rw [added]
    exact List.mem_append_left _ member

/-- A record is an old one or belongs to the call. -/
theorem Extends.mem_or_own {own : Option String} {tables after : IssuanceTables}
    (extended : Extends own tables after) {row : IssuedPackage} (member : row ∈ after.records) :
    row ∈ tables.records ∨ own = some row.requestId := by
  rcases extended.records with same | ⟨package, owned, added⟩
  · exact Or.inl (same ▸ member)
  · rw [added, List.mem_append, List.mem_singleton] at member
    rcases member with old | rfl
    · exact Or.inl old
    · exact Or.inr owned

end IssuanceTables

/-! ## What a call relies on -/

namespace IssuancePhase

/-- The request that a call has stored. -/
def requestId? : IssuancePhase → Option String
  | .rejected requestId | .validated _ requestId | .signingFailed requestId
  | .failureRecorded requestId | .signed _ requestId _ | .certificateKnown _ requestId _ =>
      some requestId
  | .certificateStored issuing | .issuedRecorded issuing | .previousRead issuing _
  | .packageStored issuing | .packagedRecorded issuing => some issuing.requestId
  | _ => none

/-- The package of a call is among the records. -/
def PackageStored (tables : IssuanceTables) (issuing : Issuing) : Prop :=
  ∃ row ∈ tables.records, row.requestId = issuing.requestId ∧
    row.certificateId = some issuing.certificateId

/-- The request of a call is in a status, and no package refers to it. -/
def Pending (tables : IssuanceTables) (requestId : String) (status : RequestStatus) : Prop :=
  tables.requestStatus? requestId = some status ∧ ∀ row ∈ tables.records, row.requestId ≠ requestId

/-- The package that a call is going to supersede is stored in its lineage. -/
def PreviousStored (tables : IssuanceTables) (issuing : Issuing)
    (previous : Option PreviousPackage) : Prop :=
  ∀ package, previous = some package → ∃ row ∈ tables.records,
    row.applicationId = issuing.subject.application.id ∧
      row.profileName = issuing.subject.profile.profileName ∧
      row.packageId = package.packageId ∧ row.generation = package.generation

/-- What the tables hold of a call in a phase. -/
def Holds (tables : IssuanceTables) : IssuancePhase → Prop
  | .rejected requestId => tables.requestStatus? requestId = some .rejected
  | .failureRecorded requestId => tables.requestStatus? requestId = some .failed
  | .validated _ requestId | .signingFailed requestId | .signed _ requestId _
  | .certificateKnown _ requestId _ => Pending tables requestId .validated
  | .certificateStored issuing => Pending tables issuing.requestId .validated
  | .issuedRecorded issuing => Pending tables issuing.requestId .issued
  | .previousRead issuing previous =>
      Pending tables issuing.requestId .issued ∧ PreviousStored tables issuing previous
  | .packageStored issuing | .packagedRecorded issuing =>
      (tables.requestStatus? issuing.requestId).isSome ∧ PackageStored tables issuing
  | _ => True

theorem Pending.isSome {tables : IssuanceTables} {requestId : String} {status : RequestStatus}
    (pending : Pending tables requestId status) : (tables.requestStatus? requestId).isSome := by
  rw [pending.1]
  rfl

/-- The request of a call is stored. -/
theorem Holds.isSome {tables : IssuanceTables} {phase : IssuancePhase} (holds : phase.Holds tables)
    {requestId : String} (own : phase.requestId? = some requestId) :
    (tables.requestStatus? requestId).isSome := by
  cases phase <;> cases own
  case rejected => exact Option.isSome_iff_exists.mpr ⟨_, holds⟩
  case failureRecorded => exact Option.isSome_iff_exists.mpr ⟨_, holds⟩
  case previousRead => exact holds.1.isSome
  case packageStored => exact holds.1
  case packagedRecorded => exact holds.1
  all_goals exact Pending.isSome holds

section Extends

variable {tables after : IssuanceTables} {own : Option String} {requestId : String}
  {issuing : Issuing}

theorem Pending.of_extends {status : RequestStatus} (pending : Pending tables requestId status)
    (extended : tables.Extends own after) (other : own ≠ some requestId) :
    Pending after requestId status := by
  constructor
  · rw [extended.status requestId other pending.isSome, pending.1]
  · intro row member same
    rcases extended.mem_or_own member with old | owned
    · exact pending.2 row old same
    · exact other (same ▸ owned)

theorem PackageStored.of_extends (stored : PackageStored tables issuing)
    (extended : tables.Extends own after) : PackageStored after issuing := by
  obtain ⟨row, member, links⟩ := stored
  exact ⟨row, extended.mem member, links⟩

theorem PreviousStored.of_extends {previous : Option PreviousPackage}
    (stored : PreviousStored tables issuing previous) (extended : tables.Extends own after) :
    PreviousStored after issuing previous := by
  intro package read
  obtain ⟨row, member, links⟩ := stored package read
  exact ⟨row, extended.mem member, links⟩

/-- A step of another call leaves what a call relies on. -/
theorem Holds.of_extends {phase : IssuancePhase} (holds : phase.Holds tables)
    (extended : tables.Extends own after) (other : ∀ r, phase.requestId? = some r → own ≠ some r) :
    phase.Holds after := by
  have status {r : String} (named : phase.requestId? = some r) :
      after.requestStatus? r = tables.requestStatus? r :=
    extended.status r (other r named) (holds.isSome named)
  cases phase with
  | rejected r => exact (status rfl).trans holds
  | failureRecorded r => exact (status rfl).trans holds
  | validated subject r => exact Pending.of_extends holds extended (other r rfl)
  | signingFailed r => exact Pending.of_extends holds extended (other r rfl)
  | signed subject r issuedCert => exact Pending.of_extends holds extended (other r rfl)
  | certificateKnown subject r issuedCert => exact Pending.of_extends holds extended (other r rfl)
  | certificateStored issuing => exact Pending.of_extends holds extended (other _ rfl)
  | issuedRecorded issuing => exact Pending.of_extends holds extended (other _ rfl)
  | previousRead issuing previous =>
      exact ⟨Pending.of_extends holds.1 extended (other _ rfl),
        PreviousStored.of_extends holds.2 extended⟩
  | packageStored issuing =>
      refine ⟨?_, PackageStored.of_extends holds.2 extended⟩
      rw [status rfl]
      exact holds.1
  | packagedRecorded issuing =>
      refine ⟨?_, PackageStored.of_extends holds.2 extended⟩
      rw [status rfl]
      exact holds.1
  | _ => trivial

/-- A status update of the own request. -/
theorem Pending.update {status : RequestStatus} (pending : Pending tables requestId status)
    (next : RequestStatus) :
    Pending (tables.updateCertificateRequestStatus requestId next) requestId next :=
  ⟨tables.requestStatus?_update_self pending.isSome next, pending.2⟩

end Extends

end IssuancePhase

section Advance

variable {PrivateKey PublicKey : Type} {crypto : Crypto PrivateKey PublicKey}
  {signer : TrustArtifactSigner PrivateKey} {input : IssuanceInput}
  {tables after : IssuanceTables} {phase next : IssuancePhase} {action : IssuanceAction}

/-- A package that carries on the lineage of its application and profile. -/
structure Continues (tables : IssuanceTables) (package : IssuedPackage)
    (previous : Option PreviousPackage) : Prop where
  generation : package.generation = nextGeneration previous
  supersedesPackageId : package.supersedesPackageId = previous.map PreviousPackage.packageId
  supersedesGeneration : package.supersedesGeneration = previous.map PreviousPackage.generation
  stored : ∀ superseded, previous = some superseded → ∃ row ∈ tables.records,
    row.applicationId = package.applicationId ∧ row.profileName = package.profileName ∧
      row.packageId = superseded.packageId ∧ row.generation = superseded.generation
  free : ∀ row ∈ tables.records, row.applicationId = package.applicationId →
    row.profileName = package.profileName → row.generation ≠ package.generation

/-- What a step of a call changes, and what the call relies on after it. -/
structure Advanced (tables after : IssuanceTables) (phase next : IssuancePhase) : Prop where
  extended : tables.Extends next.requestId? after
  holds : next.Holds after
  request : ∀ r, next.requestId? = some r →
    phase.requestId? = some r ∨ tables.requestStatus? r = none
  continues : ∀ package, after.records = tables.records ++ [package] →
    ∃ previous, Continues tables package previous

/-- Unchanged records have no new one. -/
theorem continues_of_records_eq (same : after.records = tables.records) (package : IssuedPackage)
    (added : after.records = tables.records ++ [package]) :
    ∃ previous, Continues tables package previous := by
  rw [same, List.self_eq_append_right] at added
  cases added

/-- A step that changes no request and no package. -/
theorem Advanced.quiet (requests : after.requests = tables.requests)
    (packages : after.packages = tables.packages) (holds : next.Holds after)
    (request : next.requestId? = phase.requestId? ∨ next.requestId? = none) :
    Advanced tables after phase next where
  extended := {
    status := fun r _ _ => by rw [IssuanceTables.requestStatus?, requests]; rfl
    records := Or.inl (by rw [IssuanceTables.records, packages]; rfl) }
  holds := holds
  request r named := by
    rcases request with same | none
    · exact Or.inl (same ▸ named)
    · rw [none] at named
      cases named
  continues := continues_of_records_eq (by rw [IssuanceTables.records, packages]; rfl)

/-- The request is stored. -/
theorem Advanced.storeRequest {request : CertificateRequest}
    (references : ∀ row ∈ tables.records, (tables.requestStatus? row.requestId).isSome)
    (stored : tables.insertCertificateRequest request = some after)
    (named : next.requestId? = some request.requestId)
    (holds : after.requestStatus? request.requestId = some request.status →
      (∀ row ∈ after.records, row.requestId ≠ request.requestId) → next.Holds after) :
    Advanced tables after phase next := by
  obtain ⟨absent, present, others, records⟩ :=
    IssuanceTables.insertCertificateRequest_eq_some stored
  have unused : ∀ row ∈ after.records, row.requestId ≠ request.requestId := by
    intro row member same
    have used := references row (records ▸ member)
    rw [same, absent] at used
    cases used
  refine ⟨⟨fun r other _ => ?_, Or.inl records⟩, holds present unused, fun r own => ?_,
    continues_of_records_eq records⟩
  · exact others r fun same => other (same ▸ named)
  · rw [named, Option.some.injEq] at own
    exact Or.inr (own ▸ absent)

/-- The status of the own request is updated. -/
theorem Advanced.update {requestId : String} {status : RequestStatus}
    (own : phase.requestId? = some requestId) (named : next.requestId? = some requestId)
    (holds : next.Holds (tables.updateCertificateRequestStatus requestId status)) :
    Advanced tables (tables.updateCertificateRequestStatus requestId status) phase next where
  extended := named ▸ IssuanceTables.Extends.update tables requestId status
  holds := holds
  request r other := by
    rw [named] at other
    exact Or.inl (own.trans other)
  continues := continues_of_records_eq rfl

/-- The package of a call is stored. -/
theorem Advanced.insertPackage {issuing : Issuing} {previous : Option PreviousPackage}
    {sources : PackageSources} (status : (tables.requestStatus? issuing.requestId).isSome)
    (previousStored : IssuancePhase.PreviousStored tables issuing previous)
    (stored : tables.insertCertificatePackage (issuing.package crypto signer previous sources) =
      some after) :
    Advanced tables after (.previousRead issuing previous) (.packageStored issuing) := by
  obtain ⟨rfl, free⟩ := IssuanceTables.insertCertificatePackage_eq_some stored
  have added : IssuanceTables.records { tables with
      packages := tables.packages ++ [issuing.package crypto signer previous sources] } =
        tables.records ++ [issuing.package crypto signer previous sources] := by
    rw [IssuanceTables.records, List.map_append]
    rfl
  refine ⟨⟨fun _ _ _ => rfl, Or.inr ⟨_, rfl, added⟩⟩, ⟨status, ?_⟩, fun r own => Or.inl own, ?_⟩
  · refine ⟨issuing.package crypto signer previous sources, ?_, rfl, rfl⟩
    rw [added]
    exact List.mem_append_right _ (List.mem_singleton_self _)
  · intro package same
    rw [added, List.append_cancel_left_eq, List.cons.injEq] at same
    obtain ⟨rfl, -⟩ := same
    exact ⟨previous, rfl, rfl, rfl, previousStored, free⟩

/-- Every step of a call, one case for each. -/
theorem advance_eq_some
    (references : ∀ row ∈ tables.records, (tables.requestStatus? row.requestId).isSome)
    (holds : phase.Holds tables)
    (stepped : advance crypto signer input tables phase action = some (after, next)) :
    Advanced tables after phase next := by
  unfold advance at stepped
  split at stepped
  case h_1 =>
    simp only [Option.bind_eq_bind, Option.bind_eq_some_iff] at stepped
    obtain ⟨application, -, -, -, done⟩ := stepped
    cases done
    exact .quiet rfl rfl trivial (Or.inr rfl)
  case h_2 =>
    simp only [Option.bind_eq_bind, Option.bind_eq_some_iff] at stepped
    obtain ⟨profile, -, -, -, done⟩ := stepped
    cases done
    exact .quiet rfl rfl trivial (Or.inr rfl)
  case h_3 =>
    simp only [Option.bind_eq_bind, Option.bind_eq_some_iff] at stepped
    obtain ⟨fingerprint, -, -, -, done⟩ := stepped
    cases done
    exact .quiet rfl rfl trivial (Or.inr rfl)
  case h_4 subject requestId validationErrors =>
    simp only [Option.bind_eq_bind, Option.bind_eq_some_iff] at stepped
    obtain ⟨result, stored, done⟩ := stepped
    cases done
    by_cases valid : validationErrors = []
    · rw [if_pos valid] at stored ⊢
      exact .storeRequest references stored rfl fun status unused => ⟨status, unused⟩
    · rw [if_neg valid] at stored ⊢
      exact .storeRequest references stored rfl fun status _ => status
  case h_5 =>
    cases stepped
    exact .quiet rfl rfl holds (Or.inl rfl)
  case h_6 =>
    cases stepped
    exact .quiet rfl rfl holds (Or.inl rfl)
  case h_7 =>
    cases stepped
    exact .update rfl rfl (IssuancePhase.Pending.update holds .failed).1
  case h_8 =>
    simp only [Option.bind_eq_bind, Option.bind_eq_some_iff] at stepped
    obtain ⟨result, -, done⟩ := stepped
    split at done
    · cases done
      exact .quiet rfl rfl holds (Or.inl rfl)
    · cases done
      exact .quiet rfl rfl holds (Or.inl rfl)
  case h_9 =>
    simp only [Option.bind_eq_bind, Option.bind_eq_some_iff] at stepped
    obtain ⟨stored, -, done⟩ := stepped
    cases done
    exact .quiet rfl rfl holds (Or.inl rfl)
  case h_10 =>
    cases stepped
    exact .update rfl rfl (IssuancePhase.Pending.update holds .issued)
  case h_11 =>
    cases stepped
    refine .quiet rfl rfl ⟨holds, fun package read => ?_⟩ (Or.inl rfl)
    exact IssuanceTables.getLatestPackage_eq_some read
  case h_12 =>
    simp only [Option.bind_eq_bind, Option.bind_eq_some_iff] at stepped
    obtain ⟨result, stored, done⟩ := stepped
    cases done
    exact .insertPackage holds.1.isSome holds.2 stored
  case h_13 =>
    cases stepped
    refine .update rfl rfl ⟨?_, holds.2⟩
    rw [IssuanceTables.requestStatus?_update_self _ holds.1]
    rfl
  case h_14 =>
    cases stepped
    exact .quiet rfl rfl trivial (Or.inr rfl)
  case h_15 => cases stepped
  case h_16 => cases stepped
  case h_17 =>
    cases stepped
    exact .quiet rfl rfl trivial (Or.inr rfl)
  case h_18 => cases stepped

end Advance

end OpcuaGds.Gds
