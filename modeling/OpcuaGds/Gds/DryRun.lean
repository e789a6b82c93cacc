import OpcuaGds.Foundation.Fallible
import OpcuaGds.Gds.CsrValidation
import OpcuaGds.Gds.DuplicateCsr

/-! # Dry runs of an enrollment

`validate_certificate_request_dry_run` beside the validation of `issue_certificate_package`:
the two functions check the signature at different places, and both write the table that the
search for duplicates reads.
-/

namespace OpcuaGds.Gds

/-! ## Compatibility -/

/-- The reasons for which `validate_runtime_compatibility` blocks. -/
def EnrollmentRules.blockingReasons (rules : EnrollmentRules) (adapter : RuntimeAdapter)
    (app : Application) : List String :=
  let componentType := PythonText.strip ((app.componentType.filter (· ≠ "")).getD app.role.name)
  let profileComponent := PythonText.strip rules.componentType
  (if profileComponent ≠ "" ∧ componentType ≠ "" ∧ componentType ≠ profileComponent then
      ["component_type_differs_from_profile"] else []) ++
    (if PythonText.lower rules.certificateFormat ∉ ["pem", "pem+der", "der"] then
      ["unsupported_certificate_format"] else []) ++
    (if adapter.trustStoreLayout = [] then ["missing_trust_store_layout"] else [])

/-- What a dry run reports of `validate_runtime_compatibility`. -/
structure CompatibilityReport where
  status : String
  riskLevel : String
  blockingReasons : List String
  warnings : List String

/-- `validate_runtime_compatibility`. -/
def EnrollmentRules.validateRuntimeCompatibility (rules : EnrollmentRules)
    (adapter : RuntimeAdapter)
    (app : Application) : CompatibilityReport :=
  let blocking := rules.blockingReasons adapter app
  { status := if blocking = [] then "COMPATIBLE" else "INCOMPATIBLE"
    riskLevel := if blocking = [] then "LOW" else "HIGH"
    blockingReasons := blocking
    warnings := [] }

/-! ## Arguments and failures -/

/-- The arguments that both functions check; there is no CSR if its PEM cannot be parsed. -/
structure EnrollmentInput where
  applicationUri : String
  runtimeInstanceId : String
  profileName : String
  csr : Option Csr

/-- The same arguments for a call that issues. -/
def EnrollmentInput.issuance (input : EnrollmentInput) (allowDuplicateCsr : Bool) :
    IssuanceInput where
  applicationUri := input.applicationUri
  runtimeInstanceId := input.runtimeInstanceId
  profileName := input.profileName
  csrFingerprintSha256 := (input.csr.filter fun csr => csr.signatureValid = some true).map
    Csr.fingerprintSha256
  allowDuplicateCsr := allowDuplicateCsr

/-- A `LifecycleError` with its code, or another exception. -/
inductive EnrollmentFailure where
  | lifecycleError (code : String)
  | exception
  deriving DecidableEq, Repr

/-- What both functions know once the CSR is loaded. -/
structure EnrollmentSubject where
  application : RegisteredApplication
  profile : ComponentProfile
  runtimeInstanceId : String
  csr : Csr

section Validation

variable (isPrivate : String → Option Bool) (rules : String → EnrollmentRules)

/-- The checks that both functions begin with. -/
def loadEnrollment (tables : IssuanceTables) (input : EnrollmentInput) :
    Except EnrollmentFailure EnrollmentSubject := do
  let application ← Fallible.orRaise (.lifecycleError "unknown_application")
    (tables.getApplicationByUri input.applicationUri)
  Fallible.check (input.runtimeInstanceId = "" ∨ application.runtime = "" ∨
    input.runtimeInstanceId = application.runtime) (.lifecycleError "runtime_instance_mismatch")
  let profile ← Fallible.orRaise (.lifecycleError "unknown_profile")
    (tables.getComponentProfile input.profileName)
  Fallible.check (PythonText.lower profile.status = "active") (.lifecycleError "unknown_profile")
  let csr ← Fallible.orRaise (.lifecycleError "malformed_csr") input.csr
  return {
    application := application
    profile := profile
    runtimeInstanceId :=
      if input.runtimeInstanceId = "" then application.runtime else input.runtimeInstanceId
    csr := csr }

/-- `adapter.validate_csr` for a loaded enrollment. -/
def EnrollmentSubject.validate? (subject : EnrollmentSubject) :
    Option (List String × CsrIdentity) :=
  validateCsr isPrivate (rules subject.profile.profileName) subject.csr
    subject.application.toApplication

/-- What a call goes on with. -/
def EnrollmentSubject.issuance (subject : EnrollmentSubject) : IssuanceSubject where
  application := subject.application
  profile := subject.profile
  runtimeInstanceId := subject.runtimeInstanceId
  csrFingerprintSha256 := subject.csr.fingerprintSha256

/-- `issue_certificate_package` up to the check on the errors of the adapter. -/
def issueValidation (tables : IssuanceTables) (input : EnrollmentInput)
    (allowDuplicateCsr : Bool) : Except EnrollmentFailure IssuanceSubject := do
  let subject ← loadEnrollment tables input
  let signatureValid ← Fallible.orRaise .exception subject.csr.signatureValid
  Fallible.check (signatureValid = true) (.lifecycleError "invalid_csr_signature")
  Fallible.check (allowDuplicateCsr ∨
    tables.hasRequestByCsr subject.csr.fingerprintSha256 = false) (.lifecycleError "duplicate_csr")
  let (validationErrors, _) ← Fallible.orRaise .exception (subject.validate? isPrivate rules)
  Fallible.check (validationErrors = []) (.lifecycleError "csr_validation_failed")
  return subject.issuance

/-- The answer of a dry run. -/
structure DryRunResult where
  request : CertificateRequest
  errors : List String
  csrIdentity : CsrIdentity
  compatibility : CompatibilityReport
  applicationUri : String
  runtimeInstanceId : String
  profileName : String
  status : RequestStatus

/-- `validate_certificate_request_dry_run`, with the tables after it. -/
def validateCertificateRequestDryRun (tables : IssuanceTables) (requestId : HexId)
    (input : EnrollmentInput) : Except EnrollmentFailure (DryRunResult × IssuanceTables) := do
  let subject ← loadEnrollment tables input
  let (adapterErrors, csrIdentity) ←
    Fallible.orRaise .exception (subject.validate? isPrivate rules)
  let signatureValid ← Fallible.orRaise .exception subject.csr.signatureValid
  let errors := adapterErrors ++ if signatureValid then [] else ["invalid_csr_signature"]
  let request : CertificateRequest := {
    requestId := requestId.text
    applicationId := subject.application.id
    runtimeInstanceId := subject.runtimeInstanceId
    profileName := input.profileName
    csrFingerprintSha256 := subject.csr.fingerprintSha256
    status := if errors = [] then .dryRunValidated else .dryRunRejected }
  let after ← Fallible.orRaise .exception (tables.insertCertificateRequest request)
  return ({
    request := request
    errors := errors
    csrIdentity := csrIdentity
    compatibility := (rules subject.profile.profileName).validateRuntimeCompatibility
      subject.profile.adapter subject.application.toApplication
    applicationUri := input.applicationUri
    runtimeInstanceId := subject.runtimeInstanceId
    profileName := input.profileName
    status := request.status }, after)

/-- The tables after a dry run; one that raises leaves them as they were. -/
def dryRunTables (tables : IssuanceTables) (requestId : HexId) (input : EnrollmentInput) :
    IssuanceTables :=
  match validateCertificateRequestDryRun isPrivate rules tables requestId input with
  | .ok (_, after) => after
  | .error _ => tables

/-- The tables after a number of dry runs. -/
def afterDryRuns (tables : IssuanceTables) (dryRuns : List (HexId × EnrollmentInput)) :
    IssuanceTables :=
  dryRuns.foldl (fun tables run => dryRunTables isPrivate rules tables run.1 run.2) tables

end Validation

/-! ## The two validations -/

theorem IssuanceTables.insertCertificateRequest_of_unused {tables : IssuanceTables}
    {request : CertificateRequest} (unused : tables.requestStatus? request.requestId = none) :
    tables.insertCertificateRequest request =
      some { tables with requests := tables.requests ++ [request] } := by
  have absent : ∀ row ∈ tables.requests, row.requestId ≠ request.requestId := by
    simpa [requestStatus?, List.find?_eq_none] using unused
  have none : tables.requests.any (·.requestId = request.requestId) = false := by
    simpa using absent
  rw [insertCertificateRequest, if_neg (by rw [none]; decide)]

section Validation

variable {isPrivate : String → Option Bool} {rules : String → EnrollmentRules}
  {tables : IssuanceTables} {input : EnrollmentInput}

/-- The errors that both functions raise before they look at the CSR. -/
def openingCodes : List String :=
  ["unknown_application", "runtime_instance_mismatch", "unknown_profile", "malformed_csr"]

/-- What a call has to pass before it is signed. -/
theorem issueValidation_eq_ok {checked : IssuanceSubject} {allowDuplicateCsr : Bool} :
    issueValidation isPrivate rules tables input allowDuplicateCsr = .ok checked ↔
      ∃ subject, loadEnrollment tables input = .ok subject ∧
        subject.csr.signatureValid = some true ∧
        (allowDuplicateCsr = true ∨
          tables.hasRequestByCsr subject.csr.fingerprintSha256 = false) ∧
        (∃ identity, subject.validate? isPrivate rules = some ([], identity)) ∧
        subject.issuance = checked := by
  simp only [issueValidation, Fallible.bind_eq_ok, Fallible.orRaise_eq_ok, Fallible.check_eq_ok,
    Fallible.exists_check]
  constructor
  · rintro ⟨subject, loaded, signatureValid, isValid, rfl, unique, ⟨_, identity⟩, validated, rfl,
      done⟩
    cases done
    exact ⟨subject, loaded, isValid, unique, ⟨identity, validated⟩, rfl⟩
  · rintro ⟨subject, loaded, isValid, unique, ⟨identity, validated⟩, rfl⟩
    exact ⟨subject, loaded, true, isValid, rfl, unique, ([], identity), validated, rfl, rfl⟩

/-- When a dry run under an unused identifier answers that the request is valid. -/
theorem dryRun_validated_iff {requestId : HexId}
    (unused : tables.requestStatus? requestId.text = none) :
    (∃ result after, validateCertificateRequestDryRun isPrivate rules tables requestId input =
        .ok (result, after) ∧ result.status = .dryRunValidated) ↔
      ∃ subject, loadEnrollment tables input = .ok subject ∧
        subject.csr.signatureValid = some true ∧
        ∃ identity, subject.validate? isPrivate rules = some ([], identity) := by
  simp only [validateCertificateRequestDryRun, Fallible.bind_eq_ok, Fallible.orRaise_eq_ok]
  constructor
  · rintro ⟨result, after, ⟨subject, loaded, ⟨errors, identity⟩, validated, signatureValid, isValid,
      stored, inserted, done⟩, status⟩
    cases done
    by_cases clean : errors ++ (if signatureValid then [] else ["invalid_csr_signature"]) = []
    · obtain ⟨rfl, valid⟩ := List.append_eq_nil_iff.mp clean
      cases signatureValid with
      | true => exact ⟨subject, loaded, isValid, identity, validated⟩
      | false => cases valid
    · rw [if_neg clean] at status
      cases status
  · rintro ⟨subject, loaded, isValid, identity, validated⟩
    exact ⟨_, _, ⟨subject, loaded, ([], identity), validated, true, isValid, _,
      IssuanceTables.insertCertificateRequest_of_unused unused, rfl⟩, rfl⟩

/-- Both functions pass on what the opening checks raise, and raise nothing of it later. -/
theorem issueValidation_eq_openingError {code : String} (opening : code ∈ openingCodes)
    {allowDuplicateCsr : Bool} :
    issueValidation isPrivate rules tables input allowDuplicateCsr =
        .error (.lifecycleError code) ↔
      loadEnrollment tables input = .error (.lifecycleError code) := by
  simp only [openingCodes, List.mem_cons, List.not_mem_nil, or_false] at opening
  simp only [issueValidation, Fallible.bind_eq_error, Fallible.orRaise_eq_error,
    Fallible.check_eq_error]
  refine ⟨fun raised => ?_, Or.inl⟩
  rcases raised with loading | ⟨_, _, ⟨_, other⟩ | ⟨_, _, ⟨_, other⟩ | ⟨_, _, ⟨_, other⟩ |
    ⟨_, _, ⟨_, other⟩ | ⟨_, _, ⟨_, other⟩ | ⟨_, _, other⟩⟩⟩⟩⟩⟩
  · exact loading
  all_goals
    cases other
    try simp at opening

theorem dryRun_eq_lifecycleError {code : String} {requestId : HexId} :
    validateCertificateRequestDryRun isPrivate rules tables requestId input =
        .error (.lifecycleError code) ↔
      loadEnrollment tables input = .error (.lifecycleError code) := by
  simp only [validateCertificateRequestDryRun, Fallible.bind_eq_error, Fallible.orRaise_eq_error]
  refine ⟨fun raised => ?_, Or.inl⟩
  rcases raised with loading | ⟨_, _, ⟨_, other⟩ | ⟨_, _, ⟨_, other⟩ | ⟨_, _, ⟨_, other⟩ |
    ⟨_, _, other⟩⟩⟩⟩
  · exact loading
  all_goals cases other

/-- A loaded enrollment has passed the opening checks. -/
theorem loadEnrollment_eq_ok {subject : EnrollmentSubject} :
    loadEnrollment tables input = .ok subject ↔
      ∃ application profile csr,
        tables.getApplicationByUri input.applicationUri = some application ∧
        (input.runtimeInstanceId = "" ∨ application.runtime = "" ∨
          input.runtimeInstanceId = application.runtime) ∧
        tables.getComponentProfile input.profileName = some profile ∧
        PythonText.lower profile.status = "active" ∧ input.csr = some csr ∧
        subject = ⟨application, profile,
          if input.runtimeInstanceId = "" then application.runtime else input.runtimeInstanceId,
          csr⟩ := by
  simp only [loadEnrollment, Fallible.bind_eq_ok, Fallible.orRaise_eq_ok, Fallible.check_eq_ok,
    Fallible.exists_check]
  constructor
  · rintro ⟨application, isApplication, runtime, profile, isProfile, active, csr, isCsr, done⟩
    cases done
    exact ⟨application, profile, csr, isApplication, runtime, isProfile, active, isCsr, rfl⟩
  · rintro ⟨application, profile, csr, isApplication, runtime, isProfile, active, isCsr, rfl⟩
    exact ⟨application, isApplication, runtime, profile, isProfile, active, csr, isCsr, rfl⟩

section Advance

variable {PrivateKey PublicKey : Type} (crypto : Crypto PrivateKey PublicKey)
  (signer : TrustArtifactSigner PrivateKey)

/-- An enrollment that passes its validation is one that comes through the first three steps of
an issuance call, with no errors from the adapter. -/
theorem advances_of_issueValidation {checked : IssuanceSubject} {allowDuplicateCsr : Bool}
    (passed : issueValidation isPrivate rules tables input allowDuplicateCsr = .ok checked) :
    ∃ application profile,
      advance crypto signer (input.issuance allowDuplicateCsr) tables .started .readApplication =
        some (tables, .applicationRead application) ∧
      advance crypto signer (input.issuance allowDuplicateCsr) tables
        (.applicationRead application) .readProfile =
          some (tables, .profileRead application profile) ∧
      advance crypto signer (input.issuance allowDuplicateCsr) tables
        (.profileRead application profile) .checkDuplicate =
          some (tables, .duplicateChecked checked) := by
  obtain ⟨subject, loaded, isValid, unique, -, rfl⟩ := issueValidation_eq_ok.mp passed
  obtain ⟨application, profile, csr, isApplication, runtime, isProfile, active, isCsr, rfl⟩ :=
    loadEnrollment_eq_ok.mp loaded
  have fingerprint : (input.issuance allowDuplicateCsr).csrFingerprintSha256 =
      some csr.fingerprintSha256 := by
    have valid : csr.signatureValid = some true := isValid
    simp [EnrollmentInput.issuance, isCsr, valid]
  refine ⟨application, profile, ?_, ?_, ?_⟩
  · simp only [advance, Option.bind_eq_bind, Option.bind_eq_some_iff]
    exact ⟨application, isApplication, (), (Option.guard_eq_some' ()).mpr runtime, rfl⟩
  · simp only [advance, Option.bind_eq_bind, Option.bind_eq_some_iff]
    exact ⟨profile, isProfile, (), (Option.guard_eq_some' ()).mpr active, rfl⟩
  · simp only [advance, Option.bind_eq_bind, Option.bind_eq_some_iff]
    exact ⟨csr.fingerprintSha256, fingerprint, (), (Option.guard_eq_some' ()).mpr unique, rfl⟩

end Advance

/-! ## Rows of dry runs -/

/-- The statuses that only a dry run stores. -/
def dryRunStatuses : List RequestStatus := [.dryRunValidated, .dryRunRejected]

theorem dryRunStatus_mem (valid : Prop) [Decidable valid] :
    (if valid then RequestStatus.dryRunValidated else .dryRunRejected) ∈ dryRunStatuses := by
  split <;> decide

/-- A dry run adds at most one row, of a status of its own and under its identifier. -/
theorem dryRunTables_requests (isPrivate : String → Option Bool)
    (rules : String → EnrollmentRules) (tables : IssuanceTables) (requestId : HexId)
    (input : EnrollmentInput) :
    ∃ rows : List CertificateRequest,
      dryRunTables isPrivate rules tables requestId input =
        { tables with requests := tables.requests ++ rows } ∧
      ∀ row ∈ rows, row.status ∈ dryRunStatuses ∧ row.requestId = requestId.text ∧
        ∀ old ∈ tables.requests, old.requestId ≠ row.requestId := by
  rw [dryRunTables]
  cases answered : validateCertificateRequestDryRun isPrivate rules tables requestId input with
  | error failure => exact ⟨[], by rw [List.append_nil], nofun⟩
  | ok answer =>
      simp only [validateCertificateRequestDryRun, Fallible.bind_eq_ok, Fallible.orRaise_eq_ok]
        at answered
      obtain ⟨subject, -, ⟨errors, identity⟩, -, signatureValid, -, after, inserted, done⟩ :=
        answered
      cases done
      obtain ⟨rfl, fresh⟩ := IssuanceTables.insertCertificateRequest_requests inserted
      refine ⟨[_], rfl, fun row member => ?_⟩
      rw [List.mem_singleton] at member
      subst member
      exact ⟨dryRunStatus_mem _, rfl, fresh⟩

theorem afterDryRuns_requests (isPrivate : String → Option Bool)
    (rules : String → EnrollmentRules) (dryRuns : List (HexId × EnrollmentInput))
    (tables : IssuanceTables) :
    ∃ rows : List CertificateRequest,
      afterDryRuns isPrivate rules tables dryRuns =
        { tables with requests := tables.requests ++ rows } ∧
      ∀ row ∈ rows, row.status ∈ dryRunStatuses ∧
        (∃ run ∈ dryRuns, row.requestId = run.1.text) ∧
        ∀ old ∈ tables.requests, old.requestId ≠ row.requestId := by
  induction dryRuns generalizing tables with
  | nil => exact ⟨[], by rw [List.append_nil]; rfl, nofun⟩
  | cons run dryRuns ih =>
      obtain ⟨first, isFirst, ofFirst⟩ :=
        dryRunTables_requests isPrivate rules tables run.1 run.2
      obtain ⟨later, isLater, ofLater⟩ := ih (dryRunTables isPrivate rules tables run.1 run.2)
      refine ⟨first ++ later, ?_, fun row member => ?_⟩
      · rw [afterDryRuns, List.foldl_cons, ← afterDryRuns, isLater, isFirst, List.append_assoc]
      · rcases List.mem_append.mp member with early | late
        · obtain ⟨status, named, fresh⟩ := ofFirst row early
          exact ⟨status, ⟨run, List.mem_cons_self, named⟩, fresh⟩
        · obtain ⟨status, ⟨other, among, named⟩, fresh⟩ := ofLater row late
          refine ⟨status, ⟨other, List.mem_cons_of_mem _ among, named⟩, fun old listed => ?_⟩
          rw [isFirst] at fresh
          exact fresh old (List.mem_append_left _ listed)

end Validation

/-! ## Enrollments beside rows that they do not name -/

namespace IssuanceTables

variable {tables : IssuanceTables} {ids : List String}

/-- The tables without the requests of some identifiers. -/
def without (tables : IssuanceTables) (ids : List String) : IssuanceTables :=
  { tables with requests := tables.requests.filter fun request => request.requestId ∉ ids }

theorem without_append {rows : List CertificateRequest}
    (apart : ∀ old ∈ tables.requests, old.requestId ∉ rows.map CertificateRequest.requestId) :
    IssuanceTables.without { tables with requests := tables.requests ++ rows }
      (rows.map CertificateRequest.requestId) = tables := by
  have added : rows.filter (fun row =>
      row.requestId ∉ rows.map CertificateRequest.requestId) = [] := by
    rw [List.filter_eq_nil_iff]
    intro row member
    simpa using ⟨row, member, rfl⟩
  have kept : tables.requests.filter (fun row =>
      row.requestId ∉ rows.map CertificateRequest.requestId) = tables.requests := by
    rw [List.filter_eq_self]
    intro old listed
    exact decide_eq_true (apart old listed)
  rw [without, List.filter_append, added, kept, List.append_nil]

/-- Settled requests are not found as duplicates. -/
theorem hasRequestByCsr_without
    (settled : ∀ row ∈ tables.requests, row.requestId ∈ ids → row.status ∈ settledStatuses)
    (csrFingerprintSha256 : String) :
    (tables.without ids).hasRequestByCsr csrFingerprintSha256 =
      tables.hasRequestByCsr csrFingerprintSha256 := by
  rw [hasRequestByCsr, hasRequestByCsr, without, List.any_filter, Bool.eq_iff_iff]
  simp only [List.any_eq_true, Bool.and_eq_true, decide_eq_true_eq]
  constructor
  · rintro ⟨row, member, -, found⟩
    exact ⟨row, member, found⟩
  · rintro ⟨row, member, found⟩
    exact ⟨row, member, fun named => found.2 (settled row member named), found⟩

theorem insertCertificateRequest_without {request : CertificateRequest}
    (other : request.requestId ∉ ids) :
    (tables.insertCertificateRequest request).map (·.without ids) =
      (tables.without ids).insertCertificateRequest request := by
  have same : (tables.without ids).requests.any (·.requestId = request.requestId) =
      tables.requests.any (·.requestId = request.requestId) := by
    rw [without, List.any_filter, Bool.eq_iff_iff]
    simp only [List.any_eq_true, Bool.and_eq_true, decide_eq_true_eq]
    constructor
    · rintro ⟨row, member, -, named⟩
      exact ⟨row, member, named⟩
    · rintro ⟨row, member, named⟩
      exact ⟨row, member, named ▸ other, named⟩
  rw [insertCertificateRequest, insertCertificateRequest, same]
  split
  · rfl
  · simp [without, List.filter_append, other]

theorem update_without (requestId : String) (status : RequestStatus) :
    (tables.updateCertificateRequestStatus requestId status).without ids =
      (tables.without ids).updateCertificateRequestStatus requestId status := by
  have kept : ((fun request : CertificateRequest => decide (request.requestId ∉ ids)) ∘
      fun request : CertificateRequest =>
        if request.requestId = requestId then { request with status := status } else request) =
      fun request => decide (request.requestId ∉ ids) := by
    funext request
    rw [Function.comp_apply]
    split <;> rfl
  simp only [without, updateCertificateRequestStatus, List.filter_map, kept]

theorem insertCertificatePackage_without (package : IssuedPackage) :
    (tables.insertCertificatePackage package).map (·.without ids) =
      (tables.without ids).insertCertificatePackage package := by
  have same : (tables.without ids).packages = tables.packages := rfl
  rw [insertCertificatePackage, insertCertificatePackage, same]
  split <;> rfl

end IssuanceTables

section Runs

variable {PrivateKey PublicKey : Type} {crypto : Crypto PrivateKey PublicKey}
  {signer : TrustArtifactSigner PrivateKey} {ids : List String}

/-- The action stores no request of the identifiers. -/
def IssuanceAction.Avoids (ids : List String) : IssuanceAction → Prop
  | .storeRequest requestId _ => requestId.text ∉ ids
  | _ => True

/-- A step of a call goes the same way without settled requests that are not its own. -/
theorem advance_without {input : IssuanceInput} {tables : IssuanceTables}
    {phase : IssuancePhase} {action : IssuanceAction} (avoids : action.Avoids ids)
    (settled : ∀ row ∈ tables.requests, row.requestId ∈ ids →
      row.status ∈ IssuanceTables.settledStatuses) :
    (advance crypto signer input tables phase action).map (Prod.map (·.without ids) id) =
      advance crypto signer input (tables.without ids) phase action := by
  unfold advance
  split
  case h_1 | h_2 | h_9 =>
    simp only [Option.bind_eq_bind, Option.map_bind, Function.comp_def, Option.map_some, Prod.map,
      id]
    rfl
  case h_3 =>
    simp only [Option.bind_eq_bind, Option.map_bind, Function.comp_def, Option.map_some, Prod.map,
      id, IssuanceTables.hasRequestByCsr_without settled]
  case h_4 subject requestId validationErrors =>
    have other : requestId.text ∉ ids := avoids
    simp only [Option.bind_eq_bind, Option.map_bind, Function.comp_def, Option.map_some, Prod.map,
      id]
    rw [← IssuanceTables.insertCertificateRequest_without other, Option.bind_map]
    rfl
  case h_7 | h_10 | h_13 => simp only [Option.map_some, Prod.map, id, IssuanceTables.update_without]
  case h_8 =>
    simp only [Option.bind_eq_bind, Option.map_bind, Function.comp_def, apply_ite (Option.map _),
      Option.map_some, Prod.map, id]
    rfl
  case h_12 =>
    simp only [Option.bind_eq_bind, Option.map_bind, Function.comp_def, Option.map_some, Prod.map,
      id]
    rw [← IssuanceTables.insertCertificatePackage_without, Option.bind_map]
    rfl
  all_goals rfl

variable {Call : Type} [DecidableEq Call] {input : Call → IssuanceInput}
  {state next : IssuanceState Call}

/-- The event stores no request of the identifiers. -/
def IssuanceEvent.Avoids (ids : List String) : IssuanceEvent Call → Prop
  | .act _ action => action.Avoids ids
  | .storeLifecycle _ _ => True

omit [DecidableEq Call] in
theorem IssuanceEvent.Avoids.mono {event : IssuanceEvent Call} {fewer : List String}
    (avoids : event.Avoids ids) (within : ∀ identifier ∈ fewer, identifier ∈ ids) :
    event.Avoids fewer := by
  cases event with
  | storeLifecycle packageId target => trivial
  | act call action =>
      cases action with
      | storeRequest requestId validationErrors =>
          exact fun inFewer => avoids (within requestId.text inFewer)
      | _ => trivial

/-- The requests of the identifiers are those of dry runs, and no call works on one. -/
structure DryRunsApart (ids : List String) (state : IssuanceState Call) : Prop where
  settled : ∀ row ∈ state.tables.requests, row.requestId ∈ ids → row.status ∈ dryRunStatuses
  owned : ∀ call r, (state.calls call).openRequestId? = some r → r ∉ ids

/-- The state without the requests of some identifiers. -/
def IssuanceState.without (ids : List String) (state : IssuanceState Call) :
    IssuanceState Call :=
  { state with tables := state.tables.without ids }

theorem settled_of_dryRun {status : RequestStatus} (ofDryRun : status ∈ dryRunStatuses) :
    status ∈ IssuanceTables.settledStatuses := by
  revert status
  decide

theorem DryRunsApart.step (apart : DryRunsApart ids state) {event : IssuanceEvent Call}
    (avoids : event.Avoids ids)
    (stepped : issuanceStep crypto signer input state event = some next) :
    DryRunsApart ids next := by
  cases event with
  | storeLifecycle packageId target =>
      cases stepped
      exact ⟨apart.settled, apart.owned⟩
  | act call action =>
      rw [issuanceStep, Option.map_eq_some_iff] at stepped
      obtain ⟨⟨after, phase⟩, taken, rfl⟩ := stepped
      have change := requestsChange_of_advance taken
      have mine : ∀ r, phase.openRequestId? = some r → r ∉ ids := by
        intro r owned
        cases change with
        | kept _ _ isOwned => exact apart.owned call r (isOwned r owned)
        | stored subject requestId errors request _ inserts named _ _ _ isOwned =>
            subst inserts
            rw [(isOwned r owned).2, named]
            exact avoids
        | updated requestId status _ own isOwned =>
            rw [(isOwned r owned).1]
            exact apart.owned call requestId own
      constructor
      · intro row member inIds
        cases change with
        | kept same _ _ => exact apart.settled row (same ▸ member) inIds
        | stored subject requestId errors request _ inserts named inserted _ _ _ =>
            subst inserts
            obtain ⟨rfl, -⟩ := IssuanceTables.insertCertificateRequest_requests inserted
            rcases List.mem_append.mp member with old | new
            · exact apart.settled row old inIds
            · rw [List.mem_singleton.mp new, named] at inIds
              exact absurd inIds avoids
        | updated requestId status same own _ =>
            subst same
            obtain ⟨old, listed, rfl⟩ := List.mem_map.mp member
            by_cases updates : old.requestId = requestId
            · rw [if_pos updates] at inIds
              exact absurd (updates ▸ inIds) (apart.owned call requestId own)
            · rw [if_neg updates] at inIds ⊢
              exact apart.settled old listed inIds
      · intro other r owned
        dsimp only at owned
        by_cases own : other = call
        · rw [own, Function.update_self] at owned
          exact mine r owned
        · rw [Function.update_of_ne own] at owned
          exact apart.owned other r owned

theorem issuanceStep_without (apart : DryRunsApart ids state) {event : IssuanceEvent Call}
    (avoids : event.Avoids ids) :
    (issuanceStep crypto signer input state event).map (·.without ids) =
      issuanceStep crypto signer input (state.without ids) event := by
  cases event with
  | storeLifecycle packageId target => rfl
  | act call action =>
      have settled : ∀ row ∈ state.tables.requests, row.requestId ∈ ids →
          row.status ∈ IssuanceTables.settledStatuses :=
        fun row member inIds => settled_of_dryRun (apart.settled row member inIds)
      rw [issuanceStep, issuanceStep, IssuanceState.without, ← advance_without avoids settled,
        Option.map_map, Option.map_map]
      rfl

/-- What an enrollment comes to: how far the calls have come, and the tables apart from the rows
of dry runs. -/
def IssuanceState.outcome (state : IssuanceState Call) :
    (Call → IssuancePhase) × List Certificate × List IssuedPackage × List CertificateRequest :=
  (state.calls, state.tables.certificates, state.tables.packages,
    state.tables.requests.filter fun request => request.status ∉ dryRunStatuses)

omit [DecidableEq Call] in
theorem outcome_without
    (settled : ∀ row ∈ state.tables.requests, row.requestId ∈ ids → row.status ∈ dryRunStatuses) :
    (state.without ids).outcome = state.outcome := by
  have same : (state.tables.without ids).requests.filter
      (fun request => request.status ∉ dryRunStatuses) =
        state.tables.requests.filter fun request => request.status ∉ dryRunStatuses := by
    rw [IssuanceTables.without, List.filter_filter]
    apply List.filter_congr
    intro row member
    rw [Bool.eq_iff_iff]
    simp only [Bool.and_eq_true, decide_eq_true_eq]
    exact ⟨fun both => both.1, fun live => ⟨live, fun inIds => live (settled row member inIds)⟩⟩
  simp only [IssuanceState.outcome, IssuanceState.without, same]
  rfl

/-- Calls that have not begun. -/
def IssuanceState.fresh (Call : Type) (tables : IssuanceTables) : IssuanceState Call where
  tables := tables
  calls := fun _ => .started

variable {isPrivate : String → Option Bool} {rules : String → EnrollmentRules}

variable (crypto signer input isPrivate rules) in
/-- Dry runs before any number of enrollments change nothing of what these come to. -/
theorem outcome_afterDryRuns (tables : IssuanceTables)
    (dryRuns : List (HexId × EnrollmentInput)) (events : List (IssuanceEvent Call))
    (avoids : ∀ event ∈ events, event.Avoids (dryRuns.map fun run => run.1.text)) :
    (Transition.run (issuanceStep crypto signer input)
        (.fresh Call (afterDryRuns isPrivate rules tables dryRuns)) events).map
          IssuanceState.outcome =
      (Transition.run (issuanceStep crypto signer input) (.fresh Call tables) events).map
        IssuanceState.outcome := by
  obtain ⟨rows, isAfter, ofRows⟩ :=
    afterDryRuns_requests isPrivate rules dryRuns tables
  have apart : DryRunsApart (rows.map CertificateRequest.requestId)
      (.fresh Call (afterDryRuns isPrivate rules tables dryRuns)) := by
    refine ⟨fun row member named => ?_, nofun⟩
    rw [IssuanceState.fresh, isAfter] at member
    obtain ⟨ofDryRun, listed, same⟩ := List.mem_map.mp named
    rcases List.mem_append.mp member with old | new
    · exact absurd same.symm ((ofRows ofDryRun listed).2.2 row old)
    · exact (ofRows row new).1
  have avoidsRows : ∀ event ∈ events, event.Avoids (rows.map CertificateRequest.requestId) := by
    intro event member
    refine (avoids event member).mono fun named inRows => ?_
    obtain ⟨row, listed, rfl⟩ := List.mem_map.mp inRows
    obtain ⟨run, among, same⟩ := (ofRows row listed).2.1
    exact List.mem_map.mpr ⟨run, among, same.symm⟩
  have before : (IssuanceState.fresh Call (afterDryRuns isPrivate rules tables dryRuns)).without
      (rows.map CertificateRequest.requestId) = .fresh Call tables := by
    rw [IssuanceState.without, IssuanceState.fresh, IssuanceState.fresh, isAfter,
      IssuanceTables.without_append fun old listed inRows => ?_]
    obtain ⟨row, isRow, same⟩ := List.mem_map.mp inRows
    exact (ofRows row isRow).2.2 old listed same.symm
  have projected : (Transition.run (issuanceStep crypto signer input)
      (.fresh Call (afterDryRuns isPrivate rules tables dryRuns)) events).map
        (IssuanceState.without (rows.map CertificateRequest.requestId)) =
      Transition.run (issuanceStep crypto signer input) (.fresh Call tables) events := by
    rw [← before]
    exact Transition.run_map_of_commutes _ (DryRunsApart _) (IssuanceEvent.Avoids _)
      (fun _ _ _ kept avoided stepped => kept.step avoided stepped)
      (fun _ _ kept avoided => issuanceStep_without kept avoided) apart avoidsRows
  rw [← projected, Option.map_map]
  apply Option.map_congr
  intro final reached
  have kept : DryRunsApart (rows.map CertificateRequest.requestId) final :=
    Transition.run_invariant_of_good
      (fun _ _ _ kept avoided stepped => kept.step avoided stepped) apart avoidsRows reached
  exact (outcome_without kept.settled).symm

variable (crypto signer input isPrivate rules) in
/-- A dry run answers that a request is valid exactly when an enrollment in the same state passes
its validation, apart from the search for duplicates; it raises the errors of the opening checks
where the enrollment does; and dry runs made before enrollments change nothing of what these
come to. -/
theorem dry_run_predicts (tables : IssuanceTables) (request : EnrollmentInput)
    (requestId : HexId) (unused : tables.requestStatus? requestId.text = none)
    (dryRuns : List (HexId × EnrollmentInput)) (events : List (IssuanceEvent Call))
    (avoids : ∀ event ∈ events, event.Avoids (dryRuns.map fun run => run.1.text)) :
    (∀ allowDuplicateCsr,
      (∃ checked, issueValidation isPrivate rules tables request allowDuplicateCsr = .ok checked) ↔
        (∃ result after, validateCertificateRequestDryRun isPrivate rules tables requestId request =
          .ok (result, after) ∧ result.status = .dryRunValidated) ∧
        (allowDuplicateCsr = true ∨ ∀ csr, request.csr = some csr →
          tables.hasRequestByCsr csr.fingerprintSha256 = false)) ∧
    (∀ code ∈ openingCodes, ∀ allowDuplicateCsr,
      validateCertificateRequestDryRun isPrivate rules tables requestId request =
          .error (.lifecycleError code) ↔
        issueValidation isPrivate rules tables request allowDuplicateCsr =
          .error (.lifecycleError code)) ∧
    (Transition.run (issuanceStep crypto signer input)
        (.fresh Call (afterDryRuns isPrivate rules tables dryRuns)) events).map
          IssuanceState.outcome =
      (Transition.run (issuanceStep crypto signer input) (.fresh Call tables) events).map
        IssuanceState.outcome := by
  refine ⟨fun allowDuplicateCsr => ?_, fun code opening allowDuplicateCsr => ?_,
    outcome_afterDryRuns crypto signer input isPrivate rules tables dryRuns events avoids⟩
  · rw [dryRun_validated_iff unused]
    constructor
    · rintro ⟨checked, passed⟩
      obtain ⟨subject, loaded, isValid, unique, ⟨identity, validated⟩, -⟩ :=
        issueValidation_eq_ok.mp passed
      refine ⟨⟨subject, loaded, isValid, identity, validated⟩,
        unique.imp_right fun none csr isCsr => ?_⟩
      obtain ⟨_, _, loadedCsr, _, _, _, _, isLoaded, rfl⟩ := loadEnrollment_eq_ok.mp loaded
      cases isLoaded.symm.trans isCsr
      exact none
    · rintro ⟨⟨subject, loaded, isValid, identity, validated⟩, unique⟩
      refine ⟨subject.issuance, issueValidation_eq_ok.mpr ⟨subject, loaded, isValid,
        unique.imp_right fun none => ?_, ⟨identity, validated⟩, rfl⟩⟩
      obtain ⟨_, _, loadedCsr, _, _, _, _, isLoaded, rfl⟩ := loadEnrollment_eq_ok.mp loaded
      exact none loadedCsr isLoaded
  · rw [dryRun_eq_lifecycleError, issueValidation_eq_openingError opening]

end Runs

/-! ## A dry run before two enrollments -/

def dryRunInput : EnrollmentInput where
  applicationUri := "urn:client"
  runtimeInstanceId := ""
  profileName := "open62541-client"
  csr := some twoUriCsr

/-- The identifiers of the two enrollments are not the one of the dry run. -/
theorem sameCsrEvents_avoid (event : IssuanceEvent Bool) (member : event ∈ sameCsrEvents) :
    event.Avoids [(raceId 'd' (by decide)).text] := by
  simp only [sameCsrEvents, List.mem_cons, List.not_mem_nil, or_false] at member
  rcases member with rfl | rfl | rfl | rfl | rfl | rfl | rfl | rfl | rfl | rfl | rfl | rfl
  case inr.inr.inr.inr.inr.inr.inl =>
    change (raceId 'a' hexDigit_a).text ∉ [(raceId 'd' (by decide)).text]
    decide
  case inr.inr.inr.inr.inr.inr.inr.inl =>
    change (raceId 'b' hexDigit_b).text ∉ [(raceId 'd' (by decide)).text]
    decide
  all_goals trivial

/-- Both enrollments come to the same with and without it. -/
theorem dry_run_predicts_same_csr :
    (Transition.run (issuanceStep digestCrypto raceSigner sameCsrInput)
        (.fresh Bool (afterDryRuns (fun _ => some false) (fun _ => clientRules) raceInitial.tables
          [(raceId 'd' (by decide), dryRunInput)])) sameCsrEvents).map IssuanceState.outcome =
      (Transition.run (issuanceStep digestCrypto raceSigner sameCsrInput)
        (.fresh Bool raceInitial.tables) sameCsrEvents).map IssuanceState.outcome :=
  (dry_run_predicts digestCrypto raceSigner sameCsrInput (fun _ => some false)
    (fun _ => clientRules) raceInitial.tables dryRunInput (raceId 'd' (by decide)) rfl
    [(raceId 'd' (by decide), dryRunInput)] sameCsrEvents sameCsrEvents_avoid).2.2

end OpcuaGds.Gds
