import OpcuaGds.Foundation.TimestampText
import OpcuaGds.Gds.Issuance
import OpcuaGds.Gds.TrustListStore
import Mathlib.Data.List.Lex
import Mathlib.Data.Prod.Lex

/-! # The active certificate of an application

Trust lists are built from the certificate that a query selects; component status and
renewal are about the one that `resolve_component_active_certificate` selects in Python from
a page of packages. When the two are the same certificate.
-/

namespace OpcuaGds.Gds

/-! ## Listing -/

/-- How the database session sorts texts, and what the driver loads for an instant. -/
structure DatabaseSession where
  collation : String → String → Bool
  loadTimestamp : Int → Timestamp.DateTime × Timestamp.Offset

/-- `str` of a loaded timestamp. -/
def DatabaseSession.timestampText (session : DatabaseSession) (instant : Int) : List Char :=
  let (moment, offset) := session.loadTimestamp instant
  moment.dateText ++ ' ' :: (moment.timeText ++ offset.text)

namespace IssuanceTables

variable (session : DatabaseSession) (tables : IssuanceTables)

/-- `ORDER BY a.application_uri, cp.profile_name, cp.generation DESC`. -/
def listedBefore (left right : IssuedPackage × RegisteredApplication) : Bool :=
  if left.2.applicationUri ≠ right.2.applicationUri then
    session.collation left.2.applicationUri right.2.applicationUri
  else if left.1.profileName ≠ right.1.profileName then
    session.collation left.1.profileName right.1.profileName
  else right.1.generation ≤ left.1.generation

/-- The packages with their applications. -/
def joinedPackages : List (IssuedPackage × RegisteredApplication) :=
  tables.packages.filterMap fun package =>
    (tables.applications.find? fun application => application.id = package.applicationId).map
      (package, ·)

/-- `list_certificate_packages` for a URI and a lifecycle state; an empty URI is no filter. -/
def listCertificatePackages (applicationUri : String) (lifecycleState : LifecycleState)
    (limit : Nat) : List IssuedPackage :=
  (((tables.joinedPackages.filter fun row =>
    (applicationUri = "" ∨ row.2.applicationUri = applicationUri) ∧
      row.1.lifecycleState = lifecycleState).insertionSort
        fun left right => listedBefore session left right).take limit).map Prod.fst

/-- `list_certificates`. -/
def listCertificates : List Certificate :=
  tables.certificates.insertionSort fun left right => left.id ≤ right.id

/-! ## The selection in Python -/

/-- `str(created_at)` and `generation`, compared as a tuple; the greatest comes first. -/
def packageBefore (left right : IssuedPackage) : Bool :=
  toLex (session.timestampText right.createdAt, right.generation) <
    toLex (session.timestampText left.createdAt, left.generation)

/-- `str(created_at)` and `id`, the greatest first. -/
def fallbackBefore (left right : Certificate) : Bool :=
  toLex (session.timestampText right.createdAt, right.id) <
    toLex (session.timestampText left.createdAt, left.id)

def fallbackCandidates (applicationId : Nat) : List Certificate :=
  tables.listCertificates.filter fun certificate =>
    certificate.applicationId = applicationId ∧ Database.Certificate.isActive certificate

/-- `_active_certificate_fallback_for_app`. -/
def activeCertificateFallbackForApp (applicationId : Nat) : Option Certificate :=
  ((tables.fallbackCandidates applicationId).insertionSort
    (VersionedTable.staysBefore (fallbackBefore session))).head?

/-- The certificate of a package, if it is active. -/
def packageCertificate? (package : IssuedPackage) : Option Certificate :=
  ((package.certificateId.filter (· ≠ 0)).bind tables.database.certificate?).filter
    Database.Certificate.isActive

/-- `activated_packages` before the sort. -/
def activatedPage (application : RegisteredApplication) : List IssuedPackage :=
  (tables.listCertificatePackages session application.applicationUri .activated 100).filter
    fun package => PythonText.lower package.status = "active"

/-- `resolve_component_active_certificate`; a sort with `reverse=True` leaves equal keys in
their order. -/
def resolveComponentActiveCertificate (application : RegisteredApplication) :
    Option Certificate :=
  match ((tables.activatedPage session application).insertionSort
      (VersionedTable.staysBefore (packageBefore session))).findSome?
        tables.packageCertificate? with
  | some certificate => some certificate
  | none => tables.activeCertificateFallbackForApp session application.id

/-! ## What is selected -/

/-- The packages of the page that have an active certificate, with it. -/
def pageCandidates (application : RegisteredApplication) : List (IssuedPackage × Certificate) :=
  (tables.activatedPage session application).filterMap fun package =>
    (tables.packageCertificate? package).map (package, ·)

/-- The certificate that is reported: of the candidate of the page that is first by creation
text and generation, and then by its place in the page; without candidates, of the own
certificate that is first by creation text and identifier. -/
inductive Reports (application : RegisteredApplication) : Nat → Prop where
  | page {row : IssuedPackage × Certificate}
      (first : VersionedTable.IsFirst (fun left right => packageBefore session left.1 right.1)
        (tables.pageCandidates session application) row) :
      Reports application row.2.id
  | fallback {certificate : Certificate} (none : tables.pageCandidates session application = [])
      (first : VersionedTable.IsFirst (fallbackBefore session)
        (tables.fallbackCandidates application.id) certificate) :
      Reports application certificate.id

variable {session tables} {application : RegisteredApplication}

theorem packageBefore_isStrictOrder :
    VersionedTable.IsStrictOrder fun left right : IssuedPackage × Certificate =>
      packageBefore session left.1 right.1 :=
  VersionedTable.isStrictOrder_key fun row : IssuedPackage × Certificate =>
    toLex (session.timestampText row.1.createdAt, row.1.generation)

theorem fallbackBefore_isStrictOrder :
    VersionedTable.IsStrictOrder (fallbackBefore session) :=
  VersionedTable.isStrictOrder_key fun certificate : Certificate =>
    toLex (session.timestampText certificate.createdAt, certificate.id)

/-- The sorts and the loop find the first rows. -/
theorem resolveComponentActiveCertificate_eq :
    tables.resolveComponentActiveCertificate session application =
      match VersionedTable.firstBy (fun left right => packageBefore session left.1 right.1)
          (tables.pageCandidates session application) with
      | some row => some row.2
      | none => VersionedTable.firstBy (fallbackBefore session)
          (tables.fallbackCandidates application.id) := by
  have sorted : VersionedTable.IsStrictOrder (packageBefore session) :=
    VersionedTable.isStrictOrder_key fun package : IssuedPackage =>
      toLex (session.timestampText package.createdAt, package.generation)
  have search := VersionedTable.findSome?_insertionSort sorted tables.packageCertificate?
    (tables.activatedPage session application)
  have values : ∀ packages : List IssuedPackage,
      packages.findSome? tables.packageCertificate? =
        (packages.findSome? fun package =>
          (tables.packageCertificate? package).map (package, ·)).map Prod.snd := by
    intro packages
    rw [List.map_findSome?]
    refine congrArg (fun value => packages.findSome? value) (funext fun package => ?_)
    cases found : tables.packageCertificate? package <;> simp [found]
  rw [resolveComponentActiveCertificate, values, search, ← pageCandidates,
    activeCertificateFallbackForApp, VersionedTable.head?_insertionSort]
  cases VersionedTable.firstBy (fun left right => packageBefore session left.1 right.1)
      (tables.pageCandidates session application) with
  | none => rfl
  | some row => rfl

theorem reports_iff {id : Nat} :
    tables.Reports session application id ↔
      (tables.resolveComponentActiveCertificate session application).map Certificate.id =
        some id := by
  rw [resolveComponentActiveCertificate_eq]
  constructor
  · intro reports
    cases reports with
    | page first =>
        rw [(VersionedTable.firstBy_eq_some_iff packageBefore_isStrictOrder).mpr first]
        rfl
    | fallback none first =>
        rw [none, (VersionedTable.firstBy_eq_some_iff fallbackBefore_isStrictOrder).mpr first]
        rfl
  · intro reported
    cases found : VersionedTable.firstBy (fun left right => packageBefore session left.1 right.1)
        (tables.pageCandidates session application) with
    | some row =>
        rw [found] at reported
        cases reported
        exact .page ((VersionedTable.firstBy_eq_some_iff packageBefore_isStrictOrder).mp found)
    | none =>
        rw [found] at reported
        obtain ⟨certificate, first, rfl⟩ := Option.map_eq_some_iff.mp reported
        exact .fallback (VersionedTable.firstBy_eq_none_iff.mp found)
          ((VersionedTable.firstBy_eq_some_iff fallbackBefore_isStrictOrder).mp first)

/-- The own active certificates are the same ones in both selections. -/
theorem fallbackCandidates_eq_nil_iff (applicationId : Nat) :
    tables.fallbackCandidates applicationId = [] ↔
      tables.database.ownActiveCertificates applicationId = [] := by
  have sorted := (List.perm_insertionSort (fun left right : Certificate => left.id ≤ right.id)
    tables.certificates).filter fun certificate =>
      certificate.applicationId = applicationId ∧ Database.Certificate.isActive certificate
  constructor
  · intro none
    exact (sorted.symm.trans (List.Perm.of_eq none)).eq_nil
  · intro none
    exact (sorted.trans (List.Perm.of_eq none)).eq_nil

/-- The certificate that comes first in the order of the query comes first in Python: the
certificate of the activated package created last (then of the last generation, then with
the greatest identifier), or without such a package the own certificate created last (then
valid from the latest moment, then with the greatest identifier). -/
structure OrdersMeet (session : DatabaseSession) (tables : IssuanceTables)
    (application : RegisteredApplication) : Prop where
  activated : ∀ row, VersionedTable.IsFirst Database.activatedBefore
      (tables.database.activatedCertificates application.id) row →
    tables.Reports session application row.2.id
  own : tables.database.activatedCertificates application.id = [] → ∀ certificate,
    VersionedTable.IsFirst Database.ownBefore
        (tables.database.ownActiveCertificates application.id) certificate →
      tables.Reports session application certificate.id
  nothing : tables.database.activatedCertificates application.id = [] →
    tables.database.ownActiveCertificates application.id = [] →
      tables.pageCandidates session application = []

end IssuanceTables

/-! An application with a hundred activated packages of one profile, and one of another
profile that was activated after them: the page of a hundred does not reach it. -/

def utcSession : DatabaseSession where
  collation := fun left right => decide (left.toList ≤ right.toList)
  loadTimestamp := fun instant =>
    ((Timestamp.DateTime.ofMicros? instant).getD exampleMoment, .utc)

def lineageApplication : RegisteredApplication :=
  { exampleApplication with runtimeInstanceId := none }

def lineageCertificate (id : Nat) : Certificate :=
  { exampleCertificate .active none with id := id, createdAt := exampleMoment.micros + id }

def lineagePackage (profileName : String) (generation certificateId : Nat) (second : Int) :
    IssuedPackage where
  packageId := profileName ++ toString generation
  lifecycleState := .activated
  status := "active"
  applicationId := 1
  certificateId := some certificateId
  generation := generation
  createdAt := exampleMoment.micros + second * 1000000
  runtimeInstanceId := "urn:client"
  requestId := "req"
  profileName := profileName
  supersedesPackageId := none
  supersedesGeneration := none
  manifestJson := .null
  manifestSha256 := ""
  signatureBase64 := ""

def longLineage : IssuanceTables where
  applications := [lineageApplication]
  profiles := []
  requests := []
  certificates := [lineageCertificate 1, lineageCertificate 2]
  packages := (List.range 100).map (fun later =>
      lineagePackage "node-opcua-client" (100 - later) 1 (100 - later)) ++
    [lineagePackage "open62541-client" 1 2 101]

end OpcuaGds.Gds
