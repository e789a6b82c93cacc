import OpcuaGds.Foundation.JsonPython
import OpcuaGds.Foundation.Timestamp
import OpcuaGds.Foundation.VersionedTable
import OpcuaGds.Gds.PackageLifecycle
import Mathlib.Data.List.Dedup
import Mathlib.Data.List.Sort

/-! # The tables of the GDS

The rows of the tables that trust lists, signed artifacts and revocation work on.
Rows are only added or updated; the program deletes none.
-/

namespace OpcuaGds.Gds

/-- `ALLOWED_ZONES`. -/
inductive Zone where
  | ot
  | dmz
  | it
  deriving DecidableEq, Repr

/-- `ALLOWED_ROLES`. -/
inductive Role where
  | server
  | southboundClient
  | northboundServer
  | scadaClient
  | client
  deriving DecidableEq, Repr

def Zone.name : Zone → String
  | .ot => "OT"
  | .dmz => "DMZ"
  | .it => "IT"

def Role.name : Role → String
  | .server => "server"
  | .southboundClient => "southbound-client"
  | .northboundServer => "northbound-server"
  | .scadaClient => "scada-client"
  | .client => "client"

inductive CertificateStatus where
  | active
  | revoked
  | expired
  deriving DecidableEq, Repr

/-- A row of `applications`. -/
structure Application where
  id : Nat
  applicationUri : String
  commonName : String
  zone : Zone
  role : Role
  componentType : Option String
  status : String
  deriving DecidableEq, Repr

/-- A row of `certificates`; times are instants. -/
structure Certificate where
  id : Nat
  applicationId : Nat
  fingerprintSha256 : String
  serialNumber : Option String
  notBefore : Option Int
  notAfter : Option Int
  pem : String
  status : CertificateStatus
  createdAt : Int
  revokedAt : Option Int
  deriving DecidableEq, Repr

/-- A row of `certificate_packages`. -/
structure CertificatePackage extends PackageRow where
  applicationId : Nat
  certificateId : Option Nat
  generation : Nat
  createdAt : Int
  deriving DecidableEq, Repr

/-- A row of `trust_lists` with the certificates of its `trust_list_members`. -/
structure TrustList where
  id : Nat
  zone : Zone
  role : Role
  version : Nat
  members : List Nat
  publishedAt : Int
  deriving DecidableEq, Repr

/-- A row of `trust_artifacts`. -/
structure TrustArtifact where
  id : Nat
  zone : Zone
  role : Role
  trustlistVersion : Nat
  artifactRevision : Nat
  artifactJson : Json
  artifactSha256 : String
  signatureBase64 : String
  signerKeyId : String
  signerFingerprintSha256 : String
  generatedAt : Timestamp.DateTime
  expiresAt : Timestamp.DateTime
  reason : String

/-- The tables. -/
structure Database where
  applications : List Application
  certificates : List Certificate
  packages : List CertificatePackage
  packageEvents : List PackageEvent
  trustLists : List TrustList
  trustArtifacts : List TrustArtifact

namespace Database

/-- The value that a sequence gives next: above every identifier in use. -/
def freshId (ids : List Nat) : Nat := VersionedTable.maxVersion (fun id => id) ids + 1

theorem freshId_notMem (ids : List Nat) : freshId ids ∉ ids := fun used =>
  absurd (VersionedTable.le_maxVersion (fun id => id) used) (Nat.not_succ_le_self _)

/-- `get_certificate`. -/
def certificate? (db : Database) (id : Nat) : Option Certificate :=
  db.certificates.find? fun certificate => certificate.id = id

def application? (db : Database) (id : Nat) : Option Application :=
  db.applications.find? fun application => application.id = id

/-- Identifiers are primary keys, and references point at rows. -/
structure WellFormed (db : Database) : Prop where
  certificateIds : (db.certificates.map Certificate.id).Nodup
  applicationIds : (db.applications.map Application.id).Nodup
  certificateOwner : ∀ certificate ∈ db.certificates,
    ∃ application ∈ db.applications, application.id = certificate.applicationId
  packageCertificate : ∀ package ∈ db.packages, ∀ id ∈ package.certificateId,
    ∃ certificate ∈ db.certificates, certificate.id = id
  trustListMember : ∀ trustList ∈ db.trustLists, ∀ id ∈ trustList.members,
    ∃ certificate ∈ db.certificates, certificate.id = id

instance (db : Database) : Decidable db.WellFormed :=
  decidable_of_iff
    ((db.certificates.map Certificate.id).Nodup ∧ (db.applications.map Application.id).Nodup ∧
      (∀ certificate ∈ db.certificates,
        ∃ application ∈ db.applications, application.id = certificate.applicationId) ∧
      (∀ package ∈ db.packages, ∀ id ∈ package.certificateId.toList,
        ∃ certificate ∈ db.certificates, certificate.id = id) ∧
      ∀ trustList ∈ db.trustLists, ∀ id ∈ trustList.members,
        ∃ certificate ∈ db.certificates, certificate.id = id)
    ⟨fun ⟨certificateIds, applicationIds, owner, package, member⟩ =>
        ⟨certificateIds, applicationIds, owner,
          fun row stored id has => package row stored id (Option.mem_toList.mpr has), member⟩,
      fun wellFormed => ⟨wellFormed.certificateIds, wellFormed.applicationIds,
        wellFormed.certificateOwner,
        fun row stored id has => wellFormed.packageCertificate row stored id
          (Option.mem_toList.mp has), wellFormed.trustListMember⟩⟩

theorem certificate?_eq_some_iff {db : Database} (wellFormed : db.WellFormed) {id : Nat}
    {certificate : Certificate} :
    db.certificate? id = some certificate ↔
      certificate ∈ db.certificates ∧ certificate.id = id := by
  constructor
  · intro found
    exact ⟨List.mem_of_find?_eq_some found, by simpa using List.find?_some found⟩
  · rintro ⟨member, rfl⟩
    cases found : db.certificate? certificate.id with
    | none =>
        have absent := List.find?_eq_none.mp found certificate member
        simp at absent
    | some other =>
        have otherMember := List.mem_of_find?_eq_some found
        have otherId : other.id = certificate.id := by simpa using List.find?_some found
        rw [List.inj_on_of_nodup_map wellFormed.certificateIds otherMember member otherId]

theorem application?_isSome {db : Database} {id : Nat}
    (used : ∃ application ∈ db.applications, application.id = id) :
    ∃ application, db.application? id = some application := by
  obtain ⟨application, member, rfl⟩ := used
  cases found : db.application? application.id with
  | none =>
      have absent := List.find?_eq_none.mp found application member
      simp at absent
  | some other => exact ⟨other, rfl⟩

end Database

end OpcuaGds.Gds
