import OpcuaGds.Agent.Quarantine
import OpcuaGds.Agent.RevocationReport
import OpcuaGds.Agent.StageMaterial

/-! # Rollback preflight

The check of a rollback snapshot against its manifest, and the decision on a rollback that takes
the certificate of the snapshot, the inventory of the GDS and the revocation list into account.
-/

namespace OpcuaGds.Agent

/-! ## The manifest and the directory -/

/-- `rollback-manifest.json`. -/
def RollbackManifest.document (manifest : RollbackManifest) (target planId createdAt
    snapshotDir : String) : Json :=
  .obj [
    ("target", .str target),
    ("plan_id", .str planId),
    ("created_at", .str createdAt),
    ("snapshot_dir", .str snapshotDir),
    ("private_key_material_copied", .bool false),
    ("copied_files", .arr (manifest.copiedFiles.map fun file =>
      .obj [("relative_path", .str file.1), ("sha256", .str file.2)])),
    ("skipped_files", .arr (manifest.skippedFiles.map fun path =>
      .obj [("relative_path", .str path), ("reason", .str "private_key_not_copied")]))]

/-- What one listed file comes to. -/
inductive ListedFile where
  | invalid
  | missing (relativePath : String)
  | mismatch (relativePath expected actual : String)
  | intact
  deriving DecidableEq, Repr

structure ManifestIntegrity where
  integrityOk : Bool
  checkedFilesCount : Nat
  missingFiles : List String
  sha256Mismatches : List (String × String × String)
  invalidEntriesCount : Nat
  deriving DecidableEq, Repr

section Integrity

variable (sha256Hex : List UInt8 → String) (manifest : Json) (snapshot : FileTree)

/-- `str(item.get("relative_path", "")).strip()`. -/
def listedName (item : Json) : String := PythonText.strip (textOf item "relative_path")

/-- The body of the loop of `_rollback_manifest_integrity`. -/
def checkListedFile (item : Json) : ListedFile :=
  if item.isObject = false then .invalid
  else if listedName item = "" ∨ (loweredText item "sha256").length ≠ 64 then .invalid
  else
    match resolveInside (listedName item) with
    | none => .invalid
    | some path =>
        match fileAt (listedName item) path snapshot with
        | none => .missing (listedName item)
        | some content =>
            if sha256Hex content ≠ loweredText item "sha256" then
              .mismatch (listedName item) (loweredText item "sha256") (sha256Hex content)
            else .intact

/-- `manifest.get("copied_files", [])` where it is a list. -/
def copiedFiles : Option (List Json) :=
  match (manifest.field? "copied_files").getD (.arr []) with
  | .arr items => some items
  | _ => none

/-- `_rollback_manifest_integrity`. -/
def rollbackManifestIntegrity : ManifestIntegrity :=
  match copiedFiles manifest with
  | none => ⟨false, 0, [], [], 1⟩
  | some items =>
      let checks := items.map (checkListedFile sha256Hex snapshot)
      let missing := checks.filterMap fun
        | .missing rel => some rel
        | _ => none
      let mismatches := checks.filterMap fun
        | .mismatch rel expected actual => some (rel, expected, actual)
        | _ => none
      let invalidEntries := checks.countP fun check => check == .invalid
      { integrityOk := missing.isEmpty && mismatches.isEmpty && invalidEntries == 0
        checkedFilesCount := checks.countP fun
          | .mismatch _ _ _ => true
          | .intact => true
          | _ => false
        missingFiles := missing
        sha256Mismatches := mismatches
        invalidEntriesCount := invalidEntries }

end Integrity

/-! ## Inventories -/

/-- `fetch_certificate_inventory`, with the decoded answer; `none` where the request raises. -/
def fetchCertificateInventory (payload : Option Json) : Except Failure (List Json) :=
  match payload with
  | none => .error .raised
  | some (.arr items) => .ok ((items.filter Json.isObject).map fun item =>
      let get (key : String) : Json := (item.field? key).getD .null
      .obj [
        ("certificate_id", get "id"),
        ("application_uri", get "application_uri"),
        ("runtime_instance_id", get "runtime_instance_id"),
        ("common_name", get "common_name"),
        ("zone", get "zone"),
        ("role", get "role"),
        ("fingerprint_sha256", get "fingerprint_sha256"),
        ("serial_number", get "serial_number"),
        ("status", get "status"),
        ("revoked_at", get "revoked_at")])
  | some _ => .error (.valueError "certificate_inventory_malformed")

/-- `_find_certificate_by_fingerprint`. -/
def findCertificateByFingerprint (inventory : List Json) (fingerprintSha256 : String) :
    Option Json :=
  let fp := PythonText.lower (PythonText.strip fingerprintSha256)
  if fp = "" then none
  else inventory.find? fun item => loweredText item "fingerprint_sha256" = fp

/-- `fetch_package_inventory_for_application`. -/
def fetchPackageInventory (packages : String → Option Json) (applicationUri : String) :
    Except Failure (List Json) :=
  if applicationUri = "" then .ok []
  else
    match packages applicationUri with
    | none => .error .raised
    | some (.arr items) => .ok ((items.filter Json.isObject).map fun item =>
        let get (key : String) : String × Json := (key, (item.field? key).getD .null)
        .obj [get "package_id", get "certificate_id", get "lifecycle_state", get "generation",
          get "supersedes_package_id", get "created_at"])
    | some _ => .ok []

/-- The key by which packages are sorted; `none` where `int` raises. -/
def packageKey (item : Json) : Option (Int × String) :=
  let generation := orElse ((item.field? "generation").getD .null) (.int 0)
  generation.toInt?.map fun number =>
    (number, textOr ((item.field? "created_at").getD .null) "")

/-- `_latest_package_for_certificate`, or an empty dictionary. -/
def latestPackageForCertificate (packages : List Json) (certificateId : Json) :
    Except Failure Json :=
  match certificateId with
  | .null => .ok (.obj [])
  | _ =>
      let mine := packages.filter fun item => textOf item "certificate_id" = certificateId.toStr
      match mine.mapM fun item => (packageKey item).map fun key => (key, item) with
      | none => .error .raised
      | some entries =>
          let sorted := entries.insertionSort fun left right =>
            right.1.1 < left.1.1 ∨ right.1.1 = left.1.1 ∧ right.1.2 ≤ left.1.2
          .ok ((sorted.head?.map Prod.snd).getD (.obj []))

/-! ## The preflight -/

/-- What `_load_runtime_certificate` and `_certificate_identity` say about a certificate. -/
structure CertificateFacts where
  subject : String
  applicationUri : String
  fingerprintSha256 : String
  notAfter : String
  serialNumber : Int
  deriving DecidableEq, Repr

/-- What one call is given and finds: the runtime, the manifest of the plan (`some none` where it
is no JSON), the directory that the text of the manifest leads to (`none` where it is outside the
plan, `some none` where there is none), the revocation list and the answers of the GDS. -/
structure PreflightInput where
  target : String
  planId : String
  runtimeWriteEnabled : Bool
  mountMode : String
  runtime : FileTree
  manifest : Option (Option Json)
  snapshotDir : String → Option (Option FileTree)
  crlDer : Option (List UInt8)
  inventory : Option Json
  packages : String → Option Json
  reportWritten : Bool

/-- The report of a preflight. -/
structure RollbackPreflight where
  safeModeRestored : Bool
  runtimeCertificate : CertificateFacts
  rollbackManifestFound : Bool
  rollbackSnapshotFound : Bool
  rollbackManifestIntegrity : ManifestIntegrity
  privateKeyMaterialCopied : Option Bool
  rollbackSnapshotCertificate : Option CertificateFacts
  runtimeCertificateGds : Json
  rollbackSnapshotCertificateGds : Json
  runtimePackageStatus : Json
  rollbackSnapshotPackageStatus : Json
  rollbackTargetCertificateStatus : String
  rollbackTargetCertificateRevoked : Bool
  rollbackTargetCrlSerialMatch : Bool
  decision : String
  blockingReasons : List String
  recommendedOperatorAction : String

section Preflight

variable (sha256Hex : List UInt8 → String) (loadCrl : List UInt8 → Option (List Int))
  (loadCertificate : String → FileTree → Option CertificateFacts) (input : PreflightInput)

/-- The report before there is any rollback evidence. -/
def baseReport (runtimeCertificate : CertificateFacts) : RollbackPreflight where
  safeModeRestored := !input.runtimeWriteEnabled && input.mountMode == "ro"
  runtimeCertificate := runtimeCertificate
  rollbackManifestFound := false
  rollbackSnapshotFound := false
  rollbackManifestIntegrity := ⟨false, 0, [], [], 0⟩
  privateKeyMaterialCopied := none
  rollbackSnapshotCertificate := none
  runtimeCertificateGds := .obj []
  rollbackSnapshotCertificateGds := .obj []
  runtimePackageStatus := .obj []
  rollbackSnapshotPackageStatus := .obj []
  rollbackTargetCertificateStatus := "unknown"
  rollbackTargetCertificateRevoked := false
  rollbackTargetCrlSerialMatch := false
  decision := "not_applicable"
  blockingReasons := ["rollback_manifest_missing"]
  recommendedOperatorAction :=
    "Rollback preflight is not applicable because rollback evidence is missing."

/-- Write the report. -/
def writePreflight (report : RollbackPreflight) : Except Failure RollbackPreflight :=
  if input.reportWritten = false then .error .raised else .ok report

/-- `bool(manifest.get("private_key_material_copied"))`. -/
def privateKeyCopied (manifest : Json) : Bool :=
  ((manifest.field? "private_key_material_copied").getD .null).truthy

/-- The application URI by which the packages are asked for. -/
def preflightApplicationUri (runtimeGds rollbackGds : Json)
    (runtimeCertificate snapshotCertificate : CertificateFacts) : String :=
  let uri (entry : Json) : Json := (entry.field? "application_uri").getD .null
  textOr (orElse (uri runtimeGds) (orElse (uri rollbackGds)
    (orElse (.str runtimeCertificate.applicationUri)
      (.str snapshotCertificate.applicationUri)))) ""

/-- The packages of the two certificates. -/
def packageStatuses (runtimeGds rollbackGds : Json)
    (runtimeCertificate snapshotCertificate : CertificateFacts) : Except Failure (Json × Json) := do
  let packages ← fetchPackageInventory input.packages
    (preflightApplicationUri runtimeGds rollbackGds runtimeCertificate snapshotCertificate)
  let runtimePackage ← latestPackageForCertificate packages
    ((runtimeGds.field? "certificate_id").getD .null)
  let rollbackPackage ← latestPackageForCertificate packages
    ((rollbackGds.field? "certificate_id").getD .null)
  .ok (runtimePackage, rollbackPackage)

/-- The status of a certificate by its entry in the inventory. -/
def rollbackStatus (rollbackGds : Json) : String :=
  orText (loweredText rollbackGds "status") "unknown"

/-- The reasons against a rollback. -/
def rollbackBlockingReasons (integrityOk keyCopied revoked : Bool) : List String :=
  (if integrityOk then [] else ["rollback_manifest_integrity_failed"]) ++
  (if keyCopied then ["rollback_snapshot_private_key_material_present"] else []) ++
  (if revoked then ["rollback_target_certificate_revoked"] else [])

/-- The preflight of a snapshot that is there. -/
def preflightSnapshot (base : RollbackPreflight) (manifest : Json) (snapshot : FileTree) :
    Except Failure RollbackPreflight :=
  match loadCertificate input.target snapshot with
  | none => .error .raised
  | some certificate => do
      let integrity := rollbackManifestIntegrity sha256Hex manifest snapshot
      let inventory ← fetchCertificateInventory input.inventory
      let gds (facts : CertificateFacts) : Json :=
        (findCertificateByFingerprint inventory facts.fingerprintSha256).getD (.obj [])
      let statuses ← packageStatuses input (gds base.runtimeCertificate) (gds certificate)
        base.runtimeCertificate certificate
      let status := rollbackStatus (gds certificate)
      let inCrl := rollbackSerialInCrl loadCrl input.crlDer certificate.serialNumber
      let revoked := status == "revoked" || inCrl
      let reasons :=
        rollbackBlockingReasons integrity.integrityOk (privateKeyCopied manifest) revoked
      writePreflight input { base with
        rollbackManifestFound := true
        rollbackSnapshotFound := true
        rollbackManifestIntegrity := integrity
        privateKeyMaterialCopied := some (privateKeyCopied manifest)
        rollbackSnapshotCertificate := some certificate
        runtimeCertificateGds := gds base.runtimeCertificate
        rollbackSnapshotCertificateGds := gds certificate
        runtimePackageStatus := statuses.1
        rollbackSnapshotPackageStatus := statuses.2
        rollbackTargetCertificateStatus := status
        rollbackTargetCertificateRevoked := revoked
        rollbackTargetCrlSerialMatch := inCrl
        decision := if reasons.isEmpty then "eligible" else "blocked"
        blockingReasons := reasons
        recommendedOperatorAction := if reasons.isEmpty then
          "Rollback preflight is eligible; maintain operator-controlled activation/rollback " ++
            "procedures."
        else
          "Rollback preflight is blocked. Keep current runtime and investigate blocking reasons." }

/-- The preflight of a manifest that is there. -/
def preflightManifest (base : RollbackPreflight) (manifest : Json) :
    Except Failure RollbackPreflight :=
  if manifest.isObject = false then .error .raised
  else
    match input.snapshotDir (PythonText.strip (textOf manifest "snapshot_dir")) with
    | none => .error .raised
    | some none =>
        writePreflight input { base with
          rollbackManifestFound := true
          privateKeyMaterialCopied := some (privateKeyCopied manifest)
          blockingReasons := ["rollback_snapshot_missing"]
          recommendedOperatorAction :=
            "Rollback preflight is blocked until rollback snapshot files exist." }
    | some (some snapshot) =>
        preflightSnapshot sha256Hex loadCrl loadCertificate input base manifest snapshot

/-- `rollback_preflight_once`. -/
def rollbackPreflightOnce : Except Failure RollbackPreflight :=
  if input.target ∉ ["fuxa", "opcua-server"] then
    .error (.valueError "target_not_enabled_for_rollback_preflight")
  else if input.planId = "" then .error (.valueError "rollback_preflight_requires_plan_id")
  else
    match loadCertificate input.target input.runtime with
    | none => .error .raised
    | some runtimeCertificate =>
        let base := baseReport input runtimeCertificate
        match input.manifest with
        | none => writePreflight input base
        | some none => .error .raised
        | some (some manifest) =>
            preflightManifest sha256Hex loadCrl loadCertificate input base manifest

end Preflight

end OpcuaGds.Agent
