import OpcuaGds.Agent.LatestEntry
import OpcuaGds.Agent.QuarantineMoves
import OpcuaGds.Agent.RevocationReport
import OpcuaGds.Agent.RollbackPreflight
import OpcuaGds.Foundation.Dict

/-! # Revocation reports and what is done with them

`pull_revocation_update_once` writes a report for each runtime target, a quarantine is planned
from one of the reports of its target, and activated from one of the plans. What each of them
finds is what the earlier calls left in the directories of the target, and the runtime as it is
then.
-/

namespace OpcuaGds.Agent

open Gds (Crypto)

/-! ## The report -/

/-- The certificates that the inspection of a runtime finds, with the paths of their files. -/
def inspectedCertificates (certificateMetadata : List UInt8 → Option CertificateMetadata)
    (readable : String → Bool) (runtime : FileTree) : List (String × CertificateMetadata) :=
  runtime.listing.filterMap fun file =>
    if isPrivateFile file.1 ∨ readable file.1 = false then none
    else (certificateMetadata file.2).map fun metadata => (slashes file.1, metadata)

/-- The certificates of the inventory that are revoked. -/
def revokedCertificates (inventory : List Json) : List Json :=
  inventory.filter fun cert => loweredText cert "status" = "revoked"

/-- The entries of a list that have a fingerprint, with it in lower case. -/
def fingerprinted (certs : List Json) : List (String × Json) :=
  certs.filterMap fun cert =>
    if cert.isObject && ((cert.field? "fingerprint_sha256").getD .null).truthy then
      some (loweredText cert "fingerprint_sha256", cert)
    else none

/-- An entry of the runtime that is in the report. -/
def affectedEntry (activeArtifactFps : List String) (revokedByFp : Dict String Json)
    (entry : String × CertificateMetadata) : Option Json :=
  let fp := PythonText.lower (PythonText.strip entry.2.fingerprintSha256)
  if fp = "" then none
  else (revokedByFp.get? fp).map fun cert => .obj [
    ("relative_path", .str entry.1),
    ("fingerprint_sha256", .str fp),
    ("subject", .str entry.2.subject),
    ("serial_number", .str entry.2.serialNumber),
    ("application_uri", (cert.field? "application_uri").getD .null),
    ("classification", .str (classifyRuntimeEntry {
      relativePath := entry.1
      sha256 := none
      type := none
      subject := some entry.2.subject }).name),
    ("present_in_active_signed_artifact", .bool (activeArtifactFps.contains fp)),
    ("review_reason", .str "runtime entry matches revoked certificate metadata")]

/-- A runtime target of the pull, with what is read of its cached artifact. -/
structure RevocationTarget where
  targetCfg : Json
  cached : Except Failure (Option Json)
  rootAvailable : Bool
  readable : String → Bool
  reportId : String
  generatedAt : String
  written : Bool

/-- What one pull meets: the revocation lists before and after the cycle that it runs, and the
answer with the inventory. -/
structure RevocationPull where
  oldCrlDer : Option (List UInt8)
  newCrlDer : Option (List UInt8)
  inventory : Option Json
  runtimeTargets : List RevocationTarget
  requestedTarget : String
  mergePolicy : String
  syncCycleId : String

/-- The name of a document with its time and its id. -/
def documentName (generatedAt id : String) : String :=
  fileStamp generatedAt ++ "_" ++ id ++ ".json"

/-- The files that an inspection comes to; there are none below a root that is not there. -/
def inspectedTree (rootAvailable : Bool) (runtime : FileTree) : FileTree :=
  if rootAvailable then runtime else []

/-- `load_json_if_exists(trust_dir / …) or {}`, of which the report has its list. -/
def RevocationTarget.artifact (target : RevocationTarget) : Except Failure Json :=
  match target.cached with
  | .error failure => .error failure
  | .ok none => .ok (.obj [])
  | .ok (some artifact) =>
      if artifact.truthy = false then .ok (.obj [])
      else if artifact.isObject = false then .error .raised
      else .ok artifact

def RevocationTarget.name (target : RevocationTarget) : String :=
  ((target.targetCfg.field? "target").getD (.str "unknown")).toStr

section Report

variable (certificateMetadata : List UInt8 → Option CertificateMetadata)
  (loadCrl : List UInt8 → Option (List Int))

/-- `runtime_trust_entries_affected`. -/
def affectedEntries (revoked : List Json) (target : RevocationTarget) (artifact : Json)
    (runtime : FileTree) : List Json :=
  let activeArtifactFps := (fingerprinted (certificateEntries artifact)).map Prod.fst
  (inspectedCertificates certificateMetadata target.readable
    (inspectedTree target.rootAvailable runtime)).filterMap
      (affectedEntry activeArtifactFps (.ofList (fingerprinted revoked)))

/-- `build_revocation_dry_run_report`. -/
def buildRevocationReport (pull : RevocationPull) (revoked : List Json)
    (target : RevocationTarget) (runtime : FileTree) : Except Failure Json := do
  let artifact ← target.artifact
  let crl := buildRevocationDryRunReport loadCrl revoked pull.oldCrlDer pull.newCrlDer
  let affected := affectedEntries certificateMetadata revoked target artifact runtime
  let config (key : String) : Json := .str ((target.targetCfg.field? key).getD (.str "")).toStr
  .ok (.obj [
    ("report_id", .str target.reportId),
    ("generated_at", .str target.generatedAt),
    ("sync_cycle_id", .str pull.syncCycleId),
    ("target", .str target.name),
    ("artifact_zone", config "artifact_zone"),
    ("artifact_role", config "artifact_role"),
    ("artifact_revision", (artifact.field? "artifact_revision").getD .null),
    ("merge_policy", .str pull.mergePolicy),
    ("crl_changed", .bool crl.crlChanged),
    ("newly_revoked_crl_serials", .arr (crl.newlyRevokedCrlSerials.map .str)),
    ("certificates_revoked_total", .int crl.certificatesRevokedTotal),
    ("certificates_revoked_known", .arr crl.certificatesRevokedKnown),
    ("certificates_newly_revoked", .arr crl.certificatesNewlyRevoked),
    ("runtime_trust_entries_affected", .arr affected),
    ("deletion_candidates", .arr affected),
    ("files_to_remove", .arr []),
    ("files_to_remove_count", .int 0),
    ("conservative_merge_blocks_deletion", .bool (pull.mergePolicy == "conservative_merge"))])

/-! ## The directories of the targets -/

/-- What there is of one target: its runtime, and by plan the revoked files and tombstones. -/
structure TargetRecords where
  runtime : FileTree
  reports : DirectoryListing (Option Json)
  plans : DirectoryListing (Option Json)
  quarantine : String → FileTree
  tombstones : String → Option (List MovedFile)
  receipts : DirectoryListing QuarantineReceipt

/-- The targets of an agent by name. -/
abbrev AgentRecords := String → TargetRecords

/-- The reports of the selected targets, one after the other, up to one that raises. -/
def reportTargets (pull : RevocationPull) (revoked : List Json)
    (targetMap : Dict String RevocationTarget) :
    List String → AgentRecords → AgentRecords × Except Failure (List Json)
  | [], records => (records, .ok [])
  | name :: names, records =>
      match targetMap.get? name with
      | none => (records, .error (.valueError ("target_config_missing:" ++ name)))
      | some target =>
          let found := records target.name
          match buildRevocationReport certificateMetadata loadCrl pull revoked target
              found.runtime with
          | .error failure => (records, .error failure)
          | .ok report =>
              if target.written = false then (records, .error .raised)
              else
                let left := Function.update records target.name { found with
                  reports := found.reports.put (documentName target.generatedAt target.reportId)
                    (some report) }
                let (after, reports) := reportTargets pull revoked targetMap names left
                (after, reports.map (report :: ·))

/-- `target_map`. -/
def RevocationPull.targetMap (pull : RevocationPull) : Dict String RevocationTarget :=
  .ofList (pull.runtimeTargets.map fun target =>
    (((target.targetCfg.field? "target").getD (.str "")).toStr, target))

/-- `selected_names`. -/
def RevocationPull.selectedNames (pull : RevocationPull) : List String :=
  if pull.requestedTarget ≠ "" then [pull.requestedTarget]
  else pull.targetMap.keys.insertionSort (· ≤ ·)

/-- What a pull answers with. -/
structure RevocationUpdate where
  crlChanged : Bool
  revokedCertificatesCount : Nat
  affectedRuntimeEntriesCount : Nat
  deletionCandidatesCount : Nat
  reports : List Json

/-- `pull_revocation_update_once`, after its sync cycle. -/
def pullRevocationUpdateOnce (pull : RevocationPull) (records : AgentRecords) :
    AgentRecords × Except Failure RevocationUpdate :=
  match fetchCertificateInventory pull.inventory with
  | .error failure => (records, .error failure)
  | .ok inventory =>
      let revoked := revokedCertificates inventory
      let (after, reports) := reportTargets certificateMetadata loadCrl pull revoked
        pull.targetMap pull.selectedNames records
      let count (report : Json) : Nat := (affectedRuntimeEntries report).length
      (after, reports.map fun reports => {
        crlChanged := pull.oldCrlDer != pull.newCrlDer
        revokedCertificatesCount := revoked.length
        affectedRuntimeEntriesCount := (reports.map count).sum
        deletionCandidatesCount := (reports.map count).sum
        reports := reports })

end Report

/-! ## The plan -/

/-- The first readable report with an id, or with a name that the id is in. -/
def reportWithId (reportId : String) :
    List (String × Option Json) → Except Failure (Option (String × Option Json))
  | [] => .ok none
  | (_, none) :: rest => reportWithId reportId rest
  | (name, some payload) :: rest =>
      if payload.isObject = false then .error .raised
      else if textOf payload "report_id" = reportId ∨ textContains reportId name then
        .ok (some (name, some payload))
      else reportWithId reportId rest

/-- `_load_revocation_report`. -/
def loadRevocationReport (reports : DirectoryListing (Option Json)) (reportId : String) :
    Except Failure (Option (String × Option Json)) :=
  if reportId ≠ "" then reportWithId reportId reports.newestFirst
  else .ok reports.jsonFiles.getLast?

/-- What the planning of one quarantine is given and finds. -/
structure QuarantinePlanning where
  target : String
  reportId : String
  planId : String
  generatedAt : String
  preflightPath : String
  rootAvailable : Bool
  readable : String → Bool
  written : Bool

/-- `quarantine_revoked_dry_run_once`, with the report that it finds. -/
def planQuarantineOnce (certificateMetadata : List UInt8 → Option CertificateMetadata)
    (revocationDir : String) (planning : QuarantinePlanning) (records : AgentRecords) :
    AgentRecords × Except Failure Json :=
  let found := records planning.target
  match loadRevocationReport found.reports planning.reportId with
  | .error failure => (records, .error failure)
  | .ok report =>
      let reportPath := report.elim "" fun file =>
        FileTree.join (FileTree.join revocationDir planning.target) file.1
      match quarantineRevokedDryRun certificateMetadata planning.readable
          (inspectedTree planning.rootAvailable found.runtime) planning.planId reportPath
          planning.preflightPath ((report.bind Prod.snd).getD .null) with
      | none => (records, .error .raised)
      | some plan =>
          if planning.written = false then (records, .error .raised)
          else (Function.update records planning.target { found with
            plans := found.plans.put (documentName planning.generatedAt planning.planId)
              (some plan) }, .ok plan)

/-! ## The activation -/

/-- `_load_quarantine_plan`; nothing for a call that raises, as the activation raises then. -/
def loadQuarantinePlan (plans : DirectoryListing (Option Json)) (planId : String) :
    Option Json :=
  (planWithId planId plans.newestFirst).join

section System

variable {PrivateKey PublicKey : Type} (crypto : Crypto PrivateKey PublicKey)
  (sha256Hex : List UInt8 → String)
  (certificateMetadata : List UInt8 → Option CertificateMetadata)
  (loadCrl : List UInt8 → Option (List Int)) (revocationDir : String)

/-- The files and records of a plan. -/
def TargetRecords.ofPlan (records : TargetRecords) (planId : String) : QuarantineState where
  files := ⟨records.runtime, records.quarantine planId⟩
  tombstones := records.tombstones planId
  receipts := records.receipts

/-- The records of a target after those of a plan have changed. -/
def TargetRecords.withPlan (records : TargetRecords) (planId : String)
    (state : QuarantineState) : TargetRecords :=
  { records with
    runtime := state.files.runtime
    quarantine := Function.update records.quarantine planId state.files.quarantine
    tombstones := Function.update records.tombstones planId state.tombstones
    receipts := state.receipts }

/-- What an activation is given, with the plan that it finds. -/
def QuarantineInput.finding (input : QuarantineInput PrivateKey) (records : AgentRecords) :
    QuarantineInput PrivateKey :=
  { input with plan := loadQuarantinePlan (records input.target).plans input.planId }

/-- `activate_revocation_quarantine_once`, with the plan that it finds. -/
def activateQuarantineOnce (input : QuarantineInput PrivateKey) (outcomes : QuarantineOutcomes)
    (records : AgentRecords) : AgentRecords × Except Failure QuarantineReceipt :=
  let found := records input.target
  let (result, after) := activateRevocationQuarantine crypto sha256Hex (input.finding records)
    outcomes (found.ofPlan input.planId)
  (Function.update records input.target (found.withPlan input.planId after), result)

/-- What happens to the targets: the commands of the agent, and whatever else writes a
runtime. -/
inductive RevocationEvent (PrivateKey : Type) where
  | pull (pull : RevocationPull)
  | plan (planning : QuarantinePlanning)
  | activate (input : QuarantineInput PrivateKey) (outcomes : QuarantineOutcomes)
  | runtime (target : String) (files : FileTree)

/-- One event; a command that raises has done what it did before. -/
def revocationStep (records : AgentRecords) :
    RevocationEvent PrivateKey → Option AgentRecords
  | .pull pull => some (pullRevocationUpdateOnce certificateMetadata loadCrl pull records).1
  | .plan planning => some (planQuarantineOnce certificateMetadata revocationDir planning records).1
  | .activate input outcomes =>
      some (activateQuarantineOnce crypto sha256Hex input outcomes records).1
  | .runtime target files =>
      some (Function.update records target { records target with runtime := files })

end System

end OpcuaGds.Agent
