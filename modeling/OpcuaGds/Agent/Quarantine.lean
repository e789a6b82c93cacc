import OpcuaGds.Agent.ActivationGate
import OpcuaGds.Agent.MaintenancePolicyLoading
import OpcuaGds.Agent.RuntimeActivation
import OpcuaGds.Agent.RuntimeComparison
import OpcuaGds.Foundation.JsonPython

/-! # Quarantine of revoked certificates

A quarantine is planned from a revocation report and the runtime as it is then, activated when
the gates are open, and validated from its receipt. Paths of runtime and quarantine are relative
to the runtime root and to the directory of the plan's revoked files.
-/

namespace OpcuaGds.Agent

open Gds (Crypto)

/-! ## Paths -/

/-- `_normalize_relative_path`. -/
def normalizeRelativePath (path : String) : String :=
  String.ofList ((PythonText.strip (slashes path)).toList.dropWhile fun c => c == '/')

def textStartsWith (start text : String) : Bool := start.toList.isPrefixOf text.toList

/-- `_is_quarantine_eligible_runtime_path`. -/
def isQuarantineEligible (relativePath : String) : Bool :=
  let rel := PythonText.lower (normalizeRelativePath relativePath)
  if rel = "" then false
  else if isPrivateKeyPath (pathName rel) rel then false
  else if textContains "/own/" rel || textStartsWith "own/" rel then false
  else textStartsWith "applcerts/trusted/certs/" rel || textStartsWith "trusted/certs/" rel ||
    textStartsWith "applcerts/rejected/" rel || textStartsWith "rejected/" rel

/-- The file of a tree at a path below its root; a path that ends in `..` names a directory. -/
def fileAt (rel path : String) (tree : FileTree) : Option (List UInt8) :=
  if pathName rel = ".." then none else tree.read path

/-! ## The plan -/

/-- What `_parse_cert_file_metadata` says about a file that is a certificate. -/
structure CertificateMetadata where
  fingerprintSha256 : String
  subject : String
  serialNumber : String
  deriving DecidableEq, Repr

/-- The certificates that the inspection of a runtime finds, by the key under which
`_runtime_cert_entry_map` keeps them. -/
def runtimeCertEntries (certificateMetadata : List UInt8 → Option CertificateMetadata)
    (readable : String → Bool) (runtime : FileTree) :
    List ((String × String) × (String × CertificateMetadata)) :=
  runtime.listing.filterMap fun file =>
    if isPrivateFile file.1 ∨ readable file.1 = false then none
    else
      (certificateMetadata file.2).bind fun metadata =>
        let rel := normalizeRelativePath (slashes file.1)
        let fp := PythonText.lower (PythonText.strip metadata.fingerprintSha256)
        if rel = "" ∨ fp = "" then none else some ((rel, fp), (slashes file.1, metadata))

/-- `_candidate_from_runtime_entry`. -/
def candidateFromRuntimeEntry (entry : String × CertificateMetadata) (revokedMeta : Json) : Json :=
  let get (key : String) : Json := (revokedMeta.field? key).getD .null
  .obj [
    ("relative_path", .str (normalizeRelativePath entry.1)),
    ("fingerprint_sha256",
      .str (PythonText.lower (PythonText.strip entry.2.fingerprintSha256))),
    ("subject", .str entry.2.subject),
    ("serial_number", .str entry.2.serialNumber),
    ("application_uri", get "application_uri"),
    ("certificate_id", get "certificate_id"),
    ("revoked_at", get "revoked_at"),
    ("classification", .str (classifyRuntimeEntry {
      relativePath := entry.1
      sha256 := none
      type := none
      subject := some entry.2.subject }).name),
    ("review_reason", .str "runtime entry matches revoked certificate metadata")]

/-- `str(item.get(key, "")).strip().lower()`. -/
def loweredText (item : Json) (key : String) : String :=
  PythonText.lower (PythonText.strip (textOf item key))

/-- The loop over the affected entries of a report: the entries that are still there. -/
def activeRevokedEntries (entries : List ((String × String) × (String × CertificateMetadata)))
    (revokedByFp : List (String × Json)) (affected : List Json) : List Json :=
  affected.filterMap fun entry =>
    if entry.isObject = false then none
    else
      let rel := normalizeRelativePath (textOf entry "relative_path")
      let fp := loweredText entry "fingerprint_sha256"
      if rel = "" ∨ fp = "" then none
      else
        (entries.reverse.lookup (rel, fp)).map fun runtimeEntry =>
          candidateFromRuntimeEntry runtimeEntry ((revokedByFp.reverse.lookup fp).getD (.obj []))

/-- `report.get("runtime_trust_entries_affected", [])` where it is a list. -/
def affectedRuntimeEntries (report : Json) : List Json :=
  match (report.field? "runtime_trust_entries_affected").getD (.arr []) with
  | .arr entries => entries
  | _ => []

/-- The plan that `quarantine_revoked_dry_run_once` writes, by what an activation reads of it;
`none` for an exception. -/
def quarantineRevokedDryRun (certificateMetadata : List UInt8 → Option CertificateMetadata)
    (readable : String → Bool) (runtime : FileTree) (planId reportPath preflightPath : String)
    (report : Json) : Option Json := do
  let plan (candidates : List Json) (decision reason : String) : Json := .obj [
    ("plan_id", .str planId),
    ("revocation_report_path", .str reportPath),
    ("rollback_preflight_path", .str preflightPath),
    ("quarantine_candidates", .arr candidates),
    ("decision", .str decision),
    ("reason", .str reason)]
  if report.isObject = false then
    return plan [] "blocked" "revocation_report_missing"
  let revokedKnown ←
    ((report.field? "certificates_revoked_known").getD (.arr [])).iterate?
  let revokedByFp := revokedKnown.filterMap fun item =>
    if ((item.field? "fingerprint_sha256").getD .null).truthy then
      some (loweredText item "fingerprint_sha256", item)
    else none
  let active := activeRevokedEntries (runtimeCertEntries certificateMetadata readable runtime)
    revokedByFp (affectedRuntimeEntries report)
  let candidates := active.filter fun item => isQuarantineEligible (textOf item "relative_path")
  if active = [] then
    return plan candidates "not_applicable" "no_revoked_runtime_entries_found"
  else if candidates = [] then
    return plan candidates "not_applicable" "no_quarantine_eligible_revoked_entries_found"
  else return plan candidates "ready_for_quarantine" "quarantine_candidates_ready"

/-! ## The moves -/

/-- The record of a moved file. -/
structure MovedFile where
  fromPath : String
  toPath : String
  sha256 : String
  certificateId : Json
  serialNumber : Json
  fingerprintSha256 : Json
  revokedAt : Json

/-- The runtime and the revoked files of the plan. -/
structure QuarantineFiles where
  runtime : FileTree
  quarantine : FileTree
  deriving DecidableEq

/-- How the operations on files turn out in one activation, by path. -/
structure QuarantineOutcomes where
  rootAvailable : Bool
  probe : ProbeOutcome
  directoriesMade : Bool
  readBefore : String → Bool
  copy : String → CopyOutcome
  unlink : String → Bool
  tombstonesWritten : Bool
  receiptWritten : Bool

/-- What one candidate leads to. -/
inductive MoveStep where
  | skips
  | raises (files : QuarantineFiles)
  | moves (moved : MovedFile) (files : QuarantineFiles)

/-- What the loop over the candidates leads to: the files moved, the files that there are, and
whether it raises. -/
structure MoveCourse where
  moved : List MovedFile
  files : QuarantineFiles
  raises : Bool

section Moves

variable (sha256Hex : List UInt8 → String) (outcomes : QuarantineOutcomes)

/-- The relative path of a candidate. -/
def candidatePath (item : Json) : String := normalizeRelativePath (textOf item "relative_path")

/-- The move of a file that is there: copied, read back and removed. The bytes that are read
back are those that were copied, so the hashes before and after agree. -/
def movePresentFile (item : Json) (path : String) (content : List UInt8)
    (files : QuarantineFiles) : MoveStep :=
  if outcomes.readBefore path = false then .raises files
  else
    match outcomes.copy path with
    | .stops leftover =>
        .raises { files with quarantine := files.quarantine.leave path leftover }
    | .replaces readBack =>
        let copied := { files with quarantine := files.quarantine.write path content }
        if readBack = false ∨ outcomes.unlink path = false then .raises copied
        else .moves {
          fromPath := candidatePath item
          toPath := candidatePath item
          sha256 := sha256Hex content
          certificateId := (item.field? "certificate_id").getD .null
          serialNumber := (item.field? "serial_number").getD .null
          fingerprintSha256 := (item.field? "fingerprint_sha256").getD .null
          revokedAt := (item.field? "revoked_at").getD .null }
          { copied with runtime := files.runtime.delete path }

/-- The body of the loop over the candidates. -/
def moveCandidate (item : Json) (files : QuarantineFiles) : MoveStep :=
  if item.isObject = false ∨ candidatePath item = "" ∨
      isQuarantineEligible (candidatePath item) = false then .skips
  else
    match resolveInside (candidatePath item) with
    | none => .raises files
    | some path =>
        match fileAt (candidatePath item) path files.runtime with
        | none => .skips
        | some content => movePresentFile sha256Hex outcomes item path content files

/-- The loop over the candidates. -/
def moveCandidates : List Json → QuarantineFiles → MoveCourse
  | [], files => ⟨[], files, false⟩
  | item :: rest, files =>
      match moveCandidate sha256Hex outcomes item files with
      | .skips => moveCandidates rest files
      | .raises left => ⟨[], left, true⟩
      | .moves moved next =>
          let course := moveCandidates rest next
          { course with moved := moved :: course.moved }

end Moves

/-! ## The activation -/

/-- What the receipt of an activation says. -/
structure QuarantineReceipt where
  planId : String
  createdAt : String
  status : String
  movedFiles : List MovedFile
  runtimeMutationPerformed : Bool
  safeModeRestored : Bool
  rollbackPointer : String
  blockingReasons : List String
  warnings : List String

/-- The files of a plan and a target, with the records about them. -/
structure QuarantineState where
  files : QuarantineFiles
  tombstones : Option (List MovedFile)
  receipts : DirectoryListing QuarantineReceipt

/-- What one call is given and finds: the plan of its id, the latest rollback preflight with its
path, and whether a revocation report exists. -/
structure QuarantineInput (PrivateKey : Type) where
  target : String
  planId : String
  generatedAt : String
  receiptId : String
  plan : Option Json
  runtimeWriteEnabled : Bool
  mountMode : String
  runtimeActivationTargets : List String
  gate : GateInputs PrivateKey
  rollbackPreflight : Option (String × Json)
  reportExists : String → Bool

section Activation

variable {PrivateKey PublicKey : Type} (crypto : Crypto PrivateKey PublicKey)
  (sha256Hex : List UInt8 → String) (input : QuarantineInput PrivateKey)
  (outcomes : QuarantineOutcomes)

/-- `plan.get("quarantine_candidates", [])` where it is a list. -/
def quarantineCandidates (plan : Json) : List Json :=
  match (plan.field? "quarantine_candidates").getD (.arr []) with
  | .arr items => items
  | _ => []

/-- The reasons of the rollback preflight and the warnings. -/
def preflightReasons : Except Failure (List String × List String) :=
  match input.rollbackPreflight with
  | none => .ok (["rollback_preflight_missing"], [])
  | some (_, preflight) =>
      if preflight.truthy = false then .ok (["rollback_preflight_missing"], [])
      else if preflight.isObject = false then .error .raised
      else .ok (
        if textOf preflight "decision" = "not_applicable" then
          ["rollback_preflight_not_applicable"]
        else [],
        if ((preflight.field? "rollback_target_certificate_revoked").getD .null).truthy then
          ["rollback_target_certificate_revoked"]
        else [])

/-- The blocking reasons of a ready plan, and the warnings. -/
def quarantineGate (plan : Json) : Except Failure (List String × List String) := do
  let mw := maintenanceWindowStatus input.gate.zoneinfo input.target input.gate.maintenancePolicy
    input.gate.now
  let approval ← loadActiveApprovalForTarget crypto input.gate.approvalSigner
    input.gate.approvalsDir input.target (PythonText.lower mw.policy.approvalLevel) input.gate.now
  let preflight ← preflightReasons input
  let report := textOr ((plan.field? "revocation_report_path").getD .null) ""
  .ok (
    (if input.runtimeWriteEnabled then [] else ["runtime_write_disabled"]) ++
    (if input.mountMode = "rw" then [] else ["runtime_mount_not_writable"]) ++
    (if input.target ∈ input.runtimeActivationTargets then []
      else ["target_not_enabled_for_phase_8_7"]) ++
    (if mw.withinBlackout then ["blackout_period_active"]
      else if mw.windowRequired ∧ ¬mw.withinWindow then ["maintenance_window_closed"]
      else []) ++
    (if approval.1.isSome then [] else [orText approval.2 "approval_missing"]) ++
    preflight.1 ++
    (if report ≠ "" ∧ input.reportExists report then [] else ["revocation_report_missing"]),
    preflight.2)

/-- The receipt before anything is decided. -/
def receiptBase (plan : Json) : QuarantineReceipt where
  planId := input.planId
  createdAt := input.generatedAt
  status := "blocked"
  movedFiles := []
  runtimeMutationPerformed := false
  safeModeRestored := !input.runtimeWriteEnabled && input.mountMode == "ro"
  rollbackPointer := textOf plan "rollback_preflight_path"
  blockingReasons := []
  warnings := []

/-- The name of the receipt. -/
def receiptName : String :=
  String.ofList (input.generatedAt.toList.filter fun c => c != ':' && c != '-') ++ "_" ++
    input.receiptId ++ ".json"

/-- Write the receipt, at the end of every call that does not raise. -/
def writeReceipt (receipt : QuarantineReceipt) (state : QuarantineState) :
    Except Failure QuarantineReceipt × QuarantineState :=
  if outcomes.receiptWritten = false then (.error .raised, state)
  else (.ok receipt,
    { state with receipts := state.receipts.put (receiptName input) receipt })

/-- The moves, the tombstones and the receipt. -/
def performQuarantine (plan : Json) (warnings : List String) (state : QuarantineState) :
    Except Failure QuarantineReceipt × QuarantineState :=
  let course := moveCandidates sha256Hex outcomes (quarantineCandidates plan) state.files
  let left := { state with files := course.files }
  if course.raises ∨ outcomes.tombstonesWritten = false then (.error .raised, left)
  else
    let base := receiptBase input plan
    let pointer := (input.rollbackPreflight.map Prod.fst).getD base.rollbackPointer
    writeReceipt input outcomes
      { base with
        status := if course.moved.isEmpty then "not_applicable" else "quarantined"
        movedFiles := course.moved
        runtimeMutationPerformed := !course.moved.isEmpty
        safeModeRestored := base.safeModeRestored && course.moved.isEmpty
        rollbackPointer := pointer
        blockingReasons := if course.moved.isEmpty then
          ["no_quarantine_candidates_present_in_runtime"] else []
        warnings := warnings }
      { left with tombstones := some course.moved }

/-- `_ensure_runtime_writable` and the directories, before the moves. -/
def openQuarantine (files : QuarantineFiles) : Except Failure Unit × QuarantineFiles :=
  if outcomes.rootAvailable = false then (.error .raised, files)
  else
    match outcomes.probe with
    | .refused leftover =>
        (.error .raised, { files with runtime := files.runtime.leave "" leftover })
    | .granted =>
        if outcomes.directoriesMade = false then (.error .raised, files) else (.ok (), files)

/-- The activation of a plan that is ready. -/
def activateReadyPlan (plan : Json) (state : QuarantineState) :
    Except Failure QuarantineReceipt × QuarantineState :=
  match quarantineGate crypto input plan with
  | .error failure => (.error failure, state)
  | .ok (blockingReasons, warnings) =>
      let base := receiptBase input plan
      if (quarantineCandidates plan).isEmpty then
        writeReceipt input outcomes
          { base with
            status := "not_applicable"
            blockingReasons := ["no_quarantine_candidates"]
            warnings := warnings } state
      else if blockingReasons ≠ [] then
        writeReceipt input outcomes
          { base with blockingReasons := blockingReasons, warnings := warnings } state
      else
        match openQuarantine outcomes state.files with
        | (.error failure, files) => (.error failure, { state with files })
        | (.ok _, files) =>
            performQuarantine sha256Hex input outcomes plan warnings { state with files }

/-- `activate_revocation_quarantine_once`. -/
def activateRevocationQuarantine (state : QuarantineState) :
    Except Failure QuarantineReceipt × QuarantineState :=
  if input.target ∉ ["fuxa", "opcua-server"] then
    (.error (.valueError "target_not_enabled_for_quarantine"), state)
  else if input.planId = "" then
    (.error (.valueError "quarantine_activation_requires_plan_id"), state)
  else
    match input.plan with
    | none => (.error .raised, state)
    | some plan =>
        if textOf plan "decision" ≠ "ready_for_quarantine" then
          writeReceipt input outcomes
            { receiptBase input plan with
              status := "not_applicable"
              blockingReasons :=
                [((plan.field? "reason").getD (.str "quarantine_plan_not_ready")).toStr] }
            state
        else activateReadyPlan crypto sha256Hex input outcomes plan state

end Activation

/-! ## The validation -/

/-- `_latest_quarantine_receipt_for_plan`. -/
def latestQuarantineReceipt (receipts : DirectoryListing QuarantineReceipt) (planId : String) :
    Option QuarantineReceipt :=
  (receipts.newestFirst.map Prod.snd).find? fun receipt => receipt.planId = planId

/-- What `validate_revocation_quarantine_once` finds. -/
structure QuarantineValidation where
  status : String
  movedFilesValidatedCount : Nat
  movedFilesMissingInQuarantine : List String
  movedFilesStillPresentInRuntime : List String
  sha256Mismatches : List (String × String × String)
  blockingReasons : List String
  deriving DecidableEq, Repr

section Validation

variable (sha256Hex : List UInt8 → String) (files : QuarantineFiles)

/-- The file of a recorded path: below the root, or nothing. -/
def recordedFile (rel : String) (tree : FileTree) : Option (List UInt8) :=
  (resolveInside rel).bind fun path => fileAt rel path tree

/-- The moved files that the loop of the validation looks at. -/
def checkedFiles (receipt : QuarantineReceipt) : List MovedFile :=
  receipt.movedFiles.filter fun moved => normalizeRelativePath moved.fromPath ≠ ""

/-- The validation of a receipt with moved files. -/
def validateMoved (receipt : QuarantineReceipt) : QuarantineValidation :=
  let checked := checkedFiles receipt
  let missing := (checked.filter fun moved =>
    (recordedFile moved.toPath files.quarantine).isNone).map MovedFile.toPath
  let still := (checked.map fun moved => normalizeRelativePath moved.fromPath).filter fun rel =>
    (recordedFile rel files.runtime).isSome
  let mismatches := checked.filterMap fun moved =>
    (recordedFile moved.toPath files.quarantine).bind fun content =>
      let expected := PythonText.lower (PythonText.strip moved.sha256)
      if expected ≠ "" ∧ expected ≠ sha256Hex content then
        some (moved.toPath, expected, sha256Hex content)
      else none
  let clean := missing.isEmpty && still.isEmpty && mismatches.isEmpty
  let status :=
    if receipt.status = "quarantined" ∧ clean then "validated"
    else if receipt.status = "not_applicable" then "not_applicable"
    else "failed"
  { status := status
    movedFilesValidatedCount := (checked.filter fun moved =>
      (recordedFile moved.toPath files.quarantine).isSome).length
    movedFilesMissingInQuarantine := missing
    movedFilesStillPresentInRuntime := still
    sha256Mismatches := mismatches
    blockingReasons := if status ≠ "failed" then []
      else (if missing.isEmpty then [] else ["quarantine_files_missing"]) ++
        (if still.isEmpty then [] else ["runtime_files_not_moved"]) ++
        (if mismatches.isEmpty then [] else ["quarantine_file_checksum_mismatch"]) }

/-- A validation that looks at no file. -/
def unchecked (status : String) (blockingReasons : List String) : QuarantineValidation where
  status := status
  movedFilesValidatedCount := 0
  movedFilesMissingInQuarantine := []
  movedFilesStillPresentInRuntime := []
  sha256Mismatches := []
  blockingReasons := blockingReasons

/-- `validate_revocation_quarantine_once`, with the plan and the receipts that it finds. -/
def validateRevocationQuarantine (target planId : String) (plan : Option Json)
    (receipts : DirectoryListing QuarantineReceipt) : Except Failure QuarantineValidation :=
  if target ∉ ["fuxa", "opcua-server"] then
    .error (.valueError "target_not_enabled_for_quarantine")
  else if planId = "" then .error (.valueError "quarantine_validation_requires_plan_id")
  else
    match plan with
    | none => .ok (unchecked "failed" ["quarantine_plan_missing"])
    | some _ =>
        match latestQuarantineReceipt receipts planId with
        | none => .ok (unchecked "failed" ["quarantine_receipt_missing"])
        | some receipt =>
            if receipt.movedFiles.isEmpty ∧ receipt.status = "not_applicable" then
              .ok (unchecked "not_applicable" [])
            else .ok (validateMoved sha256Hex files receipt)

end Validation

end OpcuaGds.Agent
