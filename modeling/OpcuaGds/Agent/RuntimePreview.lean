import OpcuaGds.Agent.LatestEntry
import OpcuaGds.Agent.PlanApprovals
import OpcuaGds.Agent.SyncCycle

/-! # Previews of runtime activations

`run_runtime_preview_once` fetches and verifies the artifact of every target and writes a preview
of what an activation would change. The gates of a cycle, the plan of one target and the dry-run
staging are all decided on such previews.
-/

namespace OpcuaGds.Agent

open Gds (Crypto)

/-! ## The artifact -/

section Fetch

variable {PrivateKey PublicKey : Type} (crypto : Crypto PrivateKey PublicKey)
  (x509 : X509 PublicKey) {pin : Pin}

/-- `fetch_verified_signed_artifact`. -/
def fetchVerifiedSignedArtifact (signDebug : Bool) (anchor : PinnedAnchor crypto pin)
    (zone role : String) (fetched : Option (Json × Json)) (canonicalView : Option Json)
    (now : Int) : Except Failure Json := do
  let (artifact, signature) ← attempt fetched
  let (digest, _) ← verifySignedArtifact crypto artifact signature zone role anchor.publicKey
    anchor.fingerprint
  checkSignDebug signDebug canonicalView digest
  validateTrustlistPayload crypto x509 artifact zone role
  let expiresAt ← attempt
    (parseRfc3339Utc ((artifact.field? "expires_at").getD (.str "")).toStr)
  require (¬ expiresAt < now) "malformed_artifact" "signed trustlist artifact expired"
  .ok artifact

end Fetch

/-! ## Compatibility -/

/-- What `evaluate_runtime_compatibility` returns. -/
structure RuntimeCompatibility where
  status : String
  issues : List String
  runtimePathsChecked : List (String × Bool)

/-- `left != right`; a number of another kind counts as different. -/
def differs (left right : Option Json) : Bool :=
  (left.getD .null).canonicalBytes != (right.getD .null).canonicalBytes

/-- The issues, in the order in which they are found. -/
def compatibilityIssues (targetCfg artifact : Json) : List String :=
  (if differs (artifact.field? "zone") (targetCfg.field? "artifact_zone") then
    ["artifact_zone_mismatch"] else []) ++
  (if differs (artifact.field? "role") (targetCfg.field? "artifact_role") then
    ["artifact_role_mismatch"] else []) ++
  (if textContains "BEGIN CERTIFICATE" ((artifact.field? "ca_chain_pem").getD (.str "")).toStr then
    [] else ["ca_chain_missing"]) ++
  (match artifact.field? "certificates" with
    | some (.arr _) => []
    | _ => ["certificates_malformed"])

/-- `evaluate_runtime_compatibility`. -/
def evaluateRuntimeCompatibility (pathExists : String → Bool) (targetCfg artifact : Json) :
    Except Failure RuntimeCompatibility := do
  let paths ← attempt ((targetCfg.field? "runtime_paths_checked").getD (.arr [])).iterate?
  let pathChecks := paths.map fun path => (path.toStr, pathExists path.toStr)
  let issues := compatibilityIssues targetCfg artifact
  .ok {
    status :=
      if issues ≠ [] then "INCOMPATIBLE"
      else if pathChecks.all fun check => !check.2 then "PREVIEW_ONLY"
      else "COMPATIBLE"
    issues := issues
    runtimePathsChecked := pathChecks }

/-! ## What would be kept -/

/-- `str(entry.get("fingerprint_sha256", "")).lower()`, of an entry that has the key. -/
def keptFp (fp : Option String) : String := PythonText.lower (fp.getD "None")

/-- The comparison of two entries in `compute_would_keep`. -/
def isKept (before after : IndexedCert) : Bool :=
  keptFp before.fingerprintSha256 = keptFp after.fingerprintSha256 ∧
    before.commonName = after.commonName ∧ before.notAfter = after.notAfter

/-- `compute_would_keep`, of two indices. -/
def keptCerts (prevIdx curIdx : Dict String IndexedCert) : List CertView :=
  ((prevIdx.keys.filter fun uri => uri ∈ curIdx.keys).insertionSort (· ≤ ·)).filterMap fun uri =>
    match prevIdx.get? uri, curIdx.get? uri with
    | some before, some after => if isKept before after then some (certView after) else none
    | _, _ => none

/-- `compute_would_keep`. -/
def computeWouldKeep (parseNotAfter : String → Option String)
    (previous current : Option TrustListView) : List CertView :=
  match previous with
  | none => []
  | some previous =>
      keptCerts (buildCertIndex parseNotAfter previous.certificates).1
        (buildCertIndex parseNotAfter ((current.map TrustListView.certificates).getD [])).1

/-! ## The preview of one target -/

/-- A preview; `safe_to_activate` is always false. -/
structure RuntimePreview extends ActivationPreview where
  artifactZone : Json
  artifactRole : Json
  artifactVersion : Json
  artifactRevision : Json
  wouldAdd : List CertView
  wouldRemove : List CertView
  wouldKeep : List CertView
  wouldChange : List CertChange
  runtimePathsChecked : List (String × Bool)
  artifactSnapshot : Json

/-- A file of a preview directory: one that was there, or one that was made. -/
inductive PreviewFile where
  | found (content : Option Json)
  | made (preview : RuntimePreview)

abbrev PreviewDirs := String → Option (DirectoryListing PreviewFile)

/-- A cached document as `load_previous_preview_payload` takes it. -/
def snapshotOf (document : Json) : Except Failure (Option Json) :=
  if document.truthy then
    if document.isObject then
      .ok ((document.field? "artifact_snapshot").filter fun snapshot => snapshot.isObject)
    else .error .raised
  else .ok none

/-- `load_previous_preview_payload`. -/
def loadPreviousPreviewPayload (directory : Option (DirectoryListing PreviewFile)) :
    Except Failure (Option Json) :=
  match directory.bind fun files => files.jsonFiles.getLast? with
  | none => .ok none
  | some (_, .found none) => .ok none
  | some (_, .found (some document)) => snapshotOf document
  | some (_, .made preview) =>
      .ok (if preview.artifactSnapshot.isObject then some preview.artifactSnapshot else none)

/-- What the outside supplies for the preview of one target. -/
structure PreviewTarget where
  targetCfg : Json
  fetched : Option (Json × Json)
  canonicalView : Option Json
  fetchedAt : Int
  pathExists : String → Bool
  approvalsDir : ApprovalsDir
  now : Int
  compatWritten : Bool
  previewId : String
  previewName : String
  previewWritten : Bool
  gateWritten : Bool

/-- `str(target_cfg.get("target"))`. -/
def PreviewTarget.name (target : PreviewTarget) : String :=
  ((target.targetCfg.field? "target").getD .null).toStr

/-- The settings of a run; the approvals and the clock are those of each target. -/
structure PreviewSettings (PrivateKey : Type) where
  gate : GateInputs PrivateKey
  requireSignedArtifacts : Bool
  pinnedAnchorFingerprint : String
  signDebug : Bool

/-- What the gate of a target is fed with. -/
def PreviewSettings.inputs {PrivateKey : Type} (settings : PreviewSettings PrivateKey)
    (target : PreviewTarget) : GateInputs PrivateKey :=
  { settings.gate with approvalsDir := target.approvalsDir, now := target.now }

/-- A write that may raise. -/
def mustWrite (done : Bool) : Except Failure Unit := if done then .ok () else .error .raised

/-- The risk of a preview. -/
def previewRisk (status : String) (risk : DiffRisk) : String :=
  if status = "INCOMPATIBLE" then "CRITICAL"
  else if risk = .low ∧ status = "PREVIEW_ONLY" then "MEDIUM"
  else risk.text

section Preview

variable {PrivateKey PublicKey : Type} (crypto : Crypto PrivateKey PublicKey)
  (parseNotAfter : String → Option String) (settings : PreviewSettings PrivateKey)

/-- The lists that a preview compares; `loadPreviousPreviewPayload` gives the earlier one. -/
def previewDiff (artifact : Json) (previous current : Option TrustListView) : DiffReport :=
  buildDiffReport parseNotAfter {
    diffId := ""
    generatedAt := ""
    zone := ((artifact.field? "zone").getD (.str "")).toStr
    role := ((artifact.field? "role").getD (.str "")).toStr
    previous := previous
    current := current
    caChainChanged := false
    crlChanged := false
    criticalReasons := [] }

/-- The rest of `build_runtime_preview_for_target`, once both lists are read. -/
def previewOfViews (target : PreviewTarget) (artifact : Json)
    (previous current : Option TrustListView) : Except Failure RuntimePreview := do
  let inputs := settings.inputs target
  let diff := previewDiff parseNotAfter artifact previous current
  let compat ← evaluateRuntimeCompatibility target.pathExists target.targetCfg artifact
  mustWrite target.compatWritten
  let mw := maintenanceWindowStatus inputs.zoneinfo target.name inputs.maintenancePolicy inputs.now
  let approval ← loadActiveApprovalForTarget crypto inputs.approvalSigner inputs.approvalsDir
    target.name (PythonText.lower mw.policy.approvalLevel) inputs.now
  let riskLevel := previewRisk compat.status diff.riskLevel
  mustWrite target.previewWritten
  .ok {
    previewId := target.previewId
    target := target.name
    packageId := .null
    maintenanceWindowStatus := mw
    approvalStatus := if inputs.approvalRequired then approval.2 else "not_required"
    approvalSummary := approval.1
    compatibilityStatus := compat.status
    compatibilityIssues := compat.issues.map .str
    riskLevel := riskLevel
    recommendation :=
      if compat.status = "INCOMPATIBLE" then
        "Resolve compatibility issues before any staged activation."
      else if inputs.approvalRequired ∧ approval.1.isNone then
        "Collect operator approval before maintenance-window enforcement."
      else if mw.status = "blackout" then "Activation denied due to blackout period."
      else if mw.status ≠ "open" then "Schedule maintenance window before activation."
      else "Preview generated. Activation remains blocked in Phase 5.1."
    safeToStage :=
      (compat.status = "COMPATIBLE" ∨ compat.status = "PREVIEW_ONLY") ∧ riskLevel ≠ "CRITICAL"
    artifactZone := (artifact.field? "zone").getD .null
    artifactRole := (artifact.field? "role").getD .null
    artifactVersion := (artifact.field? "version").getD .null
    artifactRevision := (artifact.field? "artifact_revision").getD .null
    wouldAdd := diff.added
    wouldRemove := diff.removed
    wouldKeep := computeWouldKeep parseNotAfter previous current
    wouldChange := diff.changed
    runtimePathsChecked := compat.runtimePathsChecked
    artifactSnapshot := artifact }

/-- `build_runtime_preview_for_target`; `none` for lists that the comparison is not followed on. -/
def buildRuntimePreviewForTarget (target : PreviewTarget) (artifact : Json) (dirs : PreviewDirs) :
    Option (Except Failure RuntimePreview) :=
  match loadPreviousPreviewPayload (dirs target.name) with
  | .error failure => some (.error failure)
  | .ok previous => do
      let previous ← cachedView? previous
      let current ← trustListView? artifact
      return previewOfViews crypto parseNotAfter settings target artifact previous current

/-- The directories with the preview that was written. -/
def PreviewDirs.save (dirs : PreviewDirs) (target : PreviewTarget) (preview : RuntimePreview) :
    PreviewDirs :=
  Function.update dirs target.name
    (some ((dirs target.name).getD [] ++ [(target.previewName, .made preview)]))

variable (x509 : X509 PublicKey) {pin : Pin} (anchor : PinnedAnchor crypto pin)

/-- The artifact of a target. -/
def fetchFor (target : PreviewTarget) : Except Failure Json := do
  let zone ← subscript target.targetCfg "artifact_zone"
  let role ← subscript target.targetCfg "artifact_role"
  fetchVerifiedSignedArtifact crypto x509 settings.signDebug anchor zone.toStr role.toStr
    target.fetched target.canonicalView target.fetchedAt

/-- The loop over the targets; the first exception ends it, the previews before it stay. -/
def previewTargets : List PreviewTarget → PreviewDirs →
    Option (PreviewDirs × Except Failure (List RuntimePreview))
  | [], dirs => some (dirs, .ok [])
  | target :: rest, dirs =>
      match fetchFor crypto settings x509 anchor target with
      | .error failure => some (dirs, .error failure)
      | .ok artifact =>
          match buildRuntimePreviewForTarget crypto parseNotAfter settings target artifact dirs with
          | none => none
          | some (.error failure) => some (dirs, .error failure)
          | some (.ok preview) => do
              let (dirs, previews) ← previewTargets rest (dirs.save target preview)
              return (dirs, previews.map fun previews => preview :: previews)

/-- `run_runtime_preview_once`. -/
def runRuntimePreviewOnce (anchorResponse : Option Json) (targets : List PreviewTarget)
    (dirs : PreviewDirs) : Option (PreviewDirs × Except Failure (List RuntimePreview)) :=
  if settings.requireSignedArtifacts = false then
    some (dirs, .error (.valueError "runtime preview simulation requires signed artifact mode"))
  else if isSet : settings.pinnedAnchorFingerprint = "" then
    some (dirs, .error (.valueError
      "runtime preview simulation requires GDS_AGENT_TRUST_ANCHOR_FINGERPRINT"))
  else
    match openSession crypto x509 ⟨settings.pinnedAnchorFingerprint, isSet⟩ anchorResponse with
    | .error failure => some (dirs, .error failure)
    | .ok anchor => previewTargets crypto parseNotAfter settings x509 anchor targets dirs

/-! ## Gates -/

/-- The gate of a target, fed from its preview. -/
def previewGate (target : PreviewTarget) (preview : RuntimePreview) : ActivationGate :=
  evaluateActivationGate target.name preview.toActivationPreview settings.gate.approvalRequired
    preview.approvalSummary preview.approvalStatus settings.gate.emergencyOverrideMode

/-- The gates of a cycle; `persist_activation_gate` may raise. -/
def previewGates (previews : List (PreviewTarget × RuntimePreview)) :
    Except Failure (List ActivationGate) :=
  previews.mapM fun (target, preview) => do
    mustWrite target.gateWritten
    .ok (previewGate settings target preview)

/-- `run_activation_gate_cycle`. -/
def runActivationGateCycle (anchorResponse : Option Json) (targets : List PreviewTarget)
    (dirs : PreviewDirs) : Option (PreviewDirs × Except Failure (List ActivationGate)) := do
  let (dirs, previews) ← runRuntimePreviewOnce crypto parseNotAfter settings x509 anchorResponse
    targets dirs
  return (dirs, previews.bind fun previews => previewGates settings (targets.zip previews))

/-! ## The plan of one target -/

/-- A plan; `runtime_write_enabled` is always false. -/
structure ActivationPlan where
  planId : String
  target : String
  previewId : String
  artifactVersion : Json
  artifactRevision : Json
  requiredApprovalId : Json
  rollbackBundleId : String
  status : String
  activationBlockedReason : String
  gate : ActivationGate

/-- The status of a plan. -/
def planStatus : GateStatus → String
  | .readyForStaging => "ready_for_staging"
  | .emergencyOverrideReady => "emergency_override_ready"
  | .blockedApprovalMissing => "pending_approval"
  | .blockedWindowClosed => "pending_window"
  | .blockedBlackout => "blocked_blackout"
  | .blockedIncompatible => "blocked_incompatible"

/-- `create_activation_plan_once`, from its preview on; the approval that is required is the one
that was found, and null when there is none. -/
def activationPlan (planId bundleId : String) (rollbackWritten planWritten : Bool)
    (target : PreviewTarget) (preview : RuntimePreview) : Except Failure ActivationPlan := do
  mustWrite rollbackWritten
  let gate := previewGate settings target preview
  mustWrite planWritten
  .ok {
    planId := planId
    target := target.name
    previewId := preview.previewId
    artifactVersion := preview.artifactVersion
    artifactRevision := preview.artifactRevision
    requiredApprovalId := preview.approvalSummary.elim .null ApprovalSummary.approvalId
    rollbackBundleId := bundleId
    status := planStatus gate.status
    activationBlockedReason := gate.blockedReason
    gate := gate }

/-- `previews[0]`. -/
def firstPreview (previews : List RuntimePreview) : Except Failure RuntimePreview :=
  attempt previews.head?

/-- `create_activation_plan_once`. -/
def createActivationPlanOnce (planId bundleId : String) (rollbackWritten planWritten : Bool)
    (anchorResponse : Option Json) (target : PreviewTarget) (dirs : PreviewDirs) :
    Option (PreviewDirs × Except Failure ActivationPlan) := do
  let (dirs, previews) ← runRuntimePreviewOnce crypto parseNotAfter settings x509 anchorResponse
    [target] dirs
  return (dirs, (previews.bind firstPreview).bind
    (activationPlan settings planId bundleId rollbackWritten planWritten target))

/-- `stage-activation-dry-run` up to the staging: the artifact to stage, unless the status of the
gate begins with "blocked". -/
def dryRunArtifact (anchorResponse : Option Json) (target : PreviewTarget) (dirs : PreviewDirs) :
    Option (PreviewDirs × Except Failure (Option Json)) := do
  let (dirs, previews) ← runRuntimePreviewOnce crypto parseNotAfter settings x509 anchorResponse
    [target] dirs
  return (dirs, (previews.bind firstPreview).map fun preview =>
    match (previewGate settings target preview).status with
    | .readyForStaging | .emergencyOverrideReady => some preview.artifactSnapshot
    | _ => none)

end Preview

end OpcuaGds.Agent
