import OpcuaGds.Agent.ActivationGate
import OpcuaGds.Agent.StageWrites

/-! # The trust-only apply of a component

`component_pull_trust_once` caches what GDS answers, `_apply_component_trust_only` takes
the artifact out of the cache, checks it and writes it into the runtime PKI of the target.
-/

namespace OpcuaGds.Agent

open Gds (Crypto)

/-! ## The cached material -/

/-- `str(target_cfg.get(key, default))`. -/
def configText (targetCfg : Json) (key default : String) : String :=
  ((targetCfg.field? key).getD (.str default)).toStr

/-- `document.get(key)`, or an empty dictionary in place of anything else. -/
def dictField (document : Json) (key : String) : Json :=
  match document.field? key with
  | some (.obj fields) => .obj fields
  | _ => .obj []

/-- `_component_trust_artifact_from_cache`: the artifact and its signature. -/
def componentTrustArtifactFromCache (trustPayload : Json) : Except Failure (Json × Json) := do
  let _ ← attempt (trustPayload.get? "trust_material" .null)
  let material := dictField trustPayload "trust_material"
  let artifact := dictField material "artifact"
  let signature := dictField material "artifact_signature"
  ensure (artifact.truthy = true) "component_trust_artifact_missing"
  ensure (signature.truthy = true) "component_trust_artifact_signature_missing"
  .ok (artifact, signature)

/-- `artifact.get("crl_metadata")`, or an empty dictionary. -/
def crlMetadata (artifact : Json) : Json := dictField artifact "crl_metadata"

/-- `value is True`. -/
def isTrue : Option Json → Bool
  | some (.bool value) => value
  | _ => false

/-- Whether the artifact says that the freshness of its CRLs was verified. -/
def freshnessVerified (artifact : Json) : Bool :=
  isTrue ((crlMetadata artifact).field? "crl_freshness_verified")

/-- The freshness that GDS vouches for, demanded in strict mode. -/
def checkCrlFreshness (strictFreshness : Bool) (artifact : Json) : Except Failure Unit :=
  ensure (strictFreshness = true → freshnessVerified artifact = true)
    "blocked_crl_freshness_not_verified"

/-- `_runtime_certificate_path`, relative to the runtime root. -/
def runtimeCertificatePath (target : String) : Except Failure String :=
  if target = "fuxa" then .ok "own/certs/client_certificate.pem"
  else if target = "opcua-server" then .ok "ApplCerts/own/certs/server.der"
  else if target = "dmz-gateway-client" then .ok "own/certs/client.der"
  else if target = "dmz-gateway-server" then .ok "own/certs/server.der"
  else .error (.valueError "target_not_enabled_for_renewal")

/-! ## The gate -/

def GateStatus.name : GateStatus → String
  | .readyForStaging => "ready_for_staging"
  | .blockedIncompatible => "blocked_incompatible"
  | .blockedApprovalMissing => "blocked_approval_missing"
  | .emergencyOverrideReady => "emergency_override_ready"
  | .blockedBlackout => "blocked_blackout"
  | .blockedWindowClosed => "blocked_window_closed"

/-- `status.startswith("blocked")`. -/
def GateStatus.isBlocked (status : GateStatus) : Bool :=
  "blocked".toList.isPrefixOf status.name.toList

/-- What one call of `_apply_component_trust_only` is given and finds: the target, the answer
of GDS about its trust anchor, the inputs of the gate, whether the preview file can be
written, and what surrounds the writer. -/
structure ComponentApply (PrivateKey : Type) where
  targetCfg : Json
  anchorResponse : Option Json
  gateInputs : GateInputs PrivateKey
  previewId : String
  previewWritten : Bool
  stage : StageEnvironment
  uuids : Nat → String

namespace ComponentApply

variable {PrivateKey : Type} (request : ComponentApply PrivateKey)

def target : String := configText request.targetCfg "target" ""

def zone : String := configText request.targetCfg "artifact_zone" ""

def role : String := configText request.targetCfg "artifact_role" ""

def runtimeRoot : String := configText request.targetCfg "runtime_root" ""

def layout : StageLayout := targetStageLayout request.targetCfg

end ComponentApply

section Apply

variable {PrivateKey PublicKey : Type} (crypto : Crypto PrivateKey PublicKey)
  (x509 : X509 PublicKey) (pin : Pin)

/-- `_component_activation_gate`. There is no package: the preview counts as compatible, and
it makes no recommendation. -/
def componentActivationGate (request : ComponentApply PrivateKey) :
    Except Failure ActivationGate := do
  let inputs := request.gateInputs
  let mw := maintenanceWindowStatus inputs.zoneinfo request.target inputs.maintenancePolicy
    inputs.now
  let approval ← loadActiveApprovalForTarget crypto inputs.approvalSigner inputs.approvalsDir
    request.target (PythonText.lower mw.policy.approvalLevel) inputs.now
  let preview : ActivationPreview := {
    previewId := request.previewId
    target := request.target
    packageId := .null
    maintenanceWindowStatus := mw
    approvalStatus := if inputs.approvalRequired then approval.2 else "not_required"
    approvalSummary := approval.1
    compatibilityStatus := "COMPATIBLE"
    compatibilityIssues := []
    riskLevel := "LOW"
    recommendation := ""
    safeToStage := false }
  attempt (if request.previewWritten then some () else none)
  .ok (evaluateActivationGate request.target preview inputs.approvalRequired approval.1
    preview.approvalStatus inputs.emergencyOverrideMode)

/-- What is settled before the first write. -/
structure ComponentClearance where
  artifact : Json
  anchor : PinnedAnchor crypto pin
  artifactSha256 : String
  verifierPayloadLength : Nat
  gate : ActivationGate
  certificatePath : String

/-- `_apply_component_trust_only` up to the first write. -/
def clearComponentTrust (request : ComponentApply PrivateKey) (cached : Option Json) :
    Except Failure (ComponentClearance crypto pin) := do
  let trustPayload ← attempt cached
  let (artifact, signature) ← componentTrustArtifactFromCache trustPayload
  let anchor ← openSession crypto x509 pin request.anchorResponse
  let (digest, length) ← verifySignedArtifact crypto artifact signature request.zone request.role
    anchor.publicKey anchor.fingerprint
  checkCrlFreshness request.stage.strictFreshness artifact
  let gate ← componentActivationGate crypto request
  ensure (gate.status.isBlocked = false) (gate.status.name ++ ":" ++ gate.blockedReason)
  let certificatePath ← runtimeCertificatePath request.target
  .ok ⟨artifact, anchor, digest, length, gate, certificatePath⟩

/-- The fields of the receipt that are not constants. -/
structure ComponentReceipt where
  target : String
  applicationUri : Json
  artifactSha256 : String
  artifactRevision : Json
  rootCrlNextUpdate : Json
  intermediateCrlNextUpdate : Json
  crlFreshnessVerified : Bool
  trustAnchorFingerprintSha256 : String
  verifierPayloadLength : Nat
  filesWritten : List String
  approvalStatus : String
  gateStatus : String

def componentReceipt (request : ComponentApply PrivateKey) (cached : Option Json)
    (clearance : ComponentClearance crypto pin) (written : FileTree) : ComponentReceipt :=
  let metadata := crlMetadata clearance.artifact
  let get (document : Json) (key : String) : Json := (document.field? key).getD .null
  { target := request.target
    applicationUri := orElse (get (cached.getD .null) "application_uri")
      (get request.targetCfg "application_uri")
    artifactSha256 := clearance.artifactSha256
    artifactRevision := get clearance.artifact "artifact_revision"
    rootCrlNextUpdate := get metadata "root_crl_next_update"
    intermediateCrlNextUpdate := get metadata "intermediate_crl_next_update"
    crlFreshnessVerified := (get metadata "crl_freshness_verified").truthy
    trustAnchorFingerprintSha256 := clearance.anchor.fingerprint
    verifierPayloadLength := clearance.verifierPayloadLength
    filesWritten := written.map Prod.fst
    approvalStatus := clearance.gate.approvalStatus
    gateStatus := clearance.gate.status.name }

/-- Whether the own certificate had a file before and after, with different digests. -/
def ownCertificateChanged (path : String) (before after : FileTree) : Bool :=
  match before.read path, after.read path with
  | some old, some new => crypto.sha256Hex old != crypto.sha256Hex new
  | _, _ => false

/-- How a call ends: refused before the first write, or with what the writer did. -/
inductive ComponentOutcome where
  | refused (failure : Failure)
  | wrote (artifact : Json) (step : StageStep) (result : Except Failure ComponentReceipt)

/-- `_apply_component_trust_only`, on the files under the runtime root. -/
def applyComponentTrustOnly (request : ComponentApply PrivateKey) (cached : Option Json)
    (tree : FileTree) : ComponentOutcome :=
  match clearComponentTrust crypto x509 pin request cached with
  | .error failure => .refused failure
  | .ok clearance =>
      let step := writeTargetStageMaterial request.stage request.layout request.uuids
        clearance.artifact tree
      .wrote clearance.artifact step
        (match step with
          | .error _ => .error .raised
          | .ok state =>
              if ownCertificateChanged crypto clearance.certificatePath tree state.tree then
                .error .raised
              else .ok (componentReceipt crypto pin request cached clearance state.log))

/-! ## Runs -/

/-- The cache of trust material by target, the files under each runtime root, and the
artifacts that an apply has written for a target, the latest first. -/
structure ComponentState where
  cache : String → Option Json
  runtime : String → FileTree
  applied : String → List Json

/-- A pull with the answer of GDS, if one was stored, or an apply. -/
inductive ComponentEvent (PrivateKey : Type) where
  | pull (targetCfg : Json) (response : Option Json)
  | applyTrust (request : ComponentApply PrivateKey)

/-- An agent with an empty cache. -/
def ComponentState.initial (runtime : String → FileTree) : ComponentState where
  cache := fun _ => none
  runtime := runtime
  applied := fun _ => []

/-- `component_pull_trust_once`: what is stored, is stored unseen. -/
def componentPullTrustOnce (targetCfg : Json) (response : Option Json) (state : ComponentState) :
    ComponentState :=
  match response with
  | none => state
  | some payload =>
      { state with
        cache := Function.update state.cache (configText targetCfg "target" "unknown")
          (some payload) }

/-- Whether a call of the writer changed any file. -/
def StageStep.Touches (tree : FileTree) (step : StageStep) : Prop :=
  step.log ≠ [] ∨ step.tree ≠ tree

instance (tree : FileTree) (step : StageStep) : Decidable (step.Touches tree) :=
  inferInstanceAs (Decidable (_ ∨ _))

/-- The artifact that an apply writes into the runtime, with the files after it. -/
def ComponentState.writes (state : ComponentState) (request : ComponentApply PrivateKey) :
    Option (Json × FileTree) :=
  let tree := state.runtime request.runtimeRoot
  match applyComponentTrustOnly crypto x509 pin request (state.cache request.target) tree with
  | .refused _ => none
  | .wrote artifact step _ => if step.Touches tree then some (artifact, step.tree) else none

def ComponentState.step (state : ComponentState) :
    ComponentEvent PrivateKey → Option ComponentState
  | .pull targetCfg response => some (componentPullTrustOnce targetCfg response state)
  | .applyTrust request =>
      match state.writes crypto x509 pin request with
      | none => some state
      | some (artifact, tree) => some {
          cache := state.cache
          runtime := Function.update state.runtime request.runtimeRoot tree
          applied := Function.update state.applied request.target
            (artifact :: state.applied request.target) }

end Apply

end OpcuaGds.Agent
