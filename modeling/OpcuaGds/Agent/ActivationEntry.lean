import OpcuaGds.Agent.ComponentManifest
import OpcuaGds.Agent.ComponentTrust
import OpcuaGds.Agent.PlanApprovals

/-! # Entry points of an activation

The checks with which `--activate-package`, a runtime renewal and the certificate apply of a
component decide whether a runtime may be changed, and when the three decide alike.
-/

namespace OpcuaGds.Agent

open Gds (Crypto)

/-- `GDS_AGENT_ACTIVATION_MERGE_POLICY`; any other value is read as the default. -/
inductive MergePolicy where
  | conservativeMerge
  | strictReplace
  deriving DecidableEq, Repr

/-- The settings of the agent that the entry points read. -/
structure RuntimeSettings where
  activationTargets : List String
  writeEnabled : Bool
  fuxaMountMode : String
  opcuaServerMountMode : String
  dmzGatewayMountMode : String
  mergePolicy : MergePolicy
  previewEnabled : Bool
  renewalEnabled : Bool
  renewalTargets : List String
  pinnedAnchorFingerprint : String

/-- One attempt to activate a package: its manifest and signature, both dictionaries, the
answer of GDS about its trust anchor and the inputs of the gate. -/
structure ActivationAttempt (PrivateKey : Type) where
  settings : RuntimeSettings
  target : String
  manifest : List (String × Json)
  signature : List (String × Json)
  anchorResponse : Option Json
  gateInputs : GateInputs PrivateKey
  previewId : String

/-- The targets of package activation and renewal. -/
def isLiveTarget (target : String) : Bool := target == "fuxa" || target == "opcua-server"

namespace RuntimeSettings

variable (settings : RuntimeSettings)

/-- The mount mode of a live target. -/
def liveMountMode (target : String) : String :=
  if target = "opcua-server" then settings.opcuaServerMountMode else settings.fuxaMountMode

/-- `_mount_mode_for_component_target`. -/
def mountModeForComponentTarget (target : String) : String :=
  if target = "opcua-server" then settings.opcuaServerMountMode
  else if target = "fuxa" then settings.fuxaMountMode
  else if isGatewayTarget target then settings.dmzGatewayMountMode
  else "ro"

end RuntimeSettings

/-- The failure code of a target that is not enabled. -/
def notEnabledCode (target : String) : String :=
  if target = "opcua-server" then "target_not_enabled_for_phase_8_2"
  else "target_not_enabled_for_phase_8_1"

/-- `str((manifest.get("compatibility") or {}).get("status", "UNKNOWN"))`. -/
def packageCompatibilityStatus (manifest : Json) : Except Failure String := do
  let compatibility := orElse ((manifest.field? "compatibility").getD .null) (.obj [])
  let status ← attempt (compatibility.get? "status" (.str "UNKNOWN"))
  .ok status.toStr

namespace ActivationAttempt

variable {PrivateKey PublicKey : Type} (crypto : Crypto PrivateKey PublicKey)
  (x509 : X509 PublicKey) (request : ActivationAttempt PrivateKey)

/-- The trust anchor and the signed manifest are checked. -/
def verifyPackage (manifest : Json) : Except Failure String := do
  let anchor ← loadTrustAnchor request.anchorResponse
  let (trustAnchorPub, trustAnchorFp) ← verifyTrustAnchorFingerprint crypto x509 anchor
    request.settings.pinnedAnchorFingerprint
  verifyCertificatePackageManifest crypto manifest (.obj request.signature) trustAnchorPub
    trustAnchorFp

def evaluateGate (manifest : Json) : Except Failure ActivationGate :=
  packageActivationGate crypto request.gateInputs request.target manifest request.previewId

/-- `--activate-package`, up to the activation. -/
def activatePackage : Except Failure Unit := do
  let settings := request.settings
  ensure (isLiveTarget request.target = true) "target_not_enabled_for_live_activation"
  ensure (request.target ∈ settings.activationTargets) (notEnabledCode request.target)
  ensure (settings.writeEnabled = true) "runtime_write_disabled"
  ensure (settings.liveMountMode request.target = "rw") "runtime_mount_not_writable"
  ensure (settings.mergePolicy = .conservativeMerge)
    "strict_replace_not_allowed_for_live_activation"
  ensure (settings.previewEnabled = true) "runtime_preview_disabled"
  let compatibilityStatus ← packageCompatibilityStatus (.obj request.manifest)
  ensure (compatibilityStatus = "COMPATIBLE") "incompatible_package"
  let _ ← request.verifyPackage crypto x509 (.obj request.manifest)
  let gate ← request.evaluateGate crypto (.obj request.manifest)
  ensure (gate.blockedReason = "") (gate.status.name ++ ":" ++ gate.blockedReason)

/-- `--renew-runtime-certificate` with the renewed package, up to the activation. -/
def renewRuntimeCertificate : Except Failure Unit := do
  let settings := request.settings
  ensure (isLiveTarget request.target = true) "target_not_enabled_for_renewal"
  ensure (settings.renewalEnabled = true) "renewal_disabled"
  ensure (request.target ∈ settings.renewalTargets) "target_not_enabled_for_renewal"
  ensure (settings.pinnedAnchorFingerprint ≠ "")
    "--renew-runtime-certificate requires GDS_AGENT_TRUST_ANCHOR_FINGERPRINT"
  let gate ← request.evaluateGate crypto (.obj request.manifest)
  ensure (gate.status.isBlocked = false) (gate.status.name ++ ":" ++ gate.blockedReason)
  ensure (request.target ∈ settings.activationTargets) (notEnabledCode request.target)
  ensure (settings.writeEnabled = true) "runtime_write_disabled"
  ensure (settings.liveMountMode request.target = "rw") "runtime_mount_not_writable"
  let _ ← request.verifyPackage crypto x509 (.obj request.manifest)
  .ok ()

/-- The result of the enrollment that a component apply reads. -/
def enrollment : Json :=
  .obj [("manifest", .obj request.manifest), ("signature", .obj request.signature)]

/-- `component_apply_trust_once` with the certificate, up to the activation. -/
def componentApplyCertificate : Except Failure Unit := do
  let settings := request.settings
  ensure (request.target ∈ settings.activationTargets) "target_not_enabled_for_component_apply"
  ensure (settings.writeEnabled = true) "blocked_runtime_write_disabled"
  ensure (settings.mountModeForComponentTarget request.target = "rw")
    "runtime_mount_not_writable"
  ensure (settings.mergePolicy = .conservativeMerge)
    "strict_replace_not_allowed_for_component_apply"
  ensure (settings.pinnedAnchorFingerprint ≠ "") "trust_anchor_fingerprint_required"
  let manifest ← componentManifestForTarget request.target request.enrollment
  let _ ← request.verifyPackage crypto x509 manifest
  let gate ← request.evaluateGate crypto manifest
  ensure (gate.status.isBlocked = false) (gate.status.name ++ ":" ++ gate.blockedReason)

/-- The three entry points agree on whether the activation may proceed. -/
def EntryPointsAgree : Prop :=
  (request.activatePackage crypto x509 = .ok () ↔
      request.renewRuntimeCertificate crypto x509 = .ok ()) ∧
    (request.renewRuntimeCertificate crypto x509 = .ok () ↔
      request.componentApplyCertificate crypto x509 = .ok ())

end ActivationAttempt

/-! ## When the gate lets an activation through -/

section Gate

variable {PrivateKey PublicKey : Type} {inputs : GateInputs PrivateKey} {target : String}
  {manifest : Json} {approvals : List Json}

/-- The gate is open, or an override opens it. -/
def GateInputs.Opens (inputs : GateInputs PrivateKey) (target : String) (manifest : Json)
    (approvals : List Json) : Prop :=
  ManifestCompatible manifest ∧ inputs.Given target approvals ∧
    ((inputs.windowStatus target).Shut →
      inputs.AdmitsOverride target ∧ AsksOverride (inputs.approvalLevel target) approvals)

theorem GateInputs.statusFor_of_incompatible (held : ¬ ManifestCompatible manifest) :
    inputs.statusFor target manifest approvals = .blockedIncompatible := if_pos held

theorem GateInputs.shutStatus_isBlocked : (inputs.shutStatus target).isBlocked = true := by
  unfold shutStatus
  split <;> rfl

theorem GateInputs.opens_iff :
    (inputs.statusFor target manifest approvals).isBlocked = false ↔
      inputs.Opens target manifest approvals := by
  by_cases compatible : ManifestCompatible manifest
  · obtain ⟨missing, ready, closed⟩ := statusFor_of_compatible inputs target compatible approvals
    by_cases given : inputs.Given target approvals
    · by_cases shut : (inputs.windowStatus target).Shut
      · by_cases override : inputs.AdmitsOverride target ∧
            AsksOverride (inputs.approvalLevel target) approvals
        · rw [(closed given shut).1 override]
          exact iff_of_true rfl ⟨compatible, given, fun _ => override⟩
        · rw [(closed given shut).2 override, shutStatus_isBlocked]
          exact iff_of_false nofun fun opens => override (opens.2.2 shut)
      · rw [ready given shut]
        exact iff_of_true rfl ⟨compatible, given, fun isShut => absurd isShut shut⟩
    · rw [missing given]
      exact iff_of_false (fun open_ => Bool.noConfusion open_) fun opens => given opens.2.1
  · rw [statusFor_of_incompatible compatible]
    exact iff_of_false (fun open_ => Bool.noConfusion open_) fun opens => compatible opens.1

theorem GateInputs.statusFor_eq_ready_iff :
    inputs.statusFor target manifest approvals = .readyForStaging ↔
      inputs.Opens target manifest approvals ∧ ¬ (inputs.windowStatus target).Shut := by
  constructor
  · intro ready
    obtain ⟨compatible, given, notShut⟩ := statusFor_eq_ready ready
    refine ⟨opens_iff.mp ?_, notShut⟩
    rw [ready]
    rfl
  · intro ⟨⟨compatible, given, _⟩, notShut⟩
    exact (statusFor_of_compatible inputs target compatible approvals).2.1 given notShut

theorem summarizeApprovals_text_ne_empty (requiredLevel : String) (approvals : List Json) :
    (summarizeApprovals requiredLevel approvals).2 ≠ "" := by
  unfold summarizeApprovals
  split
  · dsimp only
    split
    · exact (by decide : "approved_dual" ≠ "")
    · exact (by decide : "required_missing_dual" ≠ "")
  · split
    · exact (by decide : "approved_single" ≠ "")
    · exact (by decide : "required_missing_single" ≠ "")

/-- There is a reason exactly when the gate is not simply ready. -/
theorem gateDecision_reason {preview : ActivationPreview} {approvalRequired : Bool}
    {approvalSummary : Option ApprovalSummary} {approvalStatus : String}
    {emergencyOverrideMode : Bool} (named : approvalStatus ≠ "") :
    (gateDecision preview approvalRequired approvalSummary approvalStatus
        emergencyOverrideMode).2 = "" ↔
      (gateDecision preview approvalRequired approvalSummary approvalStatus
        emergencyOverrideMode).1 = .readyForStaging := by
  unfold gateDecision
  dsimp only
  split
  · exact iff_of_false (by decide) nofun
  · split
    · exact iff_of_false named nofun
    · split
      · split <;> exact iff_of_false (by decide) nofun
      · split
        · split <;> exact iff_of_false (by decide) nofun
        · exact iff_of_true rfl rfl

variable (crypto : Crypto PrivateKey PublicKey) {previewId : String}

theorem packageActivationGate_reason {gate : ActivationGate}
    (evaluated : packageActivationGate crypto inputs target manifest previewId = .ok gate) :
    gate.blockedReason = "" ↔ gate.status = .readyForStaging := by
  simp only [packageActivationGate, buildPackageActivationPreview, loadActiveApprovalForTarget,
    Fallible.bind_eq_ok, Except.ok.injEq] at evaluated
  obtain ⟨preview, ⟨approval, ⟨approvals, loaded, rfl⟩, rfl⟩, rfl⟩ := evaluated
  apply gateDecision_reason
  dsimp only
  split
  · exact summarizeApprovals_text_ne_empty _ _
  · decide

/-- A gate that was evaluated has the status that the counted approvals give. -/
theorem packageActivationGate_eq_ok {gate : ActivationGate}
    (evaluated : packageActivationGate crypto inputs target manifest previewId = .ok gate) :
    inputs.approvalsDir.documents.all Json.isObject = true ∧
      gate.status = inputs.statusFor target manifest (inputs.counted crypto target) := by
  have verdict := GateInputs.verdict_eq crypto inputs target manifest previewId
  rw [GateInputs.verdict, evaluated] at verdict
  split at verdict
  · rename_i readable
    exact ⟨readable, Except.ok.inj verdict⟩
  · cases verdict

theorem packageActivationGate_of_readable
    (readable : inputs.approvalsDir.documents.all Json.isObject = true) :
    ∃ gate, packageActivationGate crypto inputs target manifest previewId = .ok gate ∧
      gate.status = inputs.statusFor target manifest (inputs.counted crypto target) := by
  have verdict := GateInputs.verdict_eq crypto inputs target manifest previewId
  rw [if_pos readable] at verdict
  exact exists_of_map_eq_ok verdict

end Gate

/-! ## What each entry point demands -/

namespace ActivationAttempt

variable {PrivateKey PublicKey : Type} (crypto : Crypto PrivateKey PublicKey)
  (x509 : X509 PublicKey) (request : ActivationAttempt PrivateKey)

/-- The target is enabled for activation, and its runtime may be written. -/
def Enabled : Prop :=
  request.target ∈ request.settings.activationTargets ∧ request.settings.writeEnabled = true ∧
    request.settings.mountModeForComponentTarget request.target = "rw"

/-- What every entry point demands of a manifest: an enabled target, a signature that is
verified, and a gate that is open or opened by an override. -/
def Admitted (manifest : Json) : Prop :=
  request.Enabled ∧ (∃ digest, request.verifyPackage crypto x509 manifest = .ok digest) ∧
    request.gateInputs.approvalsDir.documents.all Json.isObject = true ∧
    request.gateInputs.Opens request.target manifest
      (request.gateInputs.counted crypto request.target)

/-- What `--activate-package` demands besides. -/
def ActivatesPackages : Prop :=
  request.settings.mergePolicy = .conservativeMerge ∧ request.settings.previewEnabled = true ∧
    packageCompatibilityStatus (.obj request.manifest) = .ok "COMPATIBLE" ∧
    ¬ (request.gateInputs.windowStatus request.target).Shut

/-- What a renewal demands besides. -/
def Renews : Prop :=
  request.settings.renewalEnabled = true ∧ request.target ∈ request.settings.renewalTargets ∧
    request.settings.pinnedAnchorFingerprint ≠ ""

/-- What a component apply demands besides. -/
def AppliesComponents : Prop :=
  request.settings.mergePolicy = .conservativeMerge ∧
    request.settings.pinnedAnchorFingerprint ≠ ""

variable {crypto x509 request}

theorem liveMountMode_eq {target : String} (live : isLiveTarget target = true)
    (settings : RuntimeSettings) :
    settings.liveMountMode target = settings.mountModeForComponentTarget target := by
  rw [isLiveTarget, Bool.or_eq_true, beq_iff_eq, beq_iff_eq] at live
  rcases live with rfl | rfl <;> rfl

/-- A gate that does not block, as each entry point asks for it. -/
theorem evaluateGate_open_iff {manifest : Json} :
    (∃ gate, request.evaluateGate crypto manifest = .ok gate ∧
        gate.status.isBlocked = false) ↔
      request.gateInputs.approvalsDir.documents.all Json.isObject = true ∧
        request.gateInputs.Opens request.target manifest
          (request.gateInputs.counted crypto request.target) := by
  constructor
  · intro ⟨gate, evaluated, open_⟩
    obtain ⟨readable, status⟩ := packageActivationGate_eq_ok crypto evaluated
    exact ⟨readable, GateInputs.opens_iff.mp (status ▸ open_)⟩
  · intro ⟨readable, opens⟩
    obtain ⟨gate, evaluated, status⟩ := packageActivationGate_of_readable crypto readable
    exact ⟨gate, evaluated, status ▸ GateInputs.opens_iff.mpr opens⟩

theorem evaluateGate_ready_iff {manifest : Json} :
    (∃ gate, request.evaluateGate crypto manifest = .ok gate ∧ gate.blockedReason = "") ↔
      request.gateInputs.approvalsDir.documents.all Json.isObject = true ∧
        request.gateInputs.Opens request.target manifest
          (request.gateInputs.counted crypto request.target) ∧
        ¬ (request.gateInputs.windowStatus request.target).Shut := by
  constructor
  · intro ⟨gate, evaluated, unblocked⟩
    obtain ⟨readable, status⟩ := packageActivationGate_eq_ok crypto evaluated
    have ready := (packageActivationGate_reason crypto evaluated).mp unblocked
    exact ⟨readable, GateInputs.statusFor_eq_ready_iff.mp (status ▸ ready)⟩
  · intro ⟨readable, open_⟩
    obtain ⟨gate, evaluated, status⟩ := packageActivationGate_of_readable crypto readable
    refine ⟨gate, evaluated, (packageActivationGate_reason crypto evaluated).mpr ?_⟩
    exact status.trans (GateInputs.statusFor_eq_ready_iff.mpr open_)

theorem activatePackage_eq_ok :
    request.activatePackage crypto x509 = .ok () ↔
      isLiveTarget request.target = true ∧
        request.Admitted crypto x509 (.obj request.manifest) ∧ request.ActivatesPackages := by
  simp only [activatePackage, Fallible.bind_eq_ok, Fallible.exists_check, ensure_eq_ok]
  constructor
  · intro ⟨live, enabled, written, mounted, merges, previews, status, found, compatible, digest,
      verified, gate⟩
    obtain ⟨readable, opens, notShut⟩ := evaluateGate_ready_iff.mp gate
    rw [liveMountMode_eq live] at mounted
    exact ⟨live, ⟨⟨enabled, written, mounted⟩, ⟨digest, verified⟩, readable, opens⟩, merges,
      previews, compatible ▸ found, notShut⟩
  · intro ⟨live, ⟨⟨enabled, written, mounted⟩, ⟨digest, verified⟩, readable, opens⟩, merges,
      previews, compatible, notShut⟩
    rw [← liveMountMode_eq live] at mounted
    exact ⟨live, enabled, written, mounted, merges, previews, _, compatible, rfl, digest,
      verified, evaluateGate_ready_iff.mpr ⟨readable, opens, notShut⟩⟩

theorem renewRuntimeCertificate_eq_ok :
    request.renewRuntimeCertificate crypto x509 = .ok () ↔
      isLiveTarget request.target = true ∧
        request.Admitted crypto x509 (.obj request.manifest) ∧ request.Renews := by
  simp only [renewRuntimeCertificate, Fallible.bind_eq_ok, Fallible.exists_check, ensure_eq_ok]
  constructor
  · intro ⟨live, renewal, named, pinned, gate, evaluated, open_, enabled, written, mounted,
      digest, verified, _⟩
    rw [liveMountMode_eq live] at mounted
    exact ⟨live, ⟨⟨enabled, written, mounted⟩, ⟨digest, verified⟩,
      evaluateGate_open_iff.mp ⟨gate, evaluated, open_⟩⟩, renewal, named, pinned⟩
  · intro ⟨live, ⟨⟨enabled, written, mounted⟩, ⟨digest, verified⟩, opens⟩, renewal, named,
      pinned⟩
    rw [← liveMountMode_eq live] at mounted
    obtain ⟨gate, evaluated, open_⟩ := evaluateGate_open_iff.mpr opens
    exact ⟨live, renewal, named, pinned, gate, evaluated, open_, enabled, written, mounted,
      digest, verified, trivial⟩

theorem componentApplyCertificate_eq_ok :
    request.componentApplyCertificate crypto x509 = .ok () ↔
      request.AppliesComponents ∧
        ∃ manifest, componentManifestForTarget request.target request.enrollment =
          .ok manifest ∧ request.Admitted crypto x509 manifest := by
  simp only [componentApplyCertificate, Fallible.bind_eq_ok, Fallible.exists_check, ensure_eq_ok]
  constructor
  · intro ⟨enabled, written, mounted, merges, pinned, manifest, built, digest, verified, gate⟩
    exact ⟨⟨merges, pinned⟩, manifest, built, ⟨enabled, written, mounted⟩, ⟨digest, verified⟩,
      evaluateGate_open_iff.mp gate⟩
  · intro ⟨⟨merges, pinned⟩, manifest, built, ⟨enabled, written, mounted⟩, ⟨digest, verified⟩,
      opens⟩
    exact ⟨enabled, written, mounted, merges, pinned, manifest, built, digest, verified,
      evaluateGate_open_iff.mpr opens⟩

/-! ## When they agree -/

/-- A manifest without fields is not verified. -/
theorem ne_nil_of_verified {digest : String}
    (verified : request.verifyPackage crypto x509 (.obj request.manifest) = .ok digest) :
    request.manifest ≠ [] := by
  intro empty
  simp only [verifyPackage, Fallible.bind_eq_ok] at verified
  obtain ⟨anchor, _, key, _, verified⟩ := verified
  have header := ((verifyCertificatePackageManifest_eq_ok crypto).mp verified).1
  rw [empty, checkPackageHeader_eq_ok] at header
  cases header.1

theorem componentManifest_of_live (live : isLiveTarget request.target = true)
    (filled : request.manifest ≠ []) :
    componentManifestForTarget request.target request.enrollment =
      .ok (.obj request.manifest) := by
  apply componentManifestForTarget_other _ rfl filled
  rw [isLiveTarget, Bool.or_eq_true, beq_iff_eq, beq_iff_eq] at live
  rcases live with named | named <;> rw [named] <;> decide

theorem ne_nil_of_componentManifest {manifest : Json}
    (built : componentManifestForTarget request.target request.enrollment = .ok manifest) :
    request.manifest ≠ [] := by
  unfold componentManifestForTarget at built
  rw [Fallible.bind_eq_ok] at built
  obtain ⟨_, checked, _⟩ := built
  exact ensure_eq_ok.mp checked

/-- A live target is applied with the manifest as it is. -/
theorem componentApply_of_live (live : isLiveTarget request.target = true) :
    (request.AppliesComponents ∧
        ∃ manifest, componentManifestForTarget request.target request.enrollment =
          .ok manifest ∧ request.Admitted crypto x509 manifest) ↔
      request.Admitted crypto x509 (.obj request.manifest) ∧ request.AppliesComponents := by
  constructor
  · intro ⟨applies, manifest, built, admitted⟩
    rw [componentManifest_of_live live (ne_nil_of_componentManifest built)] at built
    cases built
    exact ⟨admitted, applies⟩
  · intro ⟨admitted, applies⟩
    obtain ⟨_, verified⟩ := admitted.2.1
    exact ⟨applies, _, componentManifest_of_live live (ne_nil_of_verified verified), admitted⟩

/-- The entry points agree exactly when an attempt that meets what all of them demand meets
what each of them demands besides, or nothing of that: for a target of the gateway, where
the other two refuse, when the component apply refuses as well. -/
theorem entry_points_agree_iff :
    request.EntryPointsAgree crypto x509 ↔
      (isLiveTarget request.target = true →
        request.Admitted crypto x509 (.obj request.manifest) →
          (request.ActivatesPackages ↔ request.Renews) ∧
            (request.Renews ↔ request.AppliesComponents)) ∧
        (isLiveTarget request.target = false → request.AppliesComponents →
          ∀ manifest, componentManifestForTarget request.target request.enrollment =
            .ok manifest → ¬ request.Admitted crypto x509 manifest) := by
  rw [EntryPointsAgree, activatePackage_eq_ok, renewRuntimeCertificate_eq_ok,
    componentApplyCertificate_eq_ok]
  cases live : isLiveTarget request.target with
  | false =>
      constructor
      · intro ⟨_, refuses⟩
        refine ⟨nofun, fun _ applies manifest built admitted => ?_⟩
        exact Bool.false_ne_true (refuses.mpr ⟨applies, manifest, built, admitted⟩).1
      · intro ⟨_, refuses⟩
        refine ⟨iff_of_false nofun nofun, iff_of_false nofun ?_⟩
        exact fun ⟨applies, manifest, built, admitted⟩ =>
          refuses rfl applies manifest built admitted
  | true =>
      rw [componentApply_of_live live]
      by_cases admitted : request.Admitted crypto x509 (.obj request.manifest)
      · simp only [admitted, true_and, forall_const, Bool.true_eq_false, false_implies, and_true]
      · simp only [admitted, false_and, and_false, false_implies, implies_true,
          Bool.true_eq_false, and_self]

end ActivationAttempt

/-! An agent with the merge policy `strict_replace`, and a compatible package for `fuxa`. -/

/-- Every PEM text is the one public key. -/
def replaceX509 : X509 Unit where
  loadPemPublicKey := fun _ => some (some ())
  loadPemCertificate := fun _ => none
  loadDerCrl := fun _ => none

def replaceAnchor : Json :=
  .obj [("key_id", .str "key"), ("algorithm", .str "ed25519"), ("public_key_pem", .str "pem"),
    ("fingerprint_sha256",
      .str (Gds.digestCrypto.sha256Hex (Gds.digestCrypto.publicKeyDer ())))]

def replaceAttempt : ActivationAttempt Unit where
  settings := {
    activationTargets := ["fuxa"]
    writeEnabled := true
    fuxaMountMode := "rw"
    opcuaServerMountMode := "none"
    dmzGatewayMountMode := "ro"
    mergePolicy := .strictReplace
    previewEnabled := true
    renewalEnabled := true
    renewalTargets := ["fuxa"]
    pinnedAnchorFingerprint :=
      Gds.digestCrypto.sha256Hex (Gds.digestCrypto.publicKeyDer ()) }
  target := "fuxa"
  manifest := dictOrEmpty (some exampleManifest)
  signature := dictOrEmpty (some exampleRecord)
  anchorResponse := some replaceAnchor
  gateInputs := {
    zoneinfo := fun _ => none
    maintenancePolicy := {
      timezone := "UTC"
      targets := [("fuxa", {
        windows := []
        blackouts := []
        policy := { defaultTargetPolicy "fuxa" with maintenanceWindowRequired := false } })]
      globalBlackouts := [] }
    approvalsDir := none
    approvalSigner := gateSigner
    approvalRequired := false
    emergencyOverrideMode := false
    now := 0 }
  previewId := "p1"

theorem replaceAnchor_verified :
    verifyTrustAnchorFingerprint Gds.digestCrypto replaceX509 replaceAnchor
        replaceAttempt.settings.pinnedAnchorFingerprint =
      .ok ((), Gds.digestCrypto.sha256Hex (Gds.digestCrypto.publicKeyDer ())) := by
  refine Fallible.bind_eq_ok.mpr ⟨.str "pem", rfl, Fallible.bind_eq_ok.mpr ⟨some (), rfl, ?_⟩⟩
  refine Fallible.bind_eq_ok.mpr ⟨(), require_eq_ok.mpr rfl, ?_⟩
  exact Fallible.bind_eq_ok.mpr ⟨(), require_eq_ok.mpr (Or.inr rfl), rfl⟩

/-- An attempt with an issued package is verified. -/
theorem verifyPackage_issued {attempt : ActivationAttempt Unit} (material : Gds.PackageMaterial)
    (pinned : attempt.settings.pinnedAnchorFingerprint =
      replaceAttempt.settings.pinnedAnchorFingerprint)
    (anchored : attempt.anchorResponse = some replaceAnchor)
    (signed : Json.obj attempt.signature = issuedRecord material) :
    ∃ digest, attempt.verifyPackage Gds.digestCrypto replaceX509 (issuedManifest material) =
      .ok digest := by
  refine ⟨Gds.manifestSha256 Gds.digestCrypto (issuedManifest material), ?_⟩
  rw [ActivationAttempt.verifyPackage, anchored, pinned, signed]
  refine Fallible.bind_eq_ok.mpr ⟨replaceAnchor, rfl, ?_⟩
  refine Fallible.bind_eq_ok.mpr ⟨_, replaceAnchor_verified, ?_⟩
  exact issued_accepted material

theorem replaceAttempt_admitted :
    replaceAttempt.Admitted Gds.digestCrypto replaceX509 (.obj replaceAttempt.manifest) := by
  have signed : Json.obj replaceAttempt.signature = issuedRecord exampleMaterial := rfl
  refine ⟨⟨List.mem_singleton.mpr rfl, rfl, rfl⟩,
    verifyPackage_issued exampleMaterial rfl rfl signed, rfl, by decide +kernel, nofun, ?_⟩
  intro shut
  exact absurd shut (by decide +kernel)

/-- A renewal goes on where the component apply and `--activate-package` refuse the merge
policy. -/
theorem strict_replace_renewed :
    replaceAttempt.renewRuntimeCertificate Gds.digestCrypto replaceX509 = .ok () ∧
      ¬ replaceAttempt.EntryPointsAgree Gds.digestCrypto replaceX509 := by
  have renewed : replaceAttempt.renewRuntimeCertificate Gds.digestCrypto replaceX509 = .ok () := by
    rw [ActivationAttempt.renewRuntimeCertificate_eq_ok]
    exact ⟨by decide, replaceAttempt_admitted, rfl, List.mem_singleton.mpr rfl, by decide⟩
  refine ⟨renewed, fun agree => ?_⟩
  have applied := ActivationAttempt.componentApplyCertificate_eq_ok.mp (agree.2.mp renewed)
  cases applied.1.1

end OpcuaGds.Agent
