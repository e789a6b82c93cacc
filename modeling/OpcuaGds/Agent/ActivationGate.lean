import OpcuaGds.Agent.Approvals
import OpcuaGds.Agent.MaintenanceWindow

/-! # The activation gate

The preview of an activation and `evaluate_activation_gate`, which decides from the
compatibility, the approvals and the maintenance policy whether a target may be staged.
-/

namespace OpcuaGds.Agent

open Gds (Crypto)

/-- The fields of a preview that the gate and the staging read. -/
structure ActivationPreview where
  previewId : String
  target : String
  packageId : Json
  maintenanceWindowStatus : MaintenanceWindowStatus
  approvalStatus : String
  approvalSummary : Option ApprovalSummary
  compatibilityStatus : String
  compatibilityIssues : List Json
  riskLevel : String
  recommendation : String
  safeToStage : Bool

inductive GateStatus where
  | readyForStaging
  | blockedIncompatible
  | blockedApprovalMissing
  | emergencyOverrideReady
  | blockedBlackout
  | blockedWindowClosed
  deriving DecidableEq, Repr

/-- What `evaluate_activation_gate` returns. -/
structure ActivationGate where
  target : String
  status : GateStatus
  blockedReason : String
  windowRequired : Bool
  approvalRequired : Bool
  approvalStatus : String
  emergencyOverrideMode : Bool
  emergencyOverrideAllowed : Bool
  emergencyOverrideRequested : Bool
  withinWindow : Bool
  withinBlackout : Bool
  policy : TargetPolicy
  previewId : String
  riskLevel : String

/-- `value or default`. -/
def textOr (value : Json) (default : String) : String :=
  if value.truthy then value.toStr else default

/-- `bool((approval_summary or {}).get("emergency_override", False))`. -/
def overrideRequested (approvalSummary : Option ApprovalSummary) : Bool :=
  approvalSummary.elim false ApprovalSummary.emergencyOverride

/-- `evaluate_activation_gate`: the status with the reason for it. -/
def gateDecision (preview : ActivationPreview) (approvalRequired : Bool)
    (approvalSummary : Option ApprovalSummary) (approvalStatus : String)
    (emergencyOverrideMode : Bool) : GateStatus × String :=
  let mw := preview.maintenanceWindowStatus
  if preview.compatibilityStatus = "INCOMPATIBLE" ∨ preview.riskLevel = "CRITICAL" then
    (.blockedIncompatible, "runtime_compatibility_failed")
  else if approvalRequired ∧ approvalSummary.isNone then
    (.blockedApprovalMissing, approvalStatus)
  else if mw.withinBlackout then
    if emergencyOverrideMode ∧ mw.emergencyOverrideAllowed ∧
        overrideRequested approvalSummary then
      (.emergencyOverrideReady, "emergency_override_blackout")
    else (.blockedBlackout, "blackout_period_active")
  else if mw.windowRequired ∧ ¬mw.withinWindow then
    if emergencyOverrideMode ∧ mw.emergencyOverrideAllowed ∧
        overrideRequested approvalSummary then
      (.emergencyOverrideReady, "emergency_override_window_closed")
    else (.blockedWindowClosed, "maintenance_window_closed")
  else (.readyForStaging, "")

/-- `evaluate_activation_gate`. -/
def evaluateActivationGate (target : String) (preview : ActivationPreview)
    (approvalRequired : Bool) (approvalSummary : Option ApprovalSummary)
    (approvalStatus : String) (emergencyOverrideMode : Bool) : ActivationGate :=
  let mw := preview.maintenanceWindowStatus
  let decision := gateDecision preview approvalRequired approvalSummary approvalStatus
    emergencyOverrideMode
  { target := target
    status := decision.1
    blockedReason := decision.2
    windowRequired := mw.windowRequired
    approvalRequired := approvalRequired
    approvalStatus := approvalStatus
    emergencyOverrideMode := emergencyOverrideMode
    emergencyOverrideAllowed := mw.emergencyOverrideAllowed
    emergencyOverrideRequested := overrideRequested approvalSummary
    withinWindow := mw.withinWindow
    withinBlackout := mw.withinBlackout
    policy := mw.policy
    previewId := preview.previewId
    riskLevel := preview.riskLevel }

/-- The compatibility of a manifest, as status and risk level. -/
def manifestCompatibility (manifest : Json) : String × String :=
  let compatibility := (manifest.field? "compatibility").getD .null
  let status := textOr ((compatibility.field? "status").getD .null) "UNKNOWN"
  (status, textOr ((compatibility.field? "risk_level").getD .null)
    (if status = "INCOMPATIBLE" then "HIGH" else "LOW"))

/-- What a gate is fed with: the policy, the clock, the approvals and their key. -/
structure GateInputs (PrivateKey : Type) where
  zoneinfo : ZoneInfo
  maintenancePolicy : MaintenancePolicy
  approvalsDir : ApprovalsDir
  approvalSigner : ApprovalSigner PrivateKey
  approvalRequired : Bool
  emergencyOverrideMode : Bool
  now : Int

section Gate

variable {PrivateKey PublicKey : Type} (crypto : Crypto PrivateKey PublicKey)

/-- `build_package_activation_preview`. -/
def buildPackageActivationPreview (inputs : GateInputs PrivateKey) (target : String)
    (manifest : Json) (previewId : String) : Except Failure ActivationPreview := do
  let compatibility := manifestCompatibility manifest
  let mw := maintenanceWindowStatus inputs.zoneinfo target inputs.maintenancePolicy inputs.now
  let approval ← loadActiveApprovalForTarget crypto inputs.approvalSigner inputs.approvalsDir
    target (PythonText.lower mw.policy.approvalLevel) inputs.now
  .ok {
    previewId := previewId
    target := target
    packageId := (manifest.field? "package_id").getD .null
    maintenanceWindowStatus := mw
    approvalStatus := if inputs.approvalRequired then approval.2 else "not_required"
    approvalSummary := approval.1
    compatibilityStatus := compatibility.1
    compatibilityIssues :=
      match ((manifest.field? "compatibility").getD .null).field? "blocking_reasons" with
      | some (.arr reasons) => reasons
      | _ => []
    riskLevel := compatibility.2
    recommendation :=
      if compatibility.1 = "INCOMPATIBLE" then
        "Resolve package compatibility blockers before any future activation."
      else if inputs.approvalRequired ∧ approval.1.isNone then
        "Collect operator approval before staging."
      else if mw.status = "blackout" then "Activation denied due to blackout period."
      else if mw.status ≠ "open" then
        "Schedule or open a maintenance window before staging."
      else "Package activation preview generated. Runtime writes remain disabled."
    safeToStage := compatibility.1 ≠ "INCOMPATIBLE" ∧ compatibility.2 ≠ "CRITICAL" }

/-- The gate of a package activation, fed from its preview. -/
def packageActivationGate (inputs : GateInputs PrivateKey) (target : String) (manifest : Json)
    (previewId : String) : Except Failure ActivationGate := do
  let preview ← buildPackageActivationPreview crypto inputs target manifest previewId
  .ok (evaluateActivationGate target preview inputs.approvalRequired preview.approvalSummary
    preview.approvalStatus inputs.emergencyOverrideMode)

end Gate

/-! ## When the gate opens -/

section Decision

variable {preview : ActivationPreview} {approvalRequired : Bool}
  {approvalSummary : Option ApprovalSummary} {approvalStatus : String}
  {emergencyOverrideMode : Bool}

/-- The package of a preview is not held back. -/
def ActivationPreview.Compatible (preview : ActivationPreview) : Prop :=
  preview.compatibilityStatus ≠ "INCOMPATIBLE" ∧ preview.riskLevel ≠ "CRITICAL"

/-- A blackout or a closed window keeps a target shut. -/
def MaintenanceWindowStatus.Shut (mw : MaintenanceWindowStatus) : Prop :=
  mw.withinBlackout = true ∨ mw.windowRequired = true ∧ mw.withinWindow = false

instance : Decidable preview.Compatible :=
  inferInstanceAs (Decidable (preview.compatibilityStatus ≠ "INCOMPATIBLE" ∧ _))

instance (mw : MaintenanceWindowStatus) : Decidable mw.Shut :=
  inferInstanceAs (Decidable (mw.withinBlackout = true ∨ _))

/-- The decision in the order in which it is made. -/
theorem gateDecision_status :
    (gateDecision preview approvalRequired approvalSummary approvalStatus
        emergencyOverrideMode).1 =
      if ¬ preview.Compatible then .blockedIncompatible
      else if ¬ (approvalRequired = true → approvalSummary.isSome = true) then
        .blockedApprovalMissing
      else if ¬ preview.maintenanceWindowStatus.Shut then .readyForStaging
      else if emergencyOverrideMode = true ∧
          preview.maintenanceWindowStatus.emergencyOverrideAllowed = true ∧
          overrideRequested approvalSummary = true then .emergencyOverrideReady
      else if preview.maintenanceWindowStatus.withinBlackout then .blockedBlackout
      else .blockedWindowClosed := by
  have held : (preview.compatibilityStatus = "INCOMPATIBLE" ∨ preview.riskLevel = "CRITICAL") ↔
      ¬ preview.Compatible := by
    rw [ActivationPreview.Compatible, not_and_or, not_not, not_not]
  have missing : (approvalRequired = true ∧ approvalSummary.isNone = true) ↔
      ¬ (approvalRequired = true → approvalSummary.isSome = true) := by
    rw [Classical.not_imp, Bool.not_eq_true, Option.isSome_eq_false_iff]
  simp only [gateDecision, held, missing]
  by_cases compatible : ¬ preview.Compatible
  · rw [if_pos compatible, if_pos compatible]
  · rw [if_neg compatible, if_neg compatible]
    by_cases unapproved : ¬ (approvalRequired = true → approvalSummary.isSome = true)
    · rw [if_pos unapproved, if_pos unapproved]
    · rw [if_neg unapproved, if_neg unapproved]
      cases blackout : preview.maintenanceWindowStatus.withinBlackout with
      | true =>
          have shut : preview.maintenanceWindowStatus.Shut := Or.inl blackout
          rw [if_pos rfl, if_neg (not_not_intro shut), if_pos rfl]
          split <;> rfl
      | false =>
          have closed : (preview.maintenanceWindowStatus.windowRequired = true ∧
              ¬ preview.maintenanceWindowStatus.withinWindow = true) ↔
              preview.maintenanceWindowStatus.Shut := by
            simp [MaintenanceWindowStatus.Shut, blackout]
          rw [if_neg Bool.false_ne_true, if_neg Bool.false_ne_true]
          simp only [closed, ite_not]
          split
          · split <;> rfl
          · rfl

end Decision

/-- A manifest whose compatibility does not hold its package back. -/
def ManifestCompatible (manifest : Json) : Prop :=
  (manifestCompatibility manifest).1 ≠ "INCOMPATIBLE" ∧
    (manifestCompatibility manifest).2 ≠ "CRITICAL"

instance (manifest : Json) : Decidable (ManifestCompatible manifest) :=
  inferInstanceAs (Decidable ((manifestCompatibility manifest).1 ≠ "INCOMPATIBLE" ∧ _))

namespace GateInputs

variable {PrivateKey : Type} (inputs : GateInputs PrivateKey) (target : String)

/-- The policy of the target. -/
def policyOf : TargetPolicy := (inputs.maintenancePolicy.of target).policy

def approvalLevel : String := PythonText.lower (inputs.policyOf target).approvalLevel

def windowStatus : MaintenanceWindowStatus :=
  maintenanceWindowStatus inputs.zoneinfo target inputs.maintenancePolicy inputs.now

/-- The status of a package activation, once the approvals that count are loaded. -/
def statusFor (manifest : Json) (approvals : List Json) : GateStatus :=
  let summary := (summarizeApprovals (inputs.approvalLevel target) approvals).1
  if ¬ ManifestCompatible manifest then .blockedIncompatible
  else if ¬ (inputs.approvalRequired = true → summary.isSome = true) then .blockedApprovalMissing
  else if ¬ (inputs.windowStatus target).Shut then .readyForStaging
  else if inputs.emergencyOverrideMode = true ∧
      (inputs.policyOf target).emergencyOverrideAllowed = true ∧
      overrideRequested summary = true then .emergencyOverrideReady
  else if (inputs.windowStatus target).withinBlackout then .blockedBlackout
  else .blockedWindowClosed

end GateInputs

section Soundness

variable {PrivateKey PublicKey : Type} (crypto : Crypto PrivateKey PublicKey)
  (inputs : GateInputs PrivateKey) (target : String) (manifest : Json) (previewId : String)

/-- The status of the gate depends on the directory through its loaded approvals. -/
theorem packageActivationGate_status :
    (packageActivationGate crypto inputs target manifest previewId).map ActivationGate.status =
      (loadValidApprovalsForTarget crypto inputs.approvalSigner inputs.approvalsDir target
        inputs.now).map (inputs.statusFor target manifest) := by
  simp only [packageActivationGate, buildPackageActivationPreview, loadActiveApprovalForTarget]
  cases loadValidApprovalsForTarget crypto inputs.approvalSigner inputs.approvalsDir target
    inputs.now with
  | error failure => rfl
  | ok approvals => exact congrArg Except.ok gateDecision_status

/-- A record of the directory that counts for the target. -/
def GateInputs.Counts (record : Json) : Prop :=
  inputs.approvalsDir.Holds record ∧
    ValidApproval crypto inputs.approvalSigner target inputs.now record

/-- The package is compatible and, where approval is required, approved. -/
structure GateInputs.Cleared : Prop where
  compatible : (manifestCompatibility manifest).1 ≠ "INCOMPATIBLE"
  notCritical : (manifestCompatibility manifest).2 ≠ "CRITICAL"
  approved : inputs.approvalRequired = true →
    Approved (inputs.approvalLevel target) (inputs.Counts crypto target)

variable {crypto inputs target manifest previewId}

theorem Approved.mono {requiredLevel : String} {counts others : Json → Prop}
    (all : ∀ record, counts record → others record) (approved : Approved requiredLevel counts) :
    Approved requiredLevel others := by
  unfold Approved at approved ⊢
  split
  · rename_i dual
    rw [if_pos dual] at approved
    obtain ⟨first, second, firstCounts, secondCounts, different⟩ := approved
    exact ⟨first, second, all first firstCounts, all second secondCounts, different⟩
  · rename_i single
    rw [if_neg single] at approved
    obtain ⟨record, counted⟩ := approved
    exact ⟨record, all record counted⟩

/-- What a gate that reports ready has found. -/
theorem GateInputs.statusFor_eq_ready {approvals : List Json}
    (ready : inputs.statusFor target manifest approvals = .readyForStaging) :
    ManifestCompatible manifest ∧
      (inputs.approvalRequired = true →
        (summarizeApprovals (inputs.approvalLevel target) approvals).1.isSome = true) ∧
      ¬ (inputs.windowStatus target).Shut := by
  unfold statusFor at ready
  by_cases compatible : ManifestCompatible manifest
  · rw [if_neg (not_not_intro compatible)] at ready
    by_cases given : inputs.approvalRequired = true →
        (summarizeApprovals (inputs.approvalLevel target) approvals).1.isSome = true
    · rw [if_neg (not_not_intro given)] at ready
      refine ⟨compatible, given, fun shut => ?_⟩
      rw [if_neg (not_not_intro shut)] at ready
      split at ready
      · cases ready
      · split at ready <;> cases ready
    · rw [if_pos given] at ready
      cases ready
  · rw [if_pos compatible] at ready
    cases ready

/-- What a gate that reports ready by emergency override has found. -/
theorem GateInputs.statusFor_eq_override {approvals : List Json}
    (override : inputs.statusFor target manifest approvals = .emergencyOverrideReady) :
    ManifestCompatible manifest ∧
      (inputs.approvalRequired = true →
        (summarizeApprovals (inputs.approvalLevel target) approvals).1.isSome = true) ∧
      inputs.emergencyOverrideMode = true ∧
      (inputs.policyOf target).emergencyOverrideAllowed = true ∧
      ∃ summary, (summarizeApprovals (inputs.approvalLevel target) approvals).1 = some summary ∧
        summary.emergencyOverride = true := by
  unfold statusFor at override
  by_cases compatible : ManifestCompatible manifest
  · rw [if_neg (not_not_intro compatible)] at override
    by_cases given : inputs.approvalRequired = true →
        (summarizeApprovals (inputs.approvalLevel target) approvals).1.isSome = true
    · rw [if_neg (not_not_intro given)] at override
      refine ⟨compatible, given, ?_⟩
      split at override
      · cases override
      · split at override
        · rename_i requested
          refine ⟨requested.1, requested.2.1, ?_⟩
          cases summary : (summarizeApprovals (inputs.approvalLevel target) approvals).1 with
          | none =>
              rw [summary] at requested
              cases requested.2.2
          | some found =>
              rw [summary] at requested
              exact ⟨found, rfl, requested.2.2⟩
        · split at override <;> cases override
    · rw [if_pos given] at override
      cases override
  · rw [if_pos compatible] at override
    cases override

end Soundness

theorem exists_of_map_eq_ok {ε α β : Type} {result : Except ε α} {f : α → β} {value : β}
    (mapped : result.map f = .ok value) : ∃ inner, result = .ok inner ∧ f inner = value := by
  cases result with
  | error failure => cases mapped
  | ok inner => exact ⟨inner, rfl, Except.ok.inj mapped⟩

/-! A target with one approval, signed for one plan, inside its window. -/

def gateMoment : Timestamp.DateTime where
  year := 2026
  month := 1
  day := 9
  hour := 3
  minute := 4
  second := 5
  microsecond := 0
  validDate := by decide
  validTime := by decide

def gateSigner : ApprovalSigner Unit where
  privateKey := ()
  keyId := "ot-approval-key-v1"

def fuxaOrder (planId : String) : ApprovalOrder where
  target := "fuxa"
  operator := "ot-admin"
  decision := "approve"
  reason := "windowed rollout"
  expiresInMinutes := 120
  approvalLevel := "single"
  emergencyOverride := false
  policySnapshot := []
  planId := planId

def fuxaApproval (planId : String) : String × Json :=
  signedApprovalFile Gds.transparentCrypto gateSigner (fuxaOrder planId) "a1" gateMoment
    { gateMoment with hour := 5, validTime := by decide }

/-- The directory after an approval of a plan. -/
def fuxaApprovals (planId : String) : ApprovalsDir :=
  some [((fuxaApproval planId).1, some (fuxaApproval planId).2)]

def fuxaInputs (approvalsDir : ApprovalsDir) : GateInputs Unit where
  zoneinfo := fun _ => none
  maintenancePolicy := {
    timezone := "UTC"
    targets := [("fuxa", {
      windows := [.weekly [4] 60 240]
      blackouts := []
      policy := defaultTargetPolicy "fuxa" })]
    globalBlackouts := [] }
  approvalsDir := approvalsDir
  approvalSigner := gateSigner
  approvalRequired := true
  emergencyOverrideMode := false
  now := gateMoment.micros

def compatibleManifest : Json :=
  .obj [("package_id", .str "pkg-1"), ("compatibility", .obj [("status", .str "COMPATIBLE"),
    ("risk_level", .str "LOW")])]

/-- The directory after an approval of a plan holds one record, which counts. -/
theorem load_fuxaApprovals (planId : String) :
    loadValidApprovalsForTarget Gds.transparentCrypto gateSigner (fuxaApprovals planId) "fuxa"
      gateMoment.micros = .ok [(fuxaApproval planId).2] := by
  have counts : isValidApproval Gds.transparentCrypto gateSigner "fuxa" gateMoment.micros
      (fuxaApproval planId).2 = true :=
    signedApprovalFile_counts Gds.transparentCrypto_ideal (by decide +kernel) (by decide +kernel)
      (fuxaOrder planId) (by decide +kernel : PythonText.lower "approve" = "approve") "a1"
      gateMoment (by decide +kernel)
  have json : DirectoryListing.isJsonName (fuxaApproval planId).1 = true :=
    isJsonName_signedApprovalFile Gds.transparentCrypto gateSigner _ _ _ _
  rw [loadValidApprovalsForTarget_eq, fuxaApprovals, ApprovalsDir.documents_singleton json,
    List.filter_cons, if_pos counts]
  rfl

end OpcuaGds.Agent
