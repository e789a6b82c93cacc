import OpcuaGds.Agent.ActivationGate

/-! # Approvals and plans

A record names the plan that it was signed for, but the gate is not told which plan is
activated: an approval counts for its target, whatever the plan. What it takes for the
records of other plans to make no difference is said exactly.
-/

namespace OpcuaGds.Agent

open Gds (Crypto)

/-- The plan that a record names, empty when it names none. -/
def planIdOf (record : Json) : String := textOr ((record.field? "plan_id").getD .null) ""

/-- A record that names another plan. -/
def isForeign (planId : String) (record : Json) : Bool :=
  planIdOf record ≠ "" ∧ planIdOf record ≠ planId

/-- The directory without the records of other plans. -/
def ApprovalsDir.withoutForeign (planId : String) (approvalsDir : ApprovalsDir) : ApprovalsDir :=
  approvalsDir.map fun files => files.filter fun file => !file.2.any (isForeign planId)

/-- Enough approvals for a level. -/
def Sufficient (requiredLevel : String) (approvals : List Json) : Prop :=
  if requiredLevel = "dual" then 2 ≤ (uniqueOperators approvals).length else approvals ≠ []

/-- Enough approvals for a level, with a request for the override: from any of them for
two operators, otherwise from the newest one. -/
def AsksOverride (requiredLevel : String) (approvals : List Json) : Prop :=
  if requiredLevel = "dual" then
    2 ≤ (uniqueOperators approvals).length ∧
      ∃ approval ∈ approvals, requestsOverride approval = true
  else ∃ approval, approvals.head? = some approval ∧ requestsOverride approval = true

theorem summarizeApprovals_isSome_iff {requiredLevel : String} {approvals : List Json} :
    (summarizeApprovals requiredLevel approvals).1.isSome = true ↔
      Sufficient requiredLevel approvals := by
  unfold summarizeApprovals Sufficient
  by_cases dual : requiredLevel = "dual"
  · rw [if_pos dual, if_pos dual]
    by_cases two : 2 ≤ (uniqueOperators approvals).length
    · simp [two]
    · simp [two]
  · rw [if_neg dual, if_neg dual]
    cases approvals <;> simp

theorem overrideRequested_summarizeApprovals_iff {requiredLevel : String}
    {approvals : List Json} :
    overrideRequested (summarizeApprovals requiredLevel approvals).1 = true ↔
      AsksOverride requiredLevel approvals := by
  unfold summarizeApprovals AsksOverride
  by_cases dual : requiredLevel = "dual"
  · rw [if_pos dual, if_pos dual]
    by_cases two : 2 ≤ (uniqueOperators approvals).length
    · simp [two, overrideRequested]
    · simp [two, overrideRequested]
  · rw [if_neg dual, if_neg dual]
    cases approvals <;> simp [overrideRequested]

section Status

variable {PrivateKey : Type} (inputs : GateInputs PrivateKey) (target : String) (manifest : Json)

/-- Approvals as far as the gate requires them. -/
def GateInputs.Given (approvals : List Json) : Prop :=
  inputs.approvalRequired = true → Sufficient (inputs.approvalLevel target) approvals

/-- The policy and the mode let an override through. -/
def GateInputs.AdmitsOverride : Prop :=
  inputs.emergencyOverrideMode = true ∧
    (inputs.policyOf target).emergencyOverrideAllowed = true

/-- Two loads of approvals that make no difference to the gate. -/
def GateInputs.SameFor (approvals others : List Json) : Prop :=
  ManifestCompatible manifest →
    (inputs.Given target approvals ↔ inputs.Given target others) ∧
      (inputs.Given target approvals → (inputs.windowStatus target).Shut →
        inputs.AdmitsOverride target →
        (AsksOverride (inputs.approvalLevel target) approvals ↔
          AsksOverride (inputs.approvalLevel target) others))

/-- The status of a target that is kept shut. -/
def GateInputs.shutStatus : GateStatus :=
  if (inputs.windowStatus target).withinBlackout then .blockedBlackout else .blockedWindowClosed

/-- Without enough approvals, and with them, the gate of a compatible package. -/
theorem GateInputs.statusFor_of_compatible {manifest : Json}
    (compatible : ManifestCompatible manifest) (approvals : List Json) :
    (¬ inputs.Given target approvals →
        inputs.statusFor target manifest approvals = .blockedApprovalMissing) ∧
      (inputs.Given target approvals → ¬ (inputs.windowStatus target).Shut →
        inputs.statusFor target manifest approvals = .readyForStaging) ∧
      (inputs.Given target approvals → (inputs.windowStatus target).Shut →
        (inputs.AdmitsOverride target ∧ AsksOverride (inputs.approvalLevel target) approvals →
          inputs.statusFor target manifest approvals = .emergencyOverrideReady) ∧
        (¬ (inputs.AdmitsOverride target ∧
            AsksOverride (inputs.approvalLevel target) approvals) →
          inputs.statusFor target manifest approvals = inputs.shutStatus target)) := by
  unfold statusFor
  rw [if_neg (not_not_intro compatible)]
  have given : inputs.Given target approvals ↔ (inputs.approvalRequired = true →
      (summarizeApprovals (inputs.approvalLevel target) approvals).1.isSome = true) := by
    rw [Given, summarizeApprovals_isSome_iff]
  have asks : inputs.AdmitsOverride target ∧
      AsksOverride (inputs.approvalLevel target) approvals ↔
      inputs.emergencyOverrideMode = true ∧
        (inputs.policyOf target).emergencyOverrideAllowed = true ∧
        overrideRequested (summarizeApprovals (inputs.approvalLevel target) approvals).1 =
          true := by
    rw [AdmitsOverride, overrideRequested_summarizeApprovals_iff, and_assoc]
  rw [given, asks]
  refine ⟨fun missing => if_pos missing, fun enough open_ => ?_, fun enough shut => ?_⟩
  · rw [if_neg (not_not_intro enough), if_pos open_]
  · rw [if_neg (not_not_intro enough), if_neg (not_not_intro shut)]
    exact ⟨fun override => if_pos override, fun held => if_neg held⟩

variable {inputs target manifest}

theorem GateInputs.shutStatus_ne :
    inputs.shutStatus target ≠ .emergencyOverrideReady ∧
      inputs.shutStatus target ≠ .blockedApprovalMissing := by
  unfold shutStatus
  split <;> exact ⟨nofun, nofun⟩

/-- Enough approvals never end in the status for missing ones. -/
theorem GateInputs.statusFor_ne_missing {approvals : List Json}
    (compatible : ManifestCompatible manifest) (given : inputs.Given target approvals) :
    inputs.statusFor target manifest approvals ≠ .blockedApprovalMissing := by
  obtain ⟨_, ready, closed⟩ := statusFor_of_compatible inputs target compatible approvals
  by_cases shut : (inputs.windowStatus target).Shut
  · by_cases override : inputs.AdmitsOverride target ∧
        AsksOverride (inputs.approvalLevel target) approvals
    · rw [(closed given shut).1 override]
      nofun
    · rw [(closed given shut).2 override]
      exact shutStatus_ne.2
  · rw [ready given shut]
    nofun

/-- The gate reports the same exactly when the approvals make no difference to it. -/
theorem GateInputs.statusFor_eq_iff (approvals others : List Json) :
    inputs.statusFor target manifest approvals = inputs.statusFor target manifest others ↔
      inputs.SameFor target manifest approvals others := by
  by_cases compatible : ManifestCompatible manifest
  · obtain ⟨missing, ready, closed⟩ := statusFor_of_compatible inputs target compatible approvals
    obtain ⟨otherMissing, otherReady, otherClosed⟩ :=
      statusFor_of_compatible inputs target compatible others
    rw [SameFor, forall_prop_of_true compatible]
    by_cases given : inputs.Given target approvals
    · by_cases otherGiven : inputs.Given target others
      · rw [iff_true_intro (iff_of_true given otherGiven), true_and, forall_prop_of_true given]
        by_cases shut : (inputs.windowStatus target).Shut
        · rw [forall_prop_of_true shut]
          by_cases admits : inputs.AdmitsOverride target
          · rw [forall_prop_of_true admits]
            by_cases asks : AsksOverride (inputs.approvalLevel target) approvals
            · rw [(closed given shut).1 ⟨admits, asks⟩]
              by_cases otherAsks : AsksOverride (inputs.approvalLevel target) others
              · rw [(otherClosed otherGiven shut).1 ⟨admits, otherAsks⟩]
                exact iff_of_true rfl (iff_of_true asks otherAsks)
              · rw [(otherClosed otherGiven shut).2 fun both => otherAsks both.2]
                exact iff_of_false shutStatus_ne.1.symm fun same => otherAsks (same.mp asks)
            · rw [(closed given shut).2 fun both => asks both.2]
              by_cases otherAsks : AsksOverride (inputs.approvalLevel target) others
              · rw [(otherClosed otherGiven shut).1 ⟨admits, otherAsks⟩]
                exact iff_of_false shutStatus_ne.1 fun same => asks (same.mpr otherAsks)
              · rw [(otherClosed otherGiven shut).2 fun both => otherAsks both.2]
                exact iff_of_true rfl (iff_of_false asks otherAsks)
          · rw [(closed given shut).2 fun both => admits both.1,
              (otherClosed otherGiven shut).2 fun both => admits both.1]
            exact iff_of_true rfl fun isAdmitted => absurd isAdmitted admits
        · rw [ready given shut, otherReady otherGiven shut]
          exact iff_of_true rfl fun isShut => absurd isShut shut
      · rw [otherMissing otherGiven]
        exact iff_of_false (statusFor_ne_missing compatible given)
          fun same => otherGiven (same.1.mp given)
    · rw [missing given]
      by_cases otherGiven : inputs.Given target others
      · exact iff_of_false (statusFor_ne_missing compatible otherGiven).symm
          fun same => given (same.1.mpr otherGiven)
      · rw [otherMissing otherGiven]
        exact iff_of_true rfl
          ⟨iff_of_false given otherGiven, fun isGiven => absurd isGiven given⟩
  · refine iff_of_true ?_ fun isCompatible => absurd isCompatible compatible
    rw [statusFor, statusFor, if_pos compatible, if_pos compatible]

end Status

/-! ## Removing the records of other plans -/

theorem isObject_of_isForeign {planId : String} {record : Json}
    (foreign : isForeign planId record = true) : record.isObject = true := by
  cases record with
  | obj fields => rfl
  | _ => simp [isForeign, planIdOf, textOr, Json.field?, Json.truthy] at foreign

/-- The directory without the records of other plans has the other documents. -/
theorem ApprovalsDir.documents_withoutForeign (planId : String) (approvalsDir : ApprovalsDir) :
    (approvalsDir.withoutForeign planId).documents =
      approvalsDir.documents.filter fun record => !isForeign planId record := by
  have contents (files : DirectoryListing (Option Json)) :
      (files.filter fun file => !file.2.any (isForeign planId)).filterMap Prod.snd =
        (files.filterMap Prod.snd).filter fun record => !isForeign planId record := by
    induction files with
    | nil => rfl
    | cons file rest ih =>
        obtain ⟨name, content⟩ := file
        cases content with
        | none => exact ih
        | some record =>
            cases foreign : isForeign planId record <;> simp [foreign, ih]
  cases approvalsDir with
  | none => rfl
  | some files =>
      rw [documents, withoutForeign, Option.map_some, Option.getD_some,
        DirectoryListing.newestFirst_filter, contents]
      rfl

/-- Removing records of other plans does not change whether every document is a
dictionary. -/
theorem all_isObject_withoutForeign (planId : String) (records : List Json) :
    (records.filter fun record => !isForeign planId record).all Json.isObject =
      records.all Json.isObject := by
  induction records with
  | nil => rfl
  | cons record rest ih =>
      rw [List.filter_cons, List.all_cons]
      cases foreign : isForeign planId record with
      | true =>
          rw [isObject_of_isForeign foreign, Bool.true_and]
          exact ih
      | false =>
          exact congrArg (record.isObject && ·) ih

section Plans

variable {PrivateKey PublicKey : Type} (crypto : Crypto PrivateKey PublicKey)
  (inputs : GateInputs PrivateKey) (target : String)

/-- The inputs without the records of other plans. -/
def GateInputs.withoutForeign (planId : String) : GateInputs PrivateKey :=
  { inputs with approvalsDir := inputs.approvalsDir.withoutForeign planId }

/-- The records of the directory that count for the target. -/
def GateInputs.counted : List Json :=
  inputs.approvalsDir.documents.filter
    (isValidApproval crypto inputs.approvalSigner target inputs.now)

/-- What the gate reports. -/
def GateInputs.verdict (manifest : Json) (previewId : String) : Except Failure GateStatus :=
  (packageActivationGate crypto inputs target manifest previewId).map ActivationGate.status

theorem GateInputs.verdict_eq (manifest : Json) (previewId : String) :
    inputs.verdict crypto target manifest previewId =
      if inputs.approvalsDir.documents.all Json.isObject then
        .ok (inputs.statusFor target manifest (inputs.counted crypto target))
      else .error .raised := by
  rw [verdict, packageActivationGate_status, loadValidApprovalsForTarget_eq]
  split <;> rfl

theorem GateInputs.counted_withoutForeign (planId : String) :
    (inputs.withoutForeign planId).counted crypto target =
      (inputs.counted crypto target).filter fun record => !isForeign planId record := by
  rw [counted, counted, List.filter_comm]
  exact congrArg (List.filter _) (inputs.approvalsDir.documents_withoutForeign planId)

/-- An approval counts for its target whatever plan it names: removing the records of
other plans leaves what the gate reports exactly when it leaves enough approvals, and a
request for the override that decides. -/
theorem verdict_withoutForeign_iff (manifest : Json) (previewId planId : String) :
    (inputs.withoutForeign planId).verdict crypto target manifest previewId =
        inputs.verdict crypto target manifest previewId ↔
      (inputs.approvalsDir.documents.all Json.isObject = true →
        inputs.SameFor target manifest
          ((inputs.counted crypto target).filter fun record => !isForeign planId record)
          (inputs.counted crypto target)) := by
  have objects : (inputs.withoutForeign planId).approvalsDir.documents.all Json.isObject =
      inputs.approvalsDir.documents.all Json.isObject := by
    rw [GateInputs.withoutForeign, ApprovalsDir.documents_withoutForeign]
    exact all_isObject_withoutForeign planId inputs.approvalsDir.documents
  rw [GateInputs.verdict_eq, GateInputs.verdict_eq, objects, GateInputs.counted_withoutForeign]
  cases inputs.approvalsDir.documents.all Json.isObject with
  | false =>
      rw [if_neg Bool.false_ne_true, if_neg Bool.false_ne_true]
      exact iff_of_true rfl nofun
  | true =>
      rw [if_pos rfl, if_pos rfl, Except.ok.injEq, forall_prop_of_true rfl,
        ← GateInputs.statusFor_eq_iff]
      rfl

end Plans

/-- A created approval names the plan of its order. -/
theorem planIdOf_signedApprovalFile {PrivateKey PublicKey : Type}
    (crypto : Crypto PrivateKey PublicKey) (signer : ApprovalSigner PrivateKey)
    (order : ApprovalOrder) (approvalId : String) (createdAt expiresAt : Timestamp.DateTime) :
    planIdOf (signedApprovalFile crypto signer order approvalId createdAt expiresAt).2 =
      order.planId := by
  have named : (signedApprovalFile crypto signer order approvalId createdAt
      expiresAt).2.field? "plan_id" = some (.str order.planId) := field?_sign (by decide) signer _
  rw [planIdOf, named, Option.getD_some, textOr, Json.toStr_str]
  by_cases empty : order.planId = ""
  · rw [empty]
    rfl
  · exact if_pos (by simp [Json.truthy, empty])

/-! The approval of one plan opens the gate for another. -/

/-- Without the record of plan `plan-a` the gate for `plan-b` is missing an approval. -/
theorem approval_of_other_plan_counts :
    (fuxaInputs (fuxaApprovals "plan-a")).verdict Gds.transparentCrypto "fuxa" compatibleManifest
        "p1" = .ok .readyForStaging ∧
      ((fuxaInputs (fuxaApprovals "plan-a")).withoutForeign "plan-b").verdict
        Gds.transparentCrypto "fuxa" compatibleManifest "p1" = .ok .blockedApprovalMissing := by
  have json : DirectoryListing.isJsonName (fuxaApproval "plan-a").1 = true :=
    isJsonName_signedApprovalFile Gds.transparentCrypto gateSigner _ _ _ _
  have named : planIdOf (fuxaApproval "plan-a").2 = "plan-a" :=
    planIdOf_signedApprovalFile Gds.transparentCrypto gateSigner (fuxaOrder "plan-a") _ _ _
  have foreign : isForeign "plan-b" (fuxaApproval "plan-a").2 = true := by
    rw [isForeign, named]
    decide
  have documents :
      ((fuxaApprovals "plan-a").withoutForeign "plan-b").documents = [] := by
    rw [ApprovalsDir.documents_withoutForeign, fuxaApprovals,
      ApprovalsDir.documents_singleton json, List.filter_cons, foreign]
    rfl
  constructor
  · rw [GateInputs.verdict, packageActivationGate_status]
    refine (congrArg (Except.map _) (load_fuxaApprovals "plan-a")).trans ?_
    decide +kernel
  · rw [GateInputs.verdict_eq, GateInputs.counted, GateInputs.withoutForeign]
    simp only [fuxaInputs, documents]
    decide +kernel

end OpcuaGds.Agent
