import OpcuaGds.Agent.ActivationCommands

/-! # The evidence of an activation

`validate_package_activation_state` reads what an activation left: the documents of the stage,
the receipt and the runtime. What `--activate-package` leaves is validated; what a component
apply leaves never is.
-/

namespace OpcuaGds.Agent

open Gds (Crypto)

/-! ## The validator -/

/-- Whether a receipt is of a package and a plan and has one of some statuses; an empty text
or set stands for any. -/
def isReceiptOf (packageId planId : String) (statuses : List String) (receipt : Json) : Bool :=
  (packageId == "" || textOf receipt "package_id" == packageId) &&
    (planId == "" || textOf receipt "plan_id" == planId) &&
    (statuses.isEmpty || statuses.contains (textOf receipt "status"))

/-- The loop of `_latest_activation_receipt`; a document that is no dictionary has no `get`. -/
def latestReceiptAmong (packageId planId : String) (statuses : List String) :
    List (Option Json) → Option (Option Json)
  | [] => some none
  | none :: rest => latestReceiptAmong packageId planId statuses rest
  | some payload :: rest =>
      if payload.isObject = false then none
      else if isReceiptOf packageId planId statuses payload then some (some payload)
      else latestReceiptAmong packageId planId statuses rest

/-- The receipts of a target, newest first. -/
def TargetFiles.receiptDocuments (files : TargetFiles) : List (Option Json) :=
  match files.receipts with
  | none => []
  | some directory => directory.newestFirst.map Prod.snd

/-- What `validate_package_activation_state` reports. -/
structure ActivationValidation where
  packageId : String
  planId : String
  runtimeMatchesStage : Bool
  runtimeMismatches : List (String × String)
  activationReceiptFound : Bool
  activationReceiptStatus : String
  privateKeyOverwritten : Option Bool
  privateKeySha256Unchanged : Option Bool
  privateKeyChecksumEvidence : String
  safeModeRestored : Bool

/-- `value is False`. -/
def isFalse : Option Json → Bool
  | some (.bool flag) => !flag
  | _ => false

/-- The status of a receipt; old receipts have none. -/
def receiptStatus (receipt : Json) : String :=
  let status := textOr ((receipt.field? "status").getD .null) ""
  if status = "" ∧ isFalse (receipt.field? "private_key_overwritten") ∧
      ((receipt.field? "changed_files").getD .null).truthy then "activated_legacy"
  else status

/-- Whether the key is the one of the receipt; `none` when the receipt has no hashes. -/
def keyUnchanged (receipt : Json) (currentSha256 : String) : Option Bool :=
  let before := textOf receipt "private_key_sha256_before"
  let after := textOf receipt "private_key_sha256_after"
  if before = "" ∨ after = "" then none
  else some (before == after && after == currentSha256)

section Validator

variable (crypto : RuntimeCrypto) (settings : RuntimeSettings) (targetCfg : Json)
  (packages : String → CachedPackage) (packageId planId : String) (outcomes : ActivationOutcomes)
  (files : TargetFiles)

/-- The manifest of the package, or an empty one without a package. -/
def manifestToValidate : Option Json :=
  if packageId = "" then some (.obj []) else loadCachedPackageManifest packages packageId

/-- `_private_key_sha256`. -/
def currentKeySha256 (target : String) : Option String :=
  if outcomes.keyRead = false then none
  else (runtimePrivateKey target files.state.runtime).map crypto.sha256Hex

/-- `validate_package_activation_state`; `none` when it raises. -/
def validatePackageActivationState : Option ActivationValidation := do
  let target := configText targetCfg "target" ""
  let _ ← (if isLiveTarget target then some () else none)
  let manifest ← manifestToValidate packages packageId
  let resolvedPackageId :=
    if packageId = "" then textOf manifest "package_id" else packageId
  let found ← findPackageStageBundle files.stages resolvedPackageId planId
  let shadow ← validateStageBundle crypto found resolvedPackageId
  let input := stagedPackage crypto targetCfg manifest found.planId shadow
  let mismatches ← (runtimeStageMismatches crypto input outcomes files.state.runtime
    input.sortedChecksums).toOption
  let activated ← latestReceiptAmong resolvedPackageId found.planId ["activated"]
    files.receiptDocuments
  let receipt ← (if activated.isSome then some activated
    else latestReceiptAmong resolvedPackageId found.planId [] files.receiptDocuments)
  let keySha256 ← currentKeySha256 crypto outcomes files target
  let status := (receipt.map receiptStatus).getD ""
  let unchanged := receipt.bind (keyUnchanged · keySha256)
  some {
    packageId := resolvedPackageId
    planId := found.planId
    runtimeMatchesStage := mismatches.isEmpty
    runtimeMismatches := mismatches
    activationReceiptFound := receipt.isSome
    activationReceiptStatus := status
    privateKeyOverwritten := receipt.map fun receipt =>
      ((receipt.field? "private_key_overwritten").getD .null).truthy
    privateKeySha256Unchanged := unchanged
    privateKeyChecksumEvidence :=
      if unchanged = some true then "receipt_sha256_match"
      else if status = "activated_legacy" then "legacy_receipt_without_sha256"
      else "unavailable"
    safeModeRestored := !settings.writeEnabled && settings.liveMountMode target == "ro" }

/-- The validation completes, finds the runtime as staged and a receipt of the activation. -/
def EvidenceValidates : Prop :=
  ∃ report, validatePackageActivationState crypto settings targetCfg packages packageId planId
      outcomes files = some report ∧
    report.runtimeMatchesStage = true ∧ report.activationReceiptFound = true ∧
      report.activationReceiptStatus = "activated"

end Validator

/-! ## After `--activate-package` -/

/-- Receipts that are JSON are dictionaries. -/
def TargetFiles.ReceiptsReadable (files : TargetFiles) : Prop :=
  ∀ receipt, some receipt ∈ files.receiptDocuments → receipt.isObject = true

theorem latestReceiptAmong_eq_some {packageId planId : String} {statuses : List String}
    {documents : List (Option Json)}
    (readable : ∀ receipt, some receipt ∈ documents → receipt.isObject = true)
    (present : ∃ receipt, some receipt ∈ documents ∧
      isReceiptOf packageId planId statuses receipt = true) :
    ∃ receipt, latestReceiptAmong packageId planId statuses documents = some (some receipt) ∧
      isReceiptOf packageId planId statuses receipt = true := by
  induction documents with
  | nil =>
      obtain ⟨_, member, _⟩ := present
      cases member
  | cons document rest ih =>
      obtain ⟨wanted, member, isWanted⟩ := present
      have later := ih fun receipt inRest => readable receipt (List.mem_cons_of_mem _ inRest)
      cases document with
      | none =>
          have inRest := (List.mem_cons.mp member).resolve_left nofun
          exact later ⟨wanted, inRest, isWanted⟩
      | some payload =>
          have object := readable payload List.mem_cons_self
          rw [latestReceiptAmong, if_neg (by rw [object]; exact Bool.noConfusion)]
          split
          · rename_i isFirst
            exact ⟨payload, rfl, isFirst⟩
          · rename_i notFirst
            rcases List.mem_cons.mp member with same | inRest
            · cases same
              exact absurd isWanted notFirst
            · exact later ⟨wanted, inRest, isWanted⟩

theorem isReceiptOf_document (receipt : ActivationReceipt)
    (activated : receipt.status = "activated") :
    isReceiptOf receipt.packageId receipt.planId ["activated"] receipt.document = true := by
  have status : textOf receipt.document "status" = receipt.status := rfl
  have package : textOf receipt.document "package_id" = receipt.packageId := rfl
  have plan : textOf receipt.document "plan_id" = receipt.planId := rfl
  rw [isReceiptOf, status, package, plan, activated]
  simp

/-- The status of a receipt that was picked as activated. -/
theorem receiptStatus_of_isReceiptOf {packageId planId : String} {receipt : Json}
    (picked : isReceiptOf packageId planId ["activated"] receipt = true) :
    receiptStatus receipt = "activated" := by
  have status : textOf receipt "status" = "activated" := by
    rw [isReceiptOf, Bool.and_eq_true] at picked
    simpa using picked.2
  have text : textOr ((receipt.field? "status").getD .null) "" = "activated" := by
    cases found : receipt.field? "status" with
    | none =>
        rw [textOf, found] at status
        exact absurd status (by decide)
    | some value =>
        rw [textOf, found] at status
        rw [Option.getD_some] at status ⊢
        unfold textOr
        split
        · exact status
        · rename_i falsy
          have texts := Json.toStr_of_falsy (Bool.eq_false_iff.mpr falsy)
          rw [status] at texts
          exact absurd texts (by decide)
  rw [receiptStatus, text]
  exact if_neg fun legacy => absurd legacy.1 (by decide)

/-- The comparison with the stage of a call that returned reports nothing. -/
theorem Completed.no_mismatch {crypto : RuntimeCrypto} {input : ActivationInput}
    {outcomes again : ActivationOutcomes} {state after : RuntimeState}
    (completed : Completed crypto input outcomes state after)
    (compared : Comparable again input.copied) :
    runtimeStageMismatches crypto input again after.runtime input.sortedChecksums = .ok [] := by
  have either := no_mismatch_of_matches input again completed.isMatch copied_plain
  rw [ActivationInput.copied, runtimeStageMismatches_filter] at either
  rcases either with ⟨_, nothing⟩ | ⟨notComparable, _⟩
  · exact nothing
  · exact absurd compared notComparable

section Commands

variable {PrivateKey PublicKey : Type} {crypto : Crypto PrivateKey PublicKey}
  {x509 : X509 PublicKey} {runtimeCrypto : RuntimeCrypto} {request : ActivationAttempt PrivateKey}
  {targetCfg : Json} {packages : String → CachedPackage} {packageId planId receiptName : String}
  {first outcomes : ActivationOutcomes} {files after : TargetFiles}

/-- A command that reports an activation has called it, and written the receipt. -/
theorem finish_activated {receipt : ActivationReceipt}
    {called : Except String ActivationResult × RuntimeState}
    (finished : files.finish receiptName called = .ok (.activated receipt, after)) :
    called = (.ok (.activated receipt), after.state) ∧ after.stages = files.stages ∧
      after.receipts = some ((files.receipts.getD []).put receiptName (some receipt.document)) := by
  obtain ⟨result, state⟩ := called
  cases result with
  | error message => cases finished
  | ok result =>
      cases result with
      | alreadyActivated => cases finished
      | activated other =>
          cases finished
          exact ⟨rfl, rfl, rfl⟩

/-- A command that returns leaves the stages it was given. -/
theorem finish_stages {result : ActivationResult}
    {called : Except String ActivationResult × RuntimeState}
    (finished : files.finish receiptName called = .ok (result, after)) :
    after.stages = files.stages := by
  obtain ⟨returned, state⟩ := called
  cases returned with
  | error message => cases finished
  | ok returned =>
      cases returned with
      | alreadyActivated => cases finished; rfl
      | activated receipt => cases finished; rfl

/-- What a successful `--activate-package` leaves is validated: the runtime is found as staged,
with an activated receipt. -/
theorem package_evidence_validates {receipt : ActivationReceipt} (named : packageId ≠ "")
    (isJson : DirectoryListing.isJsonName receiptName = true)
    (activated : activatePackageCommand crypto x509 runtimeCrypto request targetCfg packages
      packageId planId receiptName first outcomes files = .ok (.activated receipt, after))
    (readable : after.ReceiptsReadable) {again : ActivationOutcomes}
    (keyRead : again.keyRead = true) (compared : ∀ path, again.comparedRead path = true)
    (settings : RuntimeSettings) :
    EvidenceValidates runtimeCrypto settings targetCfg packages packageId planId again after := by
  unfold activatePackageCommand at activated
  split at activated
  · cases activated
  · rename_i input prepared
    obtain ⟨attempt, found, shadow, loaded, admitted, isFound, validated, rfl⟩ :=
      preparePackageActivation_eq_some.mp prepared
    obtain ⟨cached, _, isAttempt⟩ := loadPackage_eq_some loaded
    have live : isLiveTarget (configText targetCfg "target" "") = true := by
      have isLive := (ActivationAttempt.activatePackage_eq_ok.mp admitted).1
      rw [isAttempt] at isLive
      exact isLive
    split at activated
    · cases activated
    · split at activated
      · cases activated
      · obtain ⟨called, stages, receipts⟩ := finish_activated activated
        have completed := completed_of_returned called
        obtain ⟨status, ofPackage, ofPlan⟩ := (activated_of_returned called).names
        have noMismatch := completed.no_mismatch fun _ _ path _ => compared path
        obtain ⟨_, verified⟩ := completed.verified
        obtain ⟨_, _, key, _, _, hasKey, _⟩ := verifiedKeySha256_eq_ok.mp verified
        have currentKey : currentKeySha256 runtimeCrypto again after
            (configText targetCfg "target" "") = some (runtimeCrypto.sha256Hex key) := by
          rw [currentKeySha256, keyRead, if_neg Bool.noConfusion, completed.runtimePrivateKey_eq]
          exact congrArg (Option.map runtimeCrypto.sha256Hex) hasKey
        have written : some receipt.document ∈ after.receiptDocuments := by
          rw [TargetFiles.receiptDocuments, receipts]
          refine List.mem_map.mpr ⟨(receiptName, _), ?_, rfl⟩
          exact DirectoryListing.mem_newestFirst.mpr ⟨List.mem_cons_self, isJson⟩
        have isPackage : receipt.packageId = packageId :=
          ofPackage.trans (loadCachedPackageManifest_eq_some cached)
        have isPlan : receipt.planId = found.planId := ofPlan
        obtain ⟨latest, isLatest, picked⟩ := latestReceiptAmong_eq_some readable
          ⟨_, written, isReceiptOf_document receipt status⟩
        rw [isPackage, isPlan] at isLatest picked
        simp only [EvidenceValidates, validatePackageActivationState, live, if_true,
          manifestToValidate, if_neg named, cached, stages, isFound, validated, noMismatch,
          Except.toOption, isLatest, Option.isSome_some, currentKey, Option.bind_eq_bind,
          Option.bind_some]
        exact ⟨_, rfl, rfl, rfl, receiptStatus_of_isReceiptOf picked⟩

/-! ## After a component apply -/

/-- A stage that is not marked as that of a dry run is not validated. -/
theorem validateStageBundle_eq_none {found : FoundStage}
    (marked : found.validation.field? "dry_run_only" = some (.bool false)) (packageId : String) :
    validateStageBundle runtimeCrypto found packageId = none := by
  rw [validateStageBundle, marked]
  rfl

/-- The bundle that a component apply leaves is the only one of its plan. -/
theorem findPackageStageBundle_put {stages : DirectoryListing StageBundle} {bundle : StageBundle}
    {validation : Json} (written : bundle.validation = some (some validation))
    (named : planId ≠ "") {found : FoundStage}
    (isFound : findPackageStageBundle (some (stages.put planId bundle)) packageId planId =
      some found) : found.validation = validation := by
  rw [findPackageStageBundle, Option.bind_eq_bind, Option.bind_some, if_neg named,
    DirectoryListing.filter_put_self, firstStageBundle, written] at isFound
  cases checksums : bundle.checksums with
  | none =>
      rw [checksums] at isFound
      cases isFound
  | some recorded =>
      rw [checksums] at isFound
      simp only [Option.bind_eq_bind, Option.bind_some, Option.bind_eq_some_iff] at isFound
      obtain ⟨named, _, isFound⟩ := isFound
      split at isFound
      · obtain ⟨_, _, same⟩ := Option.bind_eq_some_iff.mp isFound
        cases same
        rfl
      · cases isFound

/-- The validation does not complete after a plan has such a bundle. -/
theorem validate_eq_none {stages : DirectoryListing StageBundle} {bundle : StageBundle}
    {validation : Json} (written : bundle.validation = some (some validation))
    (marked : validation.field? "dry_run_only" = some (.bool false)) (named : planId ≠ "")
    (isStages : after.stages = some (stages.put planId bundle)) (settings : RuntimeSettings)
    (again : ActivationOutcomes) :
    validatePackageActivationState runtimeCrypto settings targetCfg packages packageId planId again
      after = none := by
  rw [Option.eq_none_iff_forall_ne_some]
  intro report validates
  simp only [validatePackageActivationState, Option.bind_eq_bind, Option.bind_eq_some_iff]
    at validates
  obtain ⟨_, _, manifest, _, found, isFound, shadow, validated, _⟩ := validates
  rw [isStages] at isFound
  have isWritten := findPackageStageBundle_put written named isFound
  rw [validateStageBundle_eq_none (isWritten ▸ marked)] at validated
  cases validated

end Commands

/-- Whatever a component apply leaves is not validated afterwards, for any package: its own
evidence says that the stage was no dry run. -/
theorem component_evidence_refused {PrivateKey PublicKey : Type}
    (crypto : Crypto PrivateKey PublicKey) (x509 : X509 PublicKey) (runtimeCrypto : RuntimeCrypto)
    (request : ActivationAttempt PrivateKey) (targetCfg : Json) (env : StageEnvironment)
    (planId generatedAt receiptName : String) (outcomes : ActivationOutcomes)
    (files after : TargetFiles) (result : ActivationResult) (named : planId ≠ "")
    (applied : applyComponentCertificate crypto x509 runtimeCrypto request targetCfg env planId
      generatedAt receiptName outcomes files = .ok (result, after))
    (settings : RuntimeSettings) (packages : String → CachedPackage) (packageId : String)
    (again : ActivationOutcomes) :
    ¬ EvidenceValidates runtimeCrypto settings targetCfg packages packageId planId again after := by
  intro ⟨report, validates, _⟩
  unfold applyComponentCertificate at applied
  split at applied
  · cases applied
  · rename_i stage staged
    obtain ⟨validation, written, marked⟩ := componentStage_validation staged
    rw [validate_eq_none written marked named (finish_stages applied)] at validates
    cases validates

/-! ## A package that is enrolled and cached -/

theorem certificate_applied :
    ∃ stage receipt after, componentStage Gds.digestCrypto replaceX509 plainCrypto
        (issuedAttempt certificateMaterial) fuxaTarget freshCrls "p" "t" = some stage ∧
      applyComponentCertificate Gds.digestCrypto replaceX509 plainCrypto
          (issuedAttempt certificateMaterial) fuxaTarget freshCrls "p" "t" "r.json" smoothOutcomes
          keyRuntime =
        .ok (.activated receipt, after) := by
  obtain ⟨stage, staged, manifest, shadow⟩ := certificate_staged
  obtain ⟨receipt, state, returned⟩ := certificateInput_activated
  have applied : applyComponentCertificate Gds.digestCrypto replaceX509 plainCrypto
      (issuedAttempt certificateMaterial) fuxaTarget freshCrls "p" "t" "r.json" smoothOutcomes
      keyRuntime = _ :=
    applyComponentCertificate_of_staged staged
  have input : stagedPackage plainCrypto fuxaTarget stage.manifest "p" stage.shadow =
      certificateInput := by
    rw [manifest, shadow, certificateInput]
  rw [input, returned] at applied
  exact ⟨stage, receipt, _, staged, applied⟩

/-- The component apply of a cached package activates it, and the validation of the package
and the plan that follows does not complete. -/
theorem enrolled_certificate_not_validated :
    ∃ receipt after, applyComponentCertificate Gds.digestCrypto replaceX509 plainCrypto
        (issuedAttempt certificateMaterial) fuxaTarget freshCrls "p" "t" "r.json" smoothOutcomes
        keyRuntime = .ok (.activated receipt, after) ∧
      validatePackageActivationState plainCrypto (issuedAttempt certificateMaterial).settings
        fuxaTarget (issuedCache certificateMaterial) examplePackageId.text "p" smoothOutcomes
        after = none := by
  obtain ⟨stage, receipt, after, staged, applied⟩ := certificate_applied
  obtain ⟨validation, written, marked⟩ := componentStage_validation staged
  have finished := applied
  rw [applyComponentCertificate_of_staged staged] at finished
  exact ⟨receipt, after, applied,
    validate_eq_none written marked (by decide) (finish_stages finished) _ _⟩

/-- The same by what holds of every component apply. -/
theorem enrolled_certificate_refused :
    ∃ after, (∃ receipt, applyComponentCertificate Gds.digestCrypto replaceX509 plainCrypto
        (issuedAttempt certificateMaterial) fuxaTarget freshCrls "p" "t" "r.json" smoothOutcomes
        keyRuntime = .ok (.activated receipt, after)) ∧
      ¬ EvidenceValidates plainCrypto (issuedAttempt certificateMaterial).settings fuxaTarget
        (issuedCache certificateMaterial) examplePackageId.text "p" smoothOutcomes after := by
  obtain ⟨_, receipt, after, _, applied⟩ := certificate_applied
  exact ⟨after, ⟨receipt, applied⟩, component_evidence_refused Gds.digestCrypto replaceX509
    plainCrypto (issuedAttempt certificateMaterial) fuxaTarget freshCrls "p" "t" "r.json"
    smoothOutcomes keyRuntime after _ (by decide) applied _ _ _ _⟩

end OpcuaGds.Agent
