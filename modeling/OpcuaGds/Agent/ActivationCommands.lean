import OpcuaGds.Agent.ActivationEntry
import OpcuaGds.Agent.ActivationSuccess
import OpcuaGds.Agent.PackageStaging

/-! # The commands that activate a package

`--activate-package` with a stage of the package, and the certificate apply of a component,
which stages the package of its enrollment itself. Both end in `activate_package_runtime`.
`none` is a command that raises before it reaches the runtime.
-/

namespace OpcuaGds.Agent

open Gds (Crypto)

/-! ## The files of a target -/

/-- A JSON file that exists or not; its text may be no JSON. -/
abbrev JsonFile := Option (Option Json)

/-- The directory of a package in the cache. -/
structure CachedPackage where
  manifest : JsonFile
  signature : JsonFile

/-- The directory of a plan among the stages of a target. -/
structure StageBundle where
  validation : JsonFile
  checksums : JsonFile
  shadow : Option FileTree

/-- The stages of a target, its activation receipts and its runtime. -/
structure TargetFiles where
  stages : Option (DirectoryListing StageBundle)
  receipts : Option (DirectoryListing (Option Json))
  state : RuntimeState

/-- `load_cached_package_manifest`. -/
def loadCachedPackageManifest (packages : String → CachedPackage) (packageId : String) :
    Option Json := do
  let payload ← (packages packageId).manifest.join
  let named ← payload.get? "package_id" (.str "")
  if named.toStr = packageId then some payload else none

/-- `load_cached_package_signature`. -/
def loadCachedPackageSignature (packages : String → CachedPackage) (packageId : String) :
    Option Json :=
  (packages packageId).signature.join

/-! ## Stage bundles -/

structure FoundStage where
  name : String
  validation : Json
  checksums : Json
  shadow : Option FileTree

/-- The first bundle of a package. -/
def firstStageBundle (packageId : String) : List (String × StageBundle) → Option FoundStage
  | [] => none
  | (name, bundle) :: rest =>
      match bundle.validation, bundle.checksums with
      | some validation, some checksums => do
          let validation ← validation
          let named ← validation.get? "package_id" (.str "")
          if named.toStr = packageId then
            let checksums ← checksums
            some { name, validation, checksums, shadow := bundle.shadow }
          else firstStageBundle packageId rest
      | _, _ => firstStageBundle packageId rest

/-- `_find_package_stage_bundle`. -/
def findPackageStageBundle (stages : Option (DirectoryListing StageBundle))
    (packageId planId : String) : Option FoundStage := do
  let plans ← stages
  firstStageBundle packageId
    (if planId = "" then plans.insertionSort fun left right => right.1 ≤ left.1
    else plans.filter fun plan => plan.1 = planId)

/-- `actual == expected`, with the expected checksums as they were read. -/
def sameChecksums (actual : List (String × String)) (expected : List (String × Json)) : Bool :=
  actual.length == expected.length &&
    actual.all fun entry => (expected.lookup entry.1).any (isText entry.2)

/-- The recorded checksums of the shadow tree. -/
def shadowChecksums (checksums : Json) : List (String × Json) :=
  match (checksums.field? "files").bind (·.field? "shadow-trust-store") with
  | some (.obj expected) => expected
  | _ => []

/-- `_validate_stage_bundle`: the tree that was validated. -/
def validateStageBundle (crypto : RuntimeCrypto) (found : FoundStage) (packageId : String) :
    Option FileTree :=
  if isTrue (found.validation.field? "dry_run_only") = false then none
  else if manifestText found.validation "package_id" ≠ packageId then none
  else if isTrue (found.validation.field? "checksum_verified") = false then none
  else if ((found.validation.field? "blocking_reasons").getD .null).truthy then none
  else
    match found.shadow with
    | none => none
    | some shadow =>
        let expected := shadowChecksums found.checksums
        if expected = [] then none
        else if sameChecksums (collectStageChecksums crypto shadow) expected then some shadow
        else none

/-- `str(validation.get("plan_id") or stage_dir.name)`. -/
def FoundStage.planId (found : FoundStage) : String :=
  textOr ((found.validation.field? "plan_id").getD .null) found.name

/-! ## The end of a command -/

/-- The fields of an activation receipt that are read again. -/
def ActivationReceipt.document (receipt : ActivationReceipt) : Json :=
  .obj [("status", .str receipt.status), ("target", .str receipt.target),
    ("package_id", .str receipt.packageId), ("plan_id", .str receipt.planId),
    ("changed_files", .arr (receipt.changedFiles.map fun change =>
      .obj [("relative_path", .str change.relativePath), ("action", .str change.action),
        ("before_sha256", (change.beforeSha256.map Json.str).getD .null),
        ("after_sha256", .str change.afterSha256)])),
    ("private_key_overwritten", .bool false),
    ("private_key_sha256_before", .str receipt.privateKeySha256Before),
    ("private_key_sha256_after", .str receipt.privateKeySha256After)]

/-- What a command leaves: the files of the target, or the runtime when it raises. -/
abbrev CommandResult := Except RuntimeState (ActivationResult × TargetFiles)

/-- The file of a new receipt, if there is one. -/
def TargetFiles.finish (files : TargetFiles) (receiptName : String) :
    Except String ActivationResult × RuntimeState → CommandResult
  | (.error _, state) => .error state
  | (.ok .alreadyActivated, state) => .ok (.alreadyActivated, { files with state })
  | (.ok (.activated receipt), state) =>
      .ok (.activated receipt, {
        files with
        state
        receipts := some ((files.receipts.getD []).put receiptName (some receipt.document)) })

def CommandResult.runtime : CommandResult → FileTree
  | .ok (_, files) => files.state.runtime
  | .error state => state.runtime

/-! ## The commands -/

section Commands

variable {PrivateKey PublicKey : Type} (crypto : Crypto PrivateKey PublicKey)
  (x509 : X509 PublicKey) (runtimeCrypto : RuntimeCrypto) (request : ActivationAttempt PrivateKey)
  (targetCfg : Json)

/-- The attempt for the target of a configuration. -/
def ActivationAttempt.forTarget : ActivationAttempt PrivateKey :=
  { request with target := configText targetCfg "target" "" }

/-- The attempt with a cached package. -/
def ActivationAttempt.loadPackage (packages : String → CachedPackage) (packageId : String) :
    Option (ActivationAttempt PrivateKey) := do
  let manifest ← loadCachedPackageManifest packages packageId
  let signature ← loadCachedPackageSignature packages packageId
  match manifest, signature with
  | .obj manifest, .obj signature =>
      some { request.forTarget targetCfg with manifest, signature }
  | _, _ => none

/-- `--activate-package` up to the runtime: what is activated. -/
def preparePackageActivation (packages : String → CachedPackage) (packageId planId : String)
    (stages : Option (DirectoryListing StageBundle)) : Option ActivationInput := do
  let attempt ← request.loadPackage targetCfg packages packageId
  let _ ← (attempt.activatePackage crypto x509).toOption
  let found ← findPackageStageBundle stages packageId planId
  let shadow ← validateStageBundle runtimeCrypto found packageId
  some (stagedPackage runtimeCrypto targetCfg (.obj attempt.manifest) found.planId shadow)

/-- `--activate-package`: the checks of the mount and of the key are made twice, the first
time with outcomes of their own. -/
def activatePackageCommand (packages : String → CachedPackage)
    (packageId planId receiptName : String) (first outcomes : ActivationOutcomes)
    (files : TargetFiles) : CommandResult :=
  match preparePackageActivation crypto x509 runtimeCrypto request targetCfg packages packageId
      planId files.stages with
  | none => .error files.state
  | some input =>
      match openRuntime input first files.state.runtime with
      | .error (_, runtime) => .error { files.state with runtime }
      | .ok _ =>
          match verifiedKeySha256 runtimeCrypto input first files.state.runtime with
          | .error _ => .error files.state
          | .ok _ =>
              files.finish receiptName
                (activatePackageRuntime runtimeCrypto input outcomes files.state)

/-- Checksums as they are written. -/
def checksumDocument (checksums : List (String × String)) : Json :=
  .obj (checksums.map fun entry => (entry.1, .str entry.2))

/-- What `component_apply_trust_once` stages. -/
structure ComponentStage where
  manifest : Json
  shadow : FileTree
  bundle : StageBundle

/-- `component_apply_trust_once` with the certificate, up to the runtime: the enrolled package
is staged in the directory of a new plan. -/
def componentStage (env : StageEnvironment) (planId generatedAt : String) :
    Option ComponentStage := do
  let request := request.forTarget targetCfg
  let _ ← (request.componentApplyCertificate crypto x509).toOption
  let manifest ← (componentManifestForTarget request.target request.enrollment).toOption
  let manifestSha256 ← (request.verifyPackage crypto x509 manifest).toOption
  let preview ← (buildPackageActivationPreview crypto request.gateInputs request.target manifest
    request.previewId).toOption
  let incoming ← (writePackageStageMaterial env targetCfg manifest []).toOption
  let shadow ← (writePackageStageMaterial env targetCfg manifest []).toOption
  let about : List (String × Json) :=
    [("target", .str request.target), ("plan_id", .str planId),
      ("source", .str "component_distribution"),
      ("package_id", (manifest.field? "package_id").getD .null),
      ("generated_at", .str generatedAt)]
  let mw := preview.maintenanceWindowStatus
  let validation := .obj (about ++
    [("signed_package_verified", .bool true), ("trust_anchor_verified", .bool true),
      ("manifest_sha256", .str manifestSha256),
      ("approvals_valid", .bool ("approved".toList.isPrefixOf preview.approvalStatus.toList ||
        preview.approvalStatus == "not_required")),
      ("maintenance_window_status", .str mw.status),
      ("blackout_status", .str (if mw.withinBlackout then "active" else "inactive")),
      ("runtime_write_enabled", .bool request.settings.writeEnabled),
      ("dry_run_only", .bool false), ("checksum_verified", .bool true),
      ("blocking_reasons", .arr [])])
  let checksums := .obj (about ++
    [("files", .obj
      [("shadow-trust-store", checksumDocument (collectStageChecksums runtimeCrypto shadow.tree)),
        ("incoming-trust-store",
          checksumDocument (collectStageChecksums runtimeCrypto incoming.tree))])])
  some {
    manifest
    shadow := shadow.tree
    bundle := {
      validation := some (some validation)
      checksums := some (some checksums)
      shadow := some shadow.tree } }

/-- `component_apply_trust_once` with the certificate. -/
def applyComponentCertificate (env : StageEnvironment) (planId generatedAt receiptName : String)
    (outcomes : ActivationOutcomes) (files : TargetFiles) : CommandResult :=
  match componentStage crypto x509 runtimeCrypto request targetCfg env planId generatedAt with
  | none => .error files.state
  | some stage =>
      let input := stagedPackage runtimeCrypto targetCfg stage.manifest planId stage.shadow
      let staged := { files with stages := some ((files.stages.getD []).put planId stage.bundle) }
      staged.finish receiptName (activatePackageRuntime runtimeCrypto input outcomes files.state)

end Commands

/-! ## The key of a runtime -/

/-- The certificate is verified against a key that is there. -/
theorem verifiedKeySha256_eq_ok {crypto : RuntimeCrypto} {input : ActivationInput}
    {outcomes : ActivationOutcomes} {runtime : FileTree} {keySha256 : String} :
    verifiedKeySha256 crypto input outcomes runtime = .ok keySha256 ↔
      input.certificatePem ≠ "" ∧ outcomes.keyRead = true ∧
        ∃ key certificateKey publicKey, runtimePrivateKey input.target runtime = some key ∧
          crypto.publicKeyOfCertificate input.certificatePem = some certificateKey ∧
          crypto.publicKeyOfPrivateKey key = some publicKey ∧
          crypto.sha256Hex certificateKey = crypto.sha256Hex publicKey ∧
          crypto.sha256Hex key = keySha256 := by
  constructor
  · intro verified
    unfold verifiedKeySha256 at verified
    split at verified
    · cases verified
    · rename_i given
      split at verified
      · cases verified
      · rename_i key found
        split at verified
        · cases verified
        · rename_i certificateKey parsed
          split at verified
          · cases verified
          · rename_i read
            split at verified
            · cases verified
            · rename_i publicKey derived
              split at verified
              · cases verified
              · rename_i same
                cases verified
                exact ⟨given, Bool.not_eq_false _ ▸ read, key, certificateKey, publicKey, found,
                  parsed, derived, not_not.mp same, rfl⟩
  · intro ⟨given, read, key, certificateKey, publicKey, found, parsed, derived, same, digest⟩
    rw [verifiedKeySha256, if_neg given, found]
    simp only [parsed, read, derived, same, digest, Bool.true_eq_false, if_false, ne_eq,
      not_true_eq_false]

/-! ## What the commands have done before they reach the runtime -/

section Prepared

variable {PrivateKey PublicKey : Type} {crypto : Crypto PrivateKey PublicKey}
  {x509 : X509 PublicKey} {runtimeCrypto : RuntimeCrypto} {request : ActivationAttempt PrivateKey}
  {targetCfg : Json}

theorem loadCachedPackageManifest_eq_some {packages : String → CachedPackage} {packageId : String}
    {manifest : Json} (loaded : loadCachedPackageManifest packages packageId = some manifest) :
    manifestText manifest "package_id" = packageId := by
  obtain ⟨payload, _, rest⟩ := Option.bind_eq_some_iff.mp loaded
  obtain ⟨named, read, rest⟩ := Option.bind_eq_some_iff.mp rest
  split at rest
  · rename_i same
    cases rest
    unfold Json.get? at read
    split at read
    · cases read
      exact same
    · cases read
  · cases rest

theorem loadPackage_eq_some {packages : String → CachedPackage} {packageId : String}
    {attempt : ActivationAttempt PrivateKey}
    (loaded : request.loadPackage targetCfg packages packageId = some attempt) :
    loadCachedPackageManifest packages packageId = some (.obj attempt.manifest) ∧
      loadCachedPackageSignature packages packageId = some (.obj attempt.signature) ∧
      attempt = { request.forTarget targetCfg with
        manifest := attempt.manifest, signature := attempt.signature } := by
  obtain ⟨manifest, cached, rest⟩ := Option.bind_eq_some_iff.mp loaded
  obtain ⟨signature, signed, rest⟩ := Option.bind_eq_some_iff.mp rest
  split at rest
  · cases rest
    exact ⟨cached, signed, rfl⟩
  · cases rest

/-- What `--activate-package` activates is a stage of the cached package that was validated. -/
theorem preparePackageActivation_eq_some {packages : String → CachedPackage}
    {packageId planId : String} {stages : Option (DirectoryListing StageBundle)}
    {input : ActivationInput} :
    preparePackageActivation crypto x509 runtimeCrypto request targetCfg packages packageId planId
        stages = some input ↔
      ∃ attempt found shadow, request.loadPackage targetCfg packages packageId = some attempt ∧
        attempt.activatePackage crypto x509 = .ok () ∧
        findPackageStageBundle stages packageId planId = some found ∧
        validateStageBundle runtimeCrypto found packageId = some shadow ∧
        stagedPackage runtimeCrypto targetCfg (.obj attempt.manifest) found.planId shadow =
          input := by
  simp only [preparePackageActivation, Option.bind_eq_bind, Option.bind_eq_some_iff,
    Fallible.toOption_eq_some, Option.some.injEq, exists_and_left, Fallible.exists_check]

/-- The package of an enrollment is staged exactly when the checks let it through and its
material can be written. -/
theorem componentStage_eq_some {env : StageEnvironment} {planId generatedAt : String}
    {manifest : Json} {shadow : FileTree} :
    (∃ stage, componentStage crypto x509 runtimeCrypto request targetCfg env planId generatedAt =
        some stage ∧ stage.manifest = manifest ∧ stage.shadow = shadow) ↔
      (request.forTarget targetCfg).componentApplyCertificate crypto x509 = .ok () ∧
        componentManifestForTarget (request.forTarget targetCfg).target request.enrollment =
          .ok manifest ∧
        ∃ state, writePackageStageMaterial env targetCfg manifest [] = .ok state ∧
          state.tree = shadow := by
  constructor
  · intro ⟨stage, staged, sameManifest, sameShadow⟩
    obtain ⟨_, applied, rest⟩ := Option.bind_eq_some_iff.mp staged
    obtain ⟨built, isBuilt, rest⟩ := Option.bind_eq_some_iff.mp rest
    obtain ⟨digest, _, rest⟩ := Option.bind_eq_some_iff.mp rest
    obtain ⟨preview, _, rest⟩ := Option.bind_eq_some_iff.mp rest
    obtain ⟨incoming, _, rest⟩ := Option.bind_eq_some_iff.mp rest
    obtain ⟨state, written, rest⟩ := Option.bind_eq_some_iff.mp rest
    cases rest
    subst sameManifest
    exact ⟨Fallible.toOption_eq_some.mp applied, Fallible.toOption_eq_some.mp isBuilt, state,
      Fallible.toOption_eq_some.mp written, sameShadow⟩
  · intro ⟨applied, built, state, written, sameShadow⟩
    obtain ⟨_, other, otherBuilt, _, ⟨digest, verified⟩, readable, _⟩ :=
      ActivationAttempt.componentApplyCertificate_eq_ok.mp applied
    cases built.symm.trans otherBuilt
    have gated : ∃ gate, packageActivationGate crypto request.gateInputs
        (request.forTarget targetCfg).target manifest request.previewId = .ok gate ∧ _ :=
      packageActivationGate_of_readable crypto readable
    obtain ⟨gate, evaluated, _⟩ := gated
    obtain ⟨preview, previewed, _⟩ := Fallible.bind_eq_ok.mp evaluated
    simp only [componentStage, Option.bind_eq_bind, Option.bind_eq_some_iff,
      Fallible.toOption_eq_some, Option.some.injEq]
    exact ⟨_, ⟨(), applied, manifest, built, digest, verified, preview, previewed, state, written,
      state, written, rfl⟩, rfl, sameShadow⟩

/-- The evidence of a component apply is not marked as that of a dry run. -/
theorem componentStage_validation {env : StageEnvironment} {planId generatedAt : String}
    {stage : ComponentStage}
    (staged : componentStage crypto x509 runtimeCrypto request targetCfg env planId generatedAt =
      some stage) :
    ∃ validation, stage.bundle.validation = some (some validation) ∧
      validation.field? "dry_run_only" = some (.bool false) := by
  obtain ⟨_, _, rest⟩ := Option.bind_eq_some_iff.mp staged
  obtain ⟨manifest, _, rest⟩ := Option.bind_eq_some_iff.mp rest
  obtain ⟨digest, _, rest⟩ := Option.bind_eq_some_iff.mp rest
  obtain ⟨preview, _, rest⟩ := Option.bind_eq_some_iff.mp rest
  obtain ⟨incoming, _, rest⟩ := Option.bind_eq_some_iff.mp rest
  obtain ⟨state, _, rest⟩ := Option.bind_eq_some_iff.mp rest
  cases rest
  exact ⟨_, rfl, rfl⟩

/-- A component apply that stages a package activates it as `activate_package_runtime` does. -/
theorem applyComponentCertificate_of_staged {env : StageEnvironment}
    {planId generatedAt receiptName : String} {outcomes : ActivationOutcomes} {files : TargetFiles}
    {stage : ComponentStage}
    (staged : componentStage crypto x509 runtimeCrypto request targetCfg env planId generatedAt =
      some stage) :
    applyComponentCertificate crypto x509 runtimeCrypto request targetCfg env planId generatedAt
        receiptName outcomes files =
      TargetFiles.finish
        { files with stages := some ((files.stages.getD []).put planId stage.bundle) } receiptName
        (activatePackageRuntime runtimeCrypto
          (stagedPackage runtimeCrypto targetCfg stage.manifest planId stage.shadow) outcomes
          files.state) := by
  rw [applyComponentCertificate, staged]

end Prepared

/-! ## An issued package of one file -/

/-- A certificate that is issued for the gateway client. -/
def certificateMaterial : Gds.PackageMaterial :=
  { exampleMaterial with
    caChain := ""
    crl := ""
    adapter := {
      exampleMaterial.adapter with
      trustStoreLayout := [("application_certificate", .str "c")] } }

/-- The attempt with the first package of a material. -/
def issuedAttempt (material : Gds.PackageMaterial) : ActivationAttempt Unit :=
  { replaceAttempt with
    settings := { replaceAttempt.settings with mergePolicy := .conservativeMerge }
    manifest := dictOrEmpty (some (issuedManifest material))
    signature := dictOrEmpty (some (issuedRecord material)) }

/-- The package in the cache of the agent. -/
def issuedCache (material : Gds.PackageMaterial) : String → CachedPackage := fun _ =>
  { manifest := some (some (issuedManifest material))
    signature := some (some (issuedRecord material)) }

def fuxaTarget : Json :=
  .obj [("target", .str "fuxa"), ("application_uri", .str "urn:dataprotect:opcua:fuxa-client"),
    ("runtime_root", .str "/runtime/fuxa/PKI")]

/-- A runtime that has its private key only. -/
def keyRuntime : TargetFiles where
  stages := none
  receipts := none
  state := {
    runtime := [("own/private/private_key.pem", [9])]
    snapshot := []
    manifest := none
    receipts := [] }

/-- What is activated of the package. -/
def certificateInput : ActivationInput :=
  stagedPackage plainCrypto fuxaTarget (issuedManifest certificateMaterial) "p"
    [("c", textBytes "certificate")]

theorem issued_loaded (material : Gds.PackageMaterial) :
    (issuedAttempt material).loadPackage fuxaTarget (issuedCache material)
      material.packageId.text = some (issuedAttempt material) := by
  have named : (issuedManifest material).get? "package_id" (.str "") =
      some (.str material.packageId.text) := rfl
  have cached : loadCachedPackageManifest (issuedCache material) material.packageId.text =
      some (issuedManifest material) := by
    simp only [loadCachedPackageManifest, issuedCache, Option.join_some, Option.bind_eq_bind,
      Option.bind_some, named]
    exact if_pos rfl
  rw [ActivationAttempt.loadPackage, cached]
  rfl

theorem issued_built (material : Gds.PackageMaterial) :
    componentManifestForTarget "fuxa" (issuedAttempt material).enrollment =
      .ok (issuedManifest material) :=
  componentManifestForTarget_other rfl rfl nofun

theorem certificate_admitted :
    (issuedAttempt certificateMaterial).Admitted Gds.digestCrypto replaceX509
      (issuedManifest certificateMaterial) := by
  have signed : Json.obj (issuedAttempt certificateMaterial).signature =
      issuedRecord certificateMaterial := rfl
  refine ⟨⟨List.mem_singleton.mpr rfl, rfl, rfl⟩,
    verifyPackage_issued certificateMaterial rfl rfl signed, rfl, by decide +kernel, nofun, ?_⟩
  intro shut
  exact absurd shut (by decide +kernel)

theorem certificate_applies :
    (issuedAttempt certificateMaterial).componentApplyCertificate Gds.digestCrypto replaceX509 =
      .ok () := by
  rw [ActivationAttempt.componentApplyCertificate_eq_ok]
  exact ⟨⟨rfl, by decide⟩, _, issued_built certificateMaterial, certificate_admitted⟩

theorem certificate_written :
    ∃ state, writePackageStageMaterial freshCrls fuxaTarget (issuedManifest certificateMaterial)
        [] = .ok state ∧ state.tree = [("c", textBytes "certificate")] := by
  have written : (writePackageStageMaterial freshCrls fuxaTarget
      (issuedManifest certificateMaterial) []).toOption.map StageState.tree =
        some [("c", textBytes "certificate")] := by
    decide +kernel
  obtain ⟨state, returned, tree⟩ := Option.map_eq_some_iff.mp written
  exact ⟨state, Fallible.toOption_eq_some.mp returned, tree⟩

/-- The component apply stages the package. -/
theorem certificate_staged :
    ∃ stage, componentStage Gds.digestCrypto replaceX509 plainCrypto
        (issuedAttempt certificateMaterial) fuxaTarget freshCrls "p" "t" = some stage ∧
      stage.manifest = issuedManifest certificateMaterial ∧
      stage.shadow = [("c", textBytes "certificate")] :=
  componentStage_eq_some.mpr
    ⟨certificate_applies, issued_built certificateMaterial, certificate_written⟩

theorem certificateInput_activated :
    ∃ receipt after, activatePackageRuntime plainCrypto certificateInput smoothOutcomes
      keyRuntime.state = (.ok (.activated receipt), after) := by
  have activated : isActivated (activatePackageRuntime plainCrypto certificateInput
      smoothOutcomes keyRuntime.state).1 = true := by
    decide +kernel
  obtain ⟨receipt, returned⟩ := exists_receipt _ activated
  exact ⟨receipt, _, returned⟩

end OpcuaGds.Agent
