import OpcuaGds.Agent.ActivationCommands
import OpcuaGds.Foundation.NumberText

/-! # Whose package is activated

Both commands compare the certificate of a package with the private key of the runtime. Neither
compares the application that the package was issued for with that of the target.
-/

namespace OpcuaGds.Agent

open Gds (Crypto)

section Statements

variable (crypto : RuntimeCrypto)

/-- The application URI as `infer_runtime_target_for_package` reads it from a manifest and from
a target. -/
def applicationUri (document : Json) : String :=
  PythonText.strip (textOr ((document.field? "application_uri").getD .null) "")

/-- A file of the runtime differs, other than one that a refused probe left. -/
def ChangesRuntime (before after : FileTree) (probes : List ProbeOutcome) : Prop :=
  ∃ path, after.read path ≠ before.read path ∧ ∀ leftover, .refused leftover ∈ probes →
    (before.leave "" leftover).read path = before.read path

/-- The package is one of the target's application, with a certificate for its private key. -/
structure BelongsTo (targetCfg manifest : Json) (runtime : FileTree) : Prop where
  application : applicationUri manifest = applicationUri targetCfg
  key : ∃ key publicKey, runtimePrivateKey (configText targetCfg "target" "") runtime = some key ∧
    crypto.publicKeyOfPrivateKey key = some publicKey ∧
    crypto.publicKeyOfCertificate (manifestText manifest "certificate_pem") = some publicKey

/-- The certificate of a package fits some private key. -/
def FitsAKey (manifest : Json) : Prop :=
  manifestText manifest "certificate_pem" ≠ "" ∧ ∃ key certificateKey publicKey,
    crypto.publicKeyOfCertificate (manifestText manifest "certificate_pem") = some certificateKey ∧
    crypto.publicKeyOfPrivateKey key = some publicKey ∧
    crypto.sha256Hex certificateKey = crypto.sha256Hex publicKey

/-- The files of a stage lead into the runtime, and the first that is copied is there. -/
structure BringsFile (input : ActivationInput) : Prop where
  inside : ∀ entry ∈ input.copied, (resolveInside entry.1).isSome = true
  first : ∃ entry rest, input.copied = entry :: rest ∧
    ∃ path content, input.Staged entry path content

end Statements

/-! ## When an activation changes the runtime -/

section Activation

variable {crypto : RuntimeCrypto} {input : ActivationInput} {outcomes : ActivationOutcomes}
  {state : RuntimeState} {runtime : FileTree} {entries : List (String × String)}

/-- A comparison that returns has followed every path. -/
theorem inside_of_compared {mismatches : List (String × String)}
    (plain : ∀ entry ∈ entries, isPreservedRuntimePath entry.1 = false)
    (compared : runtimeStageMismatches crypto input outcomes runtime entries = .ok mismatches) :
    ∀ entry ∈ entries, (resolveInside entry.1).isSome = true := by
  induction entries generalizing mismatches with
  | nil => nofun
  | cons entry entries ih =>
      obtain ⟨rel, expected⟩ := entry
      obtain ⟨here, later⟩ := List.forall_mem_cons.mp plain
      have notPreserved : ¬ (isPreservedRuntimePath rel = true) := Bool.eq_false_iff.mp here
      have rest {mismatch : String × String} (added : (runtimeStageMismatches crypto input outcomes
          runtime entries).map (mismatch :: ·) = .ok mismatches) :
          ∃ others, runtimeStageMismatches crypto input outcomes runtime entries = .ok others := by
        cases compared : runtimeStageMismatches crypto input outcomes runtime entries with
        | error message => rw [compared] at added; cases added
        | ok others => exact ⟨others, rfl⟩
      rw [runtimeStageMismatches, if_neg notPreserved] at compared
      split at compared
      · cases compared
      · rename_i path led
        refine List.forall_mem_cons.mpr ⟨by rw [led]; rfl, ?_⟩
        split at compared
        · obtain ⟨others, restCompared⟩ := rest compared
          exact ih later restCompared
        · split at compared
          · cases compared
          · split at compared
            · obtain ⟨others, restCompared⟩ := rest compared
              exact ih later restCompared
            · exact ih later compared

/-- A comparison that may open every file returns when every path leads inside. -/
theorem compared_of_inside (plain : ∀ entry ∈ entries, isPreservedRuntimePath entry.1 = false)
    (inside : ∀ entry ∈ entries, (resolveInside entry.1).isSome = true)
    (readable : ∀ path, outcomes.comparedRead path = true) :
    ∃ mismatches, runtimeStageMismatches crypto input outcomes runtime entries =
      .ok mismatches := by
  induction entries with
  | nil => exact ⟨[], rfl⟩
  | cons entry entries ih =>
      obtain ⟨rel, expected⟩ := entry
      obtain ⟨here, later⟩ := List.forall_mem_cons.mp plain
      obtain ⟨leads, leadLater⟩ := List.forall_mem_cons.mp inside
      have notPreserved : ¬ (isPreservedRuntimePath rel = true) := Bool.eq_false_iff.mp here
      obtain ⟨path, led⟩ := Option.isSome_iff_exists.mp leads
      obtain ⟨others, compared⟩ := ih later leadLater
      rw [runtimeStageMismatches, if_neg notPreserved, compared]
      simp only [led, readable path, Bool.true_eq_false, if_false, Except.map]
      split
      · exact ⟨_, rfl⟩
      · split <;> exact ⟨_, rfl⟩

/-- A file that the runtime lacks is reported. -/
theorem mismatch_of_missing {entry : String × String} {path : String}
    {mismatches : List (String × String)} (plain : isPreservedRuntimePath entry.1 = false)
    (led : resolveInside entry.1 = some path) (missing : runtime.read path = none)
    (compared : runtimeStageMismatches crypto input outcomes runtime (entry :: entries) =
      .ok mismatches) : mismatches ≠ [] := by
  obtain ⟨rel, expected⟩ := entry
  have notPreserved : ¬ (isPreservedRuntimePath rel = true) := Bool.eq_false_iff.mp plain
  rw [runtimeStageMismatches, if_neg notPreserved] at compared
  simp only [led, missing] at compared
  cases rest : runtimeStageMismatches crypto input outcomes runtime entries with
  | error message => rw [rest] at compared; cases compared
  | ok others => rw [rest] at compared; cases compared; exact List.cons_ne_nil _ _

/-- What changed was changed by the copies. -/
theorem changed_inv {path : String}
    (changed : (activatePackageRuntime crypto input outcomes state).2.runtime.read path ≠
      state.runtime.read path)
    (notLeft : ∀ leftover, outcomes.probe = .refused leftover →
      (state.runtime.leave "" leftover).read path = state.runtime.read path) :
    ∃ keySha256, prepareActivation crypto input outcomes state.runtime = .ok (keySha256, true) ∧
      (leftRuntime (copyStagedFiles crypto input outcomes input.copied state.runtime)).read path ≠
        state.runtime.read path := by
  unfold activatePackageRuntime at changed
  split at changed
  · rename_i message left prepared
    rcases prepareActivation_error prepared with ⟨same, _⟩ | ⟨leftover, refused, same, _⟩
    · subst same
      exact absurd rfl changed
    · subst same
      exact absurd (notLeft leftover refused) changed
  · rename_i keySha256 mismatched prepared
    cases mismatched with
    | false => exact absurd rfl changed
    | true =>
        refine ⟨keySha256, prepared, ?_⟩
        rw [if_pos rfl] at changed
        rcases replaceRuntime_cases crypto input outcomes state keySha256 with
          ⟨raised, snapshot, result⟩ | ⟨taken, _, ⟨raised, copies, result⟩ | ⟨done, copies, result⟩⟩
        · rw [result, snapshot_error_runtime snapshot] at changed
          exact absurd rfl changed
        · rw [result] at changed
          rw [copies]
          exact changed
        · rw [result, finishActivation_runtime] at changed
          rw [copies]
          exact changed

/-- A stage that changes a runtime brings a file. -/
theorem bringsFile_of_changed {path : String}
    (changed : (leftRuntime (copyStagedFiles crypto input outcomes input.copied runtime)).read
      path ≠ runtime.read path)
    (inside : ∀ entry ∈ input.copied, (resolveInside entry.1).isSome = true) :
    BringsFile input := by
  refine ⟨inside, ?_⟩
  have plain : ∀ entry ∈ input.copied, isPreservedRuntimePath entry.1 = false := copied_plain
  cases copied : input.copied with
  | nil =>
      rw [copied] at changed
      exact absurd rfl changed
  | cons entry rest =>
      refine ⟨entry, rest, rfl, ?_⟩
      by_contra notStaged
      obtain ⟨message, raised⟩ := copyStagedFile_of_not_staged crypto outcomes notStaged runtime
      rw [copied] at changed plain
      rw [copyStagedFiles_cons_error (plain entry List.mem_cons_self) raised] at changed
      exact absurd rfl changed

/-- Copies do not remove files. -/
theorem copyStagedFiles_isSome (plain : ∀ entry ∈ entries, isPreservedRuntimePath entry.1 = false)
    {path : String} (there : (runtime.read path).isSome = true) :
    ((leftRuntime (copyStagedFiles crypto input outcomes entries runtime)).read path).isSome =
      true := by
  rcases copyStagedFiles_keeps plain path with same | ⟨content, found, _⟩
  · rw [same]
    exact there
  · rw [found]
    rfl

/-- The copy of a staged file, without failures. -/
theorem copyStagedFile_smooth {entry : String × String} {path : String} {content : List UInt8}
    (staged : input.Staged entry path content) :
    leftRuntime (copyStagedFile crypto input smoothOutcomes entry.1 entry.2 runtime) =
      runtime.write path content := by
  rw [copyStagedFile_of_staged staged, copyPresentFile]
  simp only [smoothOutcomes, Bool.true_eq_false, if_false]
  split <;> rfl

/-- The first staged file is there after the copies. -/
theorem copyStagedFiles_first {entry : String × String} {path : String} {content : List UInt8}
    (plain : ∀ other ∈ entry :: entries, isPreservedRuntimePath other.1 = false)
    (staged : input.Staged entry path content) :
    ((leftRuntime (copyStagedFiles crypto input smoothOutcomes (entry :: entries) runtime)).read
      path).isSome = true := by
  obtain ⟨here, later⟩ := List.forall_mem_cons.mp plain
  have wrote : leftRuntime (copyStagedFile crypto input smoothOutcomes entry.1 entry.2 runtime) =
      runtime.write path content := copyStagedFile_smooth staged
  cases first : copyStagedFile crypto input smoothOutcomes entry.1 entry.2 runtime with
  | error raised =>
      rw [first] at wrote
      rw [copyStagedFiles_cons_error here first]
      change (raised.2.read path).isSome = true
      rw [show raised.2 = _ from wrote, FileTree.read_write_self]
      rfl
  | ok done =>
      rw [first] at wrote
      rw [copyStagedFiles_cons_ok here first, leftRuntime_map (done.1 :: ·)]
      apply copyStagedFiles_isSome later
      rw [show done.2 = _ from wrote, FileTree.read_write_self]
      rfl

/-- A stage that brings a file which the runtime lacks is copied, when the key fits and nothing
fails. -/
theorem changes_of_brings (brings : BringsFile input)
    (enabled : input.target ∈
      ["fuxa", "opcua-server", "dmz-gateway-client", "dmz-gateway-server"])
    {keySha256 : String}
    (verified : verifiedKeySha256 crypto input smoothOutcomes state.runtime = .ok keySha256)
    (lacks : ∀ path, (∃ entry ∈ input.copied, resolveInside entry.1 = some path) →
      state.runtime.read path = none) :
    ∃ path, (activatePackageRuntime crypto input smoothOutcomes state).2.runtime.read path ≠
      state.runtime.read path := by
  obtain ⟨entry, rest, copied, path, content, led, held⟩ := brings.first
  have plain : ∀ entry ∈ input.copied, isPreservedRuntimePath entry.1 = false := copied_plain
  have missing : state.runtime.read path = none :=
    lacks path ⟨entry, copied ▸ List.mem_cons_self, led⟩
  have prepared : prepareActivation crypto input smoothOutcomes state.runtime =
      .ok (keySha256, true) := by
    obtain ⟨mismatches, compared⟩ : ∃ mismatches, runtimeStageMismatches crypto input
        smoothOutcomes state.runtime input.copied = .ok mismatches :=
      compared_of_inside plain brings.inside fun _ => rfl
    have reported : mismatches ≠ [] := by
      rw [copied] at compared plain
      exact mismatch_of_missing (plain entry List.mem_cons_self) led missing compared
    rw [ActivationInput.copied, runtimeStageMismatches_filter] at compared
    have opened : openRuntime input smoothOutcomes state.runtime = .ok () := by
      rw [openRuntime, if_neg (not_not_intro enabled)]
      rfl
    rw [prepareActivation, opened, verified]
    simp only [compared]
    cases mismatches with
    | nil => exact absurd rfl reported
    | cons _ _ => rfl
  have copiedFirst : ((leftRuntime (copyStagedFiles crypto input smoothOutcomes input.copied
      state.runtime)).read path).isSome = true := by
    rw [copied] at plain ⊢
    exact copyStagedFiles_first plain ⟨led, held⟩
  refine ⟨path, ?_⟩
  rw [missing, activatePackageRuntime, prepared]
  obtain ⟨taken, snapshot⟩ := snapshot_smooth crypto state
  simp only [if_true]
  rcases replaceRuntime_cases crypto input smoothOutcomes state keySha256 with
    ⟨raised, failed, _⟩ | ⟨taken, _, ⟨raised, copies, result⟩ | ⟨done, copies, result⟩⟩
  · rw [snapshot] at failed
    cases failed
  · rw [result]
    rw [copies] at copiedFirst
    exact Option.isSome_iff_ne_none.mp copiedFirst
  · rw [result, finishActivation_runtime]
    rw [copies] at copiedFirst
    exact Option.isSome_iff_ne_none.mp copiedFirst

/-- What the checks of the mount leave when they raise. -/
theorem openRuntime_error {message : String} {left : FileTree}
    (raised : openRuntime input outcomes runtime = .error (message, left)) :
    left = runtime ∨ ∃ leftover, outcomes.probe = .refused leftover ∧
      left = runtime.leave "" leftover := by
  unfold openRuntime at raised
  split at raised
  · cases raised
    exact .inl rfl
  · split at raised
    · cases raised
      exact .inl rfl
    · split at raised
      · cases raised
      · rename_i leftover refused
        cases raised
        exact .inr ⟨leftover, refused, rfl⟩

/-! ## Runtimes with a key that fits -/

theorem exists_candidate {target : String}
    (enabled : target ∈ ["fuxa", "opcua-server", "dmz-gateway-client", "dmz-gateway-server"]) :
    ∃ path rest, targetPrivateKeyCandidates target = path :: rest := by
  simp only [List.mem_cons, List.not_mem_nil, or_false] at enabled
  rcases enabled with rfl | rfl | rfl | rfl <;> exact ⟨_, _, rfl⟩

/-- A stage that brings a file changes some runtime when its certificate fits some key. -/
theorem exists_changed (brings : BringsFile input)
    (enabled : input.target ∈
      ["fuxa", "opcua-server", "dmz-gateway-client", "dmz-gateway-server"])
    (given : input.certificatePem ≠ "") {key certificateKey publicKey : List UInt8}
    (parsed : crypto.publicKeyOfCertificate input.certificatePem = some certificateKey)
    (derived : crypto.publicKeyOfPrivateKey key = some publicKey)
    (same : crypto.sha256Hex certificateKey = crypto.sha256Hex publicKey) :
    ∃ state : RuntimeState, openRuntime input smoothOutcomes state.runtime = .ok () ∧
      verifiedKeySha256 crypto input smoothOutcomes state.runtime = .ok (crypto.sha256Hex key) ∧
      ∃ path, (activatePackageRuntime crypto input smoothOutcomes state).2.runtime.read path ≠
        state.runtime.read path := by
  obtain ⟨place, others, candidates⟩ := exists_candidate enabled
  have candidate : place ∈ targetPrivateKeyCandidates input.target :=
    candidates ▸ List.mem_cons_self
  have opened : openRuntime input smoothOutcomes [(place, key)] = .ok () := by
    rw [openRuntime, if_neg (not_not_intro enabled)]
    rfl
  have found : runtimePrivateKey input.target [(place, key)] = some key := by
    rw [runtimePrivateKey, candidates, List.filterMap_cons]
    simp [FileTree.read]
  have verified : verifiedKeySha256 crypto input smoothOutcomes [(place, key)] =
      .ok (crypto.sha256Hex key) :=
    verifiedKeySha256_eq_ok.mpr
      ⟨given, rfl, key, certificateKey, publicKey, found, parsed, derived, same, rfl⟩
  refine ⟨⟨[(place, key)], [], none, []⟩, opened, verified,
    changes_of_brings brings enabled verified ?_⟩
  rintro path ⟨entry, member, led⟩
  have other : path ≠ place := by
    rintro rfl
    exact Bool.false_ne_true
      ((copied_plain entry member).symm.trans (isPreserved_of_leads candidate led))
  simp [FileTree.read, List.lookup_cons, beq_eq_false_iff_ne.mpr other]

end Activation

/-! ## The commands -/

section Commands

variable {PrivateKey PublicKey : Type} (crypto : Crypto PrivateKey PublicKey)
  (x509 : X509 PublicKey) (runtimeCrypto : RuntimeCrypto) (request : ActivationAttempt PrivateKey)
  (targetCfg : Json) (packages : String → CachedPackage) (packageId : String)
  (env : StageEnvironment)

/-- A run of `--activate-package` that changes the runtime activates a verified package of the
target. -/
def CommandActivatesOwn : Prop :=
  ∀ planId receiptName first outcomes files,
    ChangesRuntime files.state.runtime (activatePackageCommand crypto x509 runtimeCrypto request
      targetCfg packages packageId planId receiptName first outcomes files).runtime
        [first.probe, outcomes.probe] →
      ∃ attempt digest, request.loadPackage targetCfg packages packageId = some attempt ∧
        attempt.verifyPackage crypto x509 (.obj attempt.manifest) = .ok digest ∧
        BelongsTo runtimeCrypto targetCfg (.obj attempt.manifest) files.state.runtime

/-- The same of a component apply with the certificate. -/
def ApplyActivatesOwn : Prop :=
  ∀ planId generatedAt receiptName outcomes files,
    ChangesRuntime files.state.runtime (applyComponentCertificate crypto x509 runtimeCrypto
      request targetCfg env planId generatedAt receiptName outcomes files).runtime
        [outcomes.probe] →
      ∃ manifest digest, componentManifestForTarget (configText targetCfg "target" "")
          request.enrollment = .ok manifest ∧
        (request.forTarget targetCfg).verifyPackage crypto x509 manifest = .ok digest ∧
        BelongsTo runtimeCrypto targetCfg manifest files.state.runtime

/-- What `--activate-package` lets through, and fits some key, is of the target's application. -/
def CommandAdmitsOwn : Prop :=
  ∀ attempt, request.loadPackage targetCfg packages packageId = some attempt →
    attempt.activatePackage crypto x509 = .ok () → FitsAKey runtimeCrypto (.obj attempt.manifest) →
      applicationUri (.obj attempt.manifest) = applicationUri targetCfg

/-- What a component apply lets through, fits some key and brings a file, is of the target's
application. -/
def ApplyAdmitsOwn : Prop :=
  ∀ manifest state, (request.forTarget targetCfg).componentApplyCertificate crypto x509 = .ok () →
    componentManifestForTarget (configText targetCfg "target" "") request.enrollment =
      .ok manifest →
    writePackageStageMaterial env targetCfg manifest [] = .ok state →
    FitsAKey runtimeCrypto manifest →
    BringsFile (stagedPackage runtimeCrypto targetCfg manifest "" state.tree) →
      applicationUri manifest = applicationUri targetCfg

end Commands

section Runs

variable {PrivateKey PublicKey : Type} {crypto : Crypto PrivateKey PublicKey}
  {x509 : X509 PublicKey} {runtimeCrypto : RuntimeCrypto} {request : ActivationAttempt PrivateKey}
  {targetCfg : Json} {packages : String → CachedPackage} {packageId : String}
  {env : StageEnvironment}

theorem finish_runtime (files : TargetFiles) (receiptName : String)
    (called : Except String ActivationResult × RuntimeState) :
    (files.finish receiptName called).runtime = called.2.runtime := by
  obtain ⟨result, state⟩ := called
  cases result with
  | error message => rfl
  | ok result => cases result <;> rfl

/-- A key that was verified, where the hash tells keys apart. -/
theorem belongsTo_of_verified
    (collisionFree : Function.Injective runtimeCrypto.sha256Hex) {manifest : Json}
    {planId keySha256 : String} {shadow runtime : FileTree} {outcomes : ActivationOutcomes}
    (application : applicationUri manifest = applicationUri targetCfg)
    (verified : verifiedKeySha256 runtimeCrypto
      (stagedPackage runtimeCrypto targetCfg manifest planId shadow) outcomes runtime =
        .ok keySha256) :
    BelongsTo runtimeCrypto targetCfg manifest runtime := by
  obtain ⟨_, _, key, certificateKey, publicKey, found, parsed, derived, same, _⟩ :=
    verifiedKeySha256_eq_ok.mp verified
  have sameKey : certificateKey = publicKey := collisionFree same
  subst sameKey
  exact ⟨application, key, certificateKey, found, derived, parsed⟩

theorem fitsAKey_of_verified {manifest : Json} {planId keySha256 : String}
    {shadow runtime : FileTree} {outcomes : ActivationOutcomes}
    (verified : verifiedKeySha256 runtimeCrypto
      (stagedPackage runtimeCrypto targetCfg manifest planId shadow) outcomes runtime =
        .ok keySha256) : FitsAKey runtimeCrypto manifest := by
  obtain ⟨given, _, key, certificateKey, publicKey, _, parsed, derived, same, _⟩ :=
    verifiedKeySha256_eq_ok.mp verified
  exact ⟨given, key, certificateKey, publicKey, parsed, derived, same⟩

/-- An activation that changes a runtime has verified its key, and brings a file. -/
theorem changed_activation {input : ActivationInput} {outcomes : ActivationOutcomes}
    {state : RuntimeState}
    (changed : ChangesRuntime state.runtime
      (activatePackageRuntime runtimeCrypto input outcomes state).2.runtime [outcomes.probe]) :
    (∃ keySha256, verifiedKeySha256 runtimeCrypto input outcomes state.runtime =
      .ok keySha256) ∧ BringsFile input := by
  obtain ⟨path, differs, notLeft⟩ := changed
  obtain ⟨keySha256, prepared, copied⟩ := changed_inv differs fun leftover refused =>
    notLeft leftover (List.mem_singleton.mpr refused.symm)
  obtain ⟨_, verified, mismatches, compared, _⟩ := prepareActivation_eq_ok prepared
  exact ⟨⟨keySha256, verified⟩,
    bringsFile_of_changed copied (inside_of_compared copied_plain compared)⟩

/-- A command that changes a runtime activates a stage that was prepared, and that changes it. -/
theorem changed_command {planId receiptName : String} {first outcomes : ActivationOutcomes}
    {files : TargetFiles}
    (changed : ChangesRuntime files.state.runtime (activatePackageCommand crypto x509 runtimeCrypto
      request targetCfg packages packageId planId receiptName first outcomes files).runtime
        [first.probe, outcomes.probe]) :
    ∃ input, preparePackageActivation crypto x509 runtimeCrypto request targetCfg packages
        packageId planId files.stages = some input ∧
      ChangesRuntime files.state.runtime
        (activatePackageRuntime runtimeCrypto input outcomes files.state).2.runtime
          [outcomes.probe] := by
  obtain ⟨path, differs, notLeft⟩ := changed
  unfold activatePackageCommand at differs
  split at differs
  · exact absurd rfl differs
  · rename_i input prepared
    split at differs
    · rename_i message left raised
      rcases openRuntime_error raised with same | ⟨leftover, refused, same⟩
      · subst same
        exact absurd rfl differs
      · subst same
        exact absurd (notLeft leftover (refused ▸ List.mem_cons_self)) differs
    · split at differs
      · exact absurd rfl differs
      · rw [finish_runtime] at differs
        exact ⟨input, prepared, path, differs,
          fun leftover member => notLeft leftover (List.mem_cons_of_mem _ member)⟩

theorem changed_apply {planId generatedAt receiptName : String} {outcomes : ActivationOutcomes}
    {files : TargetFiles}
    (changed : ChangesRuntime files.state.runtime (applyComponentCertificate crypto x509
      runtimeCrypto request targetCfg env planId generatedAt receiptName outcomes files).runtime
        [outcomes.probe]) :
    ∃ stage, componentStage crypto x509 runtimeCrypto request targetCfg env planId generatedAt =
        some stage ∧
      ChangesRuntime files.state.runtime (activatePackageRuntime runtimeCrypto
        (stagedPackage runtimeCrypto targetCfg stage.manifest planId stage.shadow) outcomes
          files.state).2.runtime [outcomes.probe] := by
  obtain ⟨path, differs, notLeft⟩ := changed
  cases staged : componentStage crypto x509 runtimeCrypto request targetCfg env planId
      generatedAt with
  | none =>
      rw [applyComponentCertificate, staged] at differs
      exact absurd rfl differs
  | some stage =>
      rw [applyComponentCertificate_of_staged staged, finish_runtime] at differs
      exact ⟨stage, rfl, path, differs, notLeft⟩

end Runs

/-! ## A stage for every package -/

section Stage

variable (crypto : RuntimeCrypto) (packageId : String)

def oneFileValidation : Json :=
  .obj [("package_id", .str packageId), ("dry_run_only", .bool true),
    ("checksum_verified", .bool true)]

def oneFileChecksums : Json :=
  .obj [("files", .obj [("shadow-trust-store", checksumDocument [("c", crypto.sha256Hex [0])])])]

/-- A stage of a package with one file. -/
def oneFileStage : StageBundle where
  validation := some (some (oneFileValidation packageId))
  checksums := some (some (oneFileChecksums crypto))
  shadow := some [("c", [0])]

theorem oneFile_checksums (content : List UInt8) :
    collectStageChecksums crypto [("c", content)] = [("c", crypto.sha256Hex content)] := by
  have name : slashes "c" = "c" := by decide +kernel
  simp [collectStageChecksums, FileTree.listing, FileTree.read, setChecksum, name]

theorem oneFileStage_validated :
    ∃ found, findPackageStageBundle (some [("p", oneFileStage crypto packageId)]) packageId "p" =
        some found ∧
      validateStageBundle crypto found packageId = some [("c", [0])] := by
  refine ⟨⟨"p", oneFileValidation packageId, oneFileChecksums crypto, some [("c", [0])]⟩, ?_, ?_⟩
  · rw [findPackageStageBundle, Option.bind_eq_bind, Option.bind_some]
    exact if_pos rfl
  · have marked : isTrue ((oneFileValidation packageId).field? "dry_run_only") = true := rfl
    have verified : isTrue ((oneFileValidation packageId).field? "checksum_verified") = true := rfl
    have unblocked : (((oneFileValidation packageId).field? "blocking_reasons").getD .null).truthy =
        false := rfl
    have named : manifestText (oneFileValidation packageId) "package_id" = packageId := rfl
    have recorded : shadowChecksums (oneFileChecksums crypto) =
        [("c", .str (crypto.sha256Hex [0]))] := rfl
    have same : sameChecksums (collectStageChecksums crypto [("c", [0])])
        [("c", .str (crypto.sha256Hex [0]))] = true := by
      rw [oneFile_checksums]
      simp [sameChecksums, isText]
    simp [validateStageBundle, marked, named, verified, unblocked, recorded, same]

theorem oneFile_brings (content : List UInt8) (targetCfg manifest : Json) (planId : String) :
    BringsFile (stagedPackage crypto targetCfg manifest planId [("c", content)]) := by
  have plain : isPreservedRuntimePath "c" = false := by decide +kernel
  have led : resolveInside "c" = some "c" := by decide +kernel
  have copied : (stagedPackage crypto targetCfg manifest planId [("c", content)]).copied =
      [("c", crypto.sha256Hex content)] := by
    rw [ActivationInput.copied, ActivationInput.sortedChecksums, stagedPackage, oneFile_checksums]
    simp [plain]
  refine ⟨?_, ⟨_, _, copied, "c", content, led, rfl⟩⟩
  rw [copied]
  refine List.forall_mem_cons.mpr ⟨by rw [led]; rfl, ?_⟩
  exact fun entry member => absurd member List.not_mem_nil

end Stage

/-! ## Exactly when -/

section Owned

variable {PrivateKey PublicKey : Type} {crypto : Crypto PrivateKey PublicKey}
  {x509 : X509 PublicKey} {runtimeCrypto : RuntimeCrypto} {request : ActivationAttempt PrivateKey}
  {targetCfg : Json} {packages : String → CachedPackage} {packageId : String}
  {env : StageEnvironment}

theorem no_leftover {before : FileTree} {path : String} {leftover : Option (String × List UInt8)}
    {probes : List ProbeOutcome} (granted : ∀ probe ∈ probes, probe = .granted)
    (member : ProbeOutcome.refused leftover ∈ probes) :
    (before.leave "" leftover).read path = before.read path :=
  nomatch granted _ member

/-- A component apply is enabled for the targets with a runtime only. -/
theorem enabled_of_applies
    (applied : (request.forTarget targetCfg).componentApplyCertificate crypto x509 = .ok ()) :
    configText targetCfg "target" "" ∈
      ["fuxa", "opcua-server", "dmz-gateway-client", "dmz-gateway-server"] := by
  obtain ⟨_, _, _, ⟨_, _, mounted⟩, _⟩ :=
    ActivationAttempt.componentApplyCertificate_eq_ok.mp applied
  change request.settings.mountModeForComponentTarget (configText targetCfg "target" "") = "rw"
    at mounted
  unfold RuntimeSettings.mountModeForComponentTarget at mounted
  split at mounted
  · rename_i named
    simp [named]
  · split at mounted
    · rename_i named
      simp [named]
    · split at mounted
      · rename_i gateway
        rw [isGatewayTarget, Bool.or_eq_true, beq_iff_eq, beq_iff_eq] at gateway
        rcases gateway with named | named <;> simp [named]
      · exact absurd mounted (by decide)

theorem command_activates_own_iff (collisionFree : Function.Injective runtimeCrypto.sha256Hex) :
    CommandActivatesOwn crypto x509 runtimeCrypto request targetCfg packages packageId ↔
      CommandAdmitsOwn crypto x509 runtimeCrypto request targetCfg packages packageId := by
  constructor
  · intro owned attempt loaded accepted
      ⟨given, key, certificateKey, publicKey, parsed, derived, same⟩
    obtain ⟨found, isFound, validated⟩ := oneFileStage_validated runtimeCrypto packageId
    have enabled : configText targetCfg "target" "" ∈
        ["fuxa", "opcua-server", "dmz-gateway-client", "dmz-gateway-server"] := by
      have live := (ActivationAttempt.activatePackage_eq_ok.mp accepted).1
      rw [(loadPackage_eq_some loaded).2.2] at live
      change isLiveTarget (configText targetCfg "target" "") = true at live
      rw [isLiveTarget, Bool.or_eq_true, beq_iff_eq, beq_iff_eq] at live
      rcases live with named | named <;> simp [named]
    have prepared := preparePackageActivation_eq_some.mpr
      ⟨attempt, found, _, loaded, accepted, isFound, validated, rfl⟩
    obtain ⟨state, opened, verified, path, differs⟩ := exists_changed
      (oneFile_brings runtimeCrypto [0] targetCfg (.obj attempt.manifest) found.planId) enabled
      given parsed derived same
    let files : TargetFiles := ⟨some [("p", oneFileStage runtimeCrypto packageId)], none, state⟩
    have run : (activatePackageCommand crypto x509 runtimeCrypto request targetCfg packages
        packageId "p" "r" smoothOutcomes smoothOutcomes files).runtime =
          (activatePackageRuntime runtimeCrypto (stagedPackage runtimeCrypto targetCfg
            (.obj attempt.manifest) found.planId [("c", [0])]) smoothOutcomes state).2.runtime := by
      rw [activatePackageCommand, prepared]
      simp only [opened, verified, finish_runtime, files]
    obtain ⟨other, _, otherLoaded, _, belongs⟩ := owned "p" "r" smoothOutcomes smoothOutcomes files
      ⟨path, run ▸ differs, fun _ member => no_leftover (by simp [smoothOutcomes]) member⟩
    cases loaded.symm.trans otherLoaded
    exact belongs.application
  · intro admits planId receiptName first outcomes files changed
    obtain ⟨input, prepared, changedBy⟩ := changed_command changed
    obtain ⟨⟨keySha256, verified⟩, _⟩ := changed_activation changedBy
    obtain ⟨attempt, found, shadow, loaded, accepted, _, _, rfl⟩ :=
      preparePackageActivation_eq_some.mp prepared
    obtain ⟨_, ⟨_, ⟨digest, checked⟩, _⟩, _⟩ := ActivationAttempt.activatePackage_eq_ok.mp accepted
    have application := admits attempt loaded accepted (fitsAKey_of_verified verified)
    exact ⟨attempt, digest, loaded, checked,
      belongsTo_of_verified collisionFree application verified⟩

theorem apply_activates_own_iff (collisionFree : Function.Injective runtimeCrypto.sha256Hex) :
    ApplyActivatesOwn crypto x509 runtimeCrypto request targetCfg env ↔
      ApplyAdmitsOwn crypto x509 runtimeCrypto request targetCfg env := by
  constructor
  · intro owned manifest staged applied built written fits brings
    obtain ⟨given, key, certificateKey, publicKey, parsed, derived, same⟩ := fits
    obtain ⟨stage, isStage, rfl, shadow⟩ := componentStage_eq_some.mpr
      ⟨applied, built, staged, written, rfl⟩
    rw [← shadow] at brings
    obtain ⟨state, _, _, path, differs⟩ := exists_changed brings (enabled_of_applies applied)
      given parsed derived same
    have run : (applyComponentCertificate crypto x509 runtimeCrypto request targetCfg env "" "" "r"
        smoothOutcomes ⟨none, none, state⟩).runtime =
          (activatePackageRuntime runtimeCrypto (stagedPackage runtimeCrypto targetCfg
            stage.manifest "" stage.shadow) smoothOutcomes state).2.runtime := by
      rw [applyComponentCertificate_of_staged isStage, finish_runtime]
    obtain ⟨other, _, otherBuilt, _, belongs⟩ := owned "" "" "r" smoothOutcomes ⟨none, none, state⟩
      ⟨path, run ▸ differs, fun _ member => no_leftover (by simp [smoothOutcomes]) member⟩
    cases built.symm.trans otherBuilt
    exact belongs.application
  · intro admits planId generatedAt receiptName outcomes files changed
    obtain ⟨stage, staged, changedBy⟩ := changed_apply changed
    obtain ⟨⟨keySha256, verified⟩, brings⟩ := changed_activation changedBy
    obtain ⟨applied, built, state, written, tree⟩ :=
      componentStage_eq_some.mp ⟨stage, staged, rfl, rfl⟩
    obtain ⟨_, other, otherBuilt, _, ⟨digest, checked⟩, _⟩ :=
      ActivationAttempt.componentApplyCertificate_eq_ok.mp applied
    cases built.symm.trans otherBuilt
    rw [← tree] at brings verified
    have application := admits _ state applied built written (fitsAKey_of_verified verified)
      ⟨brings.inside, brings.first⟩
    exact ⟨_, digest, built, checked, belongsTo_of_verified collisionFree application verified⟩

end Owned

/-- Where SHA-256 tells public keys apart, the key of an activated package is that of the
runtime. Its application is the target's exactly when every package that the checks let
through, and whose certificate fits some private key, is of the target's application; for a
component apply, when the package brings a file besides. -/
theorem activated_package_belongs_iff {PrivateKey PublicKey : Type}
    (crypto : Crypto PrivateKey PublicKey) (x509 : X509 PublicKey) (runtimeCrypto : RuntimeCrypto)
    (collisionFree : Function.Injective runtimeCrypto.sha256Hex)
    (request : ActivationAttempt PrivateKey) (targetCfg : Json)
    (packages : String → CachedPackage) (packageId : String) (env : StageEnvironment) :
    (CommandActivatesOwn crypto x509 runtimeCrypto request targetCfg packages packageId ↔
        CommandAdmitsOwn crypto x509 runtimeCrypto request targetCfg packages packageId) ∧
      (ApplyActivatesOwn crypto x509 runtimeCrypto request targetCfg env ↔
        ApplyAdmitsOwn crypto x509 runtimeCrypto request targetCfg env) :=
  ⟨command_activates_own_iff collisionFree, apply_activates_own_iff collisionFree⟩

/-! ## A package of another application -/

/-- Two digits a byte tell all contents apart. -/
theorem plainCrypto_collisionFree : Function.Injective plainCrypto.sha256Hex := by
  intro left right same
  have chars := congrArg String.toList same
  simp only [plainCrypto, String.toList_ofList] at chars
  induction left generalizing right with
  | nil =>
      cases right with
      | nil => rfl
      | cons byte right => cases chars
  | cons byte left ih =>
      cases right with
      | nil => cases chars
      | cons other right =>
          simp only [List.flatMap_cons, List.cons_append, List.nil_append, List.cons.injEq] at chars
          obtain ⟨high, low, rest⟩ := chars
          have small := byte.toNat_lt
          have smallToo := other.toNat_lt
          have highs := NumberText.digitChar_inj (by omega) (by omega) high
          have lows := NumberText.digitChar_inj (by omega) (by omega) low
          have bytes : byte = other := UInt8.toNat_inj.mp (by omega)
          rw [bytes, ih (congrArg String.ofList rest) rest]

theorem certificate_fits (material : Gds.PackageMaterial) (given : material.issuedCert.pem ≠ "") :
    FitsAKey plainCrypto (issuedManifest material) :=
  ⟨given, [], [7], [7], rfl, rfl, rfl⟩

/-- The package of the gateway client is activated for FUXA, by both commands. -/
theorem foreign_package_activated :
    ¬ CommandActivatesOwn Gds.digestCrypto replaceX509 plainCrypto
        (issuedAttempt certificateMaterial) fuxaTarget (issuedCache certificateMaterial)
        examplePackageId.text ∧
      ¬ ApplyActivatesOwn Gds.digestCrypto replaceX509 plainCrypto
        (issuedAttempt certificateMaterial) fuxaTarget freshCrls := by
  have foreign :
      applicationUri (issuedManifest certificateMaterial) ≠ applicationUri fuxaTarget := by
    decide +kernel
  have fits := certificate_fits certificateMaterial (by decide)
  constructor
  · intro owned
    have manifest : Json.obj (issuedAttempt certificateMaterial).manifest =
        issuedManifest certificateMaterial := rfl
    have accepted : (issuedAttempt certificateMaterial).activatePackage Gds.digestCrypto
        replaceX509 = .ok () := by
      have compatible : packageCompatibilityStatus (issuedManifest certificateMaterial) =
          .ok "COMPATIBLE" := rfl
      rw [ActivationAttempt.activatePackage_eq_ok, ActivationAttempt.ActivatesPackages, manifest]
      exact ⟨by decide, certificate_admitted, rfl, rfl, compatible, by decide +kernel⟩
    have admits := (command_activates_own_iff plainCrypto_collisionFree).mp owned _
      (issued_loaded certificateMaterial) accepted
    rw [manifest] at admits
    exact foreign (admits fits)
  · intro owned
    obtain ⟨state, written, tree⟩ := certificate_written
    have brings := oneFile_brings plainCrypto (textBytes "certificate") fuxaTarget
      (issuedManifest certificateMaterial) ""
    rw [← tree] at brings
    exact foreign ((apply_activates_own_iff plainCrypto_collisionFree).mp owned _ state
      certificate_applies (issued_built certificateMaterial) written fits brings)

/-- The package of FUXA. -/
def fuxaMaterial : Gds.PackageMaterial :=
  { certificateMaterial with applicationUri := "urn:dataprotect:opcua:fuxa-client" }

theorem fuxa_package_belongs :
    CommandActivatesOwn Gds.digestCrypto replaceX509 plainCrypto (issuedAttempt fuxaMaterial)
        fuxaTarget (issuedCache fuxaMaterial) examplePackageId.text ∧
      ApplyActivatesOwn Gds.digestCrypto replaceX509 plainCrypto (issuedAttempt fuxaMaterial)
        fuxaTarget freshCrls := by
  have own : applicationUri (issuedManifest fuxaMaterial) = applicationUri fuxaTarget := by
    decide +kernel
  have exact := activated_package_belongs_iff Gds.digestCrypto replaceX509 plainCrypto
    plainCrypto_collisionFree (issuedAttempt fuxaMaterial) fuxaTarget (issuedCache fuxaMaterial)
    examplePackageId.text freshCrls
  refine ⟨exact.1.mpr fun attempt loaded _ _ => ?_, exact.2.mpr fun manifest _ _ built _ _ _ => ?_⟩
  · cases (issued_loaded fuxaMaterial).symm.trans loaded
    exact own
  · cases (issued_built fuxaMaterial).symm.trans built
    exact own

end OpcuaGds.Agent
