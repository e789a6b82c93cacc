import OpcuaGds.Agent.ActivationSuccess
import OpcuaGds.Agent.PackageStaging

/-! # The plan and the copies

The swap plan of a stage says what an activation is to write and what it keeps. The copies do
not ask the plan: when they keep to it.
-/

namespace OpcuaGds.Agent

section Statements

variable (files : List RuntimeEntry) (stagedChecksums : List (String × String))
  (replaceAllowed : List String) (input : ActivationInput)

/-- A listed file that the plan may replace. -/
def Replaceable (path : String) : Prop :=
  path ∈ replaceAllowed ∧ isPrivateKeyPath (pathName path) path = false ∨
    isGdsManagedStagePath path = true ∧ isChainOrCrlPath (PythonText.lower path) = true

/-- The plan is to write the staged file: the runtime does not list it, or it lists it with
another hash and it may be replaced. -/
def MayWrite (entry : String × String) : Prop :=
  entry.1 ∉ currentPaths files ∨
    ∃ current, currentHash? files entry.1 = some current ∧ entry.2 ≠ current ∧
      Replaceable replaceAllowed entry.1

/-- The plan is to keep a path: of a staged path a listed file of another hash that may not be
replaced, or a private key; of the others the listed files below the managed directories. -/
def MustKeep (path : String) : Prop :=
  (∃ sha256 current, stagedChecksums.lookup path = some sha256 ∧
      currentHash? files path = some current ∧ sha256 ≠ current ∧
        ¬ Replaceable replaceAllowed path) ∨
    (path ∈ currentPaths files ∧ path ∉ stagedPaths stagedChecksums ∧ isManagedPath path = true) ∨
    (path ∈ stagedPaths stagedChecksums ∧ path ∈ currentPaths files ∧
      currentHash? files path = none ∧
        (currentEntryOf? files path).bind RuntimeEntry.type = some "private_key")

/-- The copies agree with the conditions of the plan: each may be written, and none leads to
another content for a path that is to be kept. -/
structure CopiesFollowPlan (before : FileTree) : Prop where
  written : ∀ entry ∈ input.copied, MayWrite files replaceAllowed entry
  kept : ∀ entry ∈ input.copied, ∀ path content, input.Staged entry path content →
    MustKeep files stagedChecksums replaceAllowed path → before.read path = some content

/-- The staged files that a call has written, by its receipt. -/
def ActivationResult.writtenPaths : ActivationResult → List String
  | .alreadyActivated => []
  | .activated receipt => receipt.changedFiles.map ChangedFile.relativePath

/-- What the conservative merge promises of an activation. -/
structure RespectsPlan (plan : RuntimeComparison) (result : ActivationResult)
    (before after : FileTree) : Prop where
  preserved : ∀ entry ∈ plan.preservedRuntimeEntries,
    after.read entry.relativePath = before.read entry.relativePath
  written : ∀ path ∈ result.writtenPaths, path ∈ plan.filesToAdd ∨ path ∈ plan.filesToReplace
  nothingRemoved : ∀ path, (before.read path).isSome → (after.read path).isSome

/-- What the conservative merge promises of an activation that raises, which may leave a
temporary file. -/
structure LeavesPlan (outcomes : ActivationOutcomes) (plan : RuntimeComparison)
    (before after : FileTree) : Prop where
  preserved : ∀ entry ∈ plan.preservedRuntimeEntries, ∀ content,
    before.read entry.relativePath = some content → after.read entry.relativePath = some content
  changed : ∀ path, after.read path ≠ before.read path →
    (∃ rel, (rel ∈ plan.filesToAdd ∨ rel ∈ plan.filesToReplace) ∧ resolveInside rel = some path) ∨
      before.read path = none ∧ ∃ content, Temporary input outcomes path content
  nothingRemoved : ∀ path, (before.read path).isSome → (after.read path).isSome

end Statements

section Plan

variable {files : List RuntimeEntry} {stagedChecksums : List (String × String)}
  {replaceAllowed : List String} {mergePolicy path : String}

/-- The preserved entries of a plan, by its input. -/
theorem mem_preserved_iff_mustKeep :
    (∃ entry ∈ (compareRuntimeToStage files stagedChecksums replaceAllowed
        mergePolicy).preservedRuntimeEntries, entry.relativePath = path) ↔
      MustKeep files stagedChecksums replaceAllowed path := by
  rw [mem_preserved, mem_decidedPaths, mem_deletionCandidatePaths, mem_listedKeys, MustKeep,
    decideUpdate_eq, ← isSome_lookup_iff]
  refine or_congr_left ?_
  cases given : stagedChecksums.lookup path with
  | none => simp
  | some sha256 =>
      cases listed : currentHash? files path with
      | none => simp
      | some current =>
          by_cases same : sha256 = current
          · simp [same]
          · by_cases allowed : path ∈ replaceAllowed ∧
              isPrivateKeyPath (pathName path) path = false
            · simp [same, allowed, Replaceable]
            · simp [same, allowed, Replaceable]

/-- The paths that a plan adds or replaces, by its input. -/
theorem mem_written_iff_mayWrite {entry : String × String}
    (given : stagedChecksums.lookup entry.1 = some entry.2) :
    (entry.1 ∈ (compareRuntimeToStage files stagedChecksums replaceAllowed
        mergePolicy).filesToAdd ∨
      entry.1 ∈ (compareRuntimeToStage files stagedChecksums replaceAllowed
        mergePolicy).filesToReplace) ↔ MayWrite files replaceAllowed entry := by
  have staged : entry.1 ∈ stagedPaths stagedChecksums := by
    rw [← isSome_lookup_iff, given]
    rfl
  rw [mem_filesToAdd, mem_filesToReplace, MayWrite, and_iff_right staged]
  refine or_congr_right ⟨?_, ?_⟩
  · rintro ⟨sha256, current, givenToo, listed, differs, replaceable⟩
    cases given.symm.trans givenToo
    exact ⟨current, listed, differs, replaceable⟩
  · rintro ⟨current, listed, differs, replaceable⟩
    exact ⟨entry.2, current, given, listed, differs, replaceable⟩

end Plan

/-! ## An activation against its plan -/

section Activation

variable {crypto : RuntimeCrypto} {input : ActivationInput} {outcomes : ActivationOutcomes}
  {state after : RuntimeState} {files : List RuntimeEntry} {replaceAllowed : List String}

theorem mem_stageChecksums_of_copied {entry : String × String} (member : entry ∈ input.copied) :
    entry ∈ input.stageChecksums :=
  (List.mem_insertionSort _).mp (List.mem_filter.mp member).1

theorem not_differs_of_matches {runtime : FileTree} {entry : String × String}
    (found : Matches crypto runtime entry) : ¬ Differs crypto runtime entry := by
  intro differs
  obtain ⟨path, content, led, held, same⟩ := found
  obtain ⟨other, otherLed, differs⟩ := differs
  cases led.symm.trans otherLed
  exact differs content held same

/-- What is written is what was copied. -/
theorem Activated.mem_writtenPaths {receipt : ActivationReceipt} {path : String}
    (activated : Activated crypto input outcomes state after receipt) :
    path ∈ (ActivationResult.activated receipt).writtenPaths ↔
      ∃ entry ∈ input.copied, entry.1 = path := by
  rw [ActivationResult.writtenPaths, activated.changedFiles, List.mem_map]

/-- A place that a copied file leads to has its content afterwards. -/
theorem Activated.read_of_led {receipt : ActivationReceipt} {path : String}
    {entry : String × String} (activated : Activated crypto input outcomes state after receipt)
    (member : entry ∈ input.copied) (led : resolveInside entry.1 = some path) :
    ∃ content, input.Staged entry path content ∧ after.runtime.read path = some content := by
  obtain ⟨other, content, staged, _⟩ := activated.settles entry member
  cases led.symm.trans staged.1
  exact ⟨content, staged, activated.inPlace entry member path content staged⟩

/-- No activation removes a file. -/
theorem Activated.nothingRemoved {receipt : ActivationReceipt} {path : String}
    (activated : Activated crypto input outcomes state after receipt)
    (completed : Completed crypto input outcomes state after)
    (there : (state.runtime.read path).isSome) : (after.runtime.read path).isSome := by
  by_cases led : ∃ entry ∈ input.copied, resolveInside entry.1 = some path
  · obtain ⟨entry, member, led⟩ := led
    obtain ⟨content, _, found⟩ := activated.read_of_led member led
    rw [found]
    rfl
  · rw [completed.others path fun entry member elsewhere => led ⟨entry, member, elsewhere⟩]
    exact there

/-- An activation that copies keeps to the plan exactly if its copies do. -/
theorem Activated.respectsPlan_iff {receipt : ActivationReceipt} {mergePolicy : String}
    (activated : Activated crypto input outcomes state after receipt)
    (completed : Completed crypto input outcomes state after)
    (nodup : (input.stageChecksums.map Prod.fst).Nodup) :
    RespectsPlan (compareRuntimeToStage files input.stageChecksums replaceAllowed mergePolicy)
        (.activated receipt) state.runtime after.runtime ↔
      CopiesFollowPlan files input.stageChecksums replaceAllowed input state.runtime := by
  have given (entry : String × String) (member : entry ∈ input.copied) :
      input.stageChecksums.lookup entry.1 = some entry.2 :=
    lookup_of_mem nodup (mem_stageChecksums_of_copied member)
  constructor
  · intro respects
    refine ⟨fun entry member => ?_, fun entry member path content staged keep => ?_⟩
    · have written := respects.written entry.1
        (activated.mem_writtenPaths.mpr ⟨entry, member, rfl⟩)
      exact (mem_written_iff_mayWrite (given entry member)).mp written
    · obtain ⟨kept, listed, rfl⟩ := mem_preserved_iff_mustKeep.mpr keep
      have same := respects.preserved kept listed
      rw [← same]
      exact activated.inPlace entry member _ content staged
  · intro follows
    refine ⟨fun kept listed => ?_, fun path written => ?_, fun path there => ?_⟩
    · have keep := mem_preserved_iff_mustKeep.mp ⟨kept, listed, rfl⟩
      by_cases led : ∃ entry ∈ input.copied, resolveInside entry.1 = some kept.relativePath
      · obtain ⟨entry, member, led⟩ := led
        obtain ⟨content, staged, found⟩ := activated.read_of_led member led
        rw [found, follows.kept entry member _ content staged keep]
      · exact completed.others _ fun entry member elsewhere => led ⟨entry, member, elsewhere⟩
    · obtain ⟨entry, member, rfl⟩ := activated.mem_writtenPaths.mp written
      exact (mem_written_iff_mayWrite (given entry member)).mpr (follows.written entry member)
    · exact activated.nothingRemoved completed there

/-- Copies that follow the plan leave it respected when the activation raises. -/
theorem leavesPlan_of_raised {message mergePolicy : String}
    (raised : activatePackageRuntime crypto input outcomes state = (.error message, after))
    (nodup : (input.stageChecksums.map Prod.fst).Nodup)
    (follows : CopiesFollowPlan files input.stageChecksums replaceAllowed input state.runtime) :
    LeavesPlan input outcomes
      (compareRuntimeToStage files input.stageChecksums replaceAllowed mergePolicy)
      state.runtime after.runtime := by
  have every := (activation_error (congrArg Prod.fst raised)).2
  rw [raised] at every
  refine ⟨fun kept listed content there => ?_, fun path differs => ?_, fun path there => ?_⟩
  · have keep := mem_preserved_iff_mustKeep.mp ⟨kept, listed, rfl⟩
    rcases every kept.relativePath with same | ⟨other, found, ⟨entry, member, staged⟩ | ⟨free, _⟩⟩
    · rw [same, there]
    · rw [found, ← follows.kept entry member _ other staged keep, there]
    · rw [there] at free
      cases free
  · rcases every path with same | ⟨other, _, ⟨entry, member, staged⟩ | ⟨free, temporary⟩⟩
    · exact absurd same differs
    · have given := lookup_of_mem nodup (mem_stageChecksums_of_copied member)
      exact .inl ⟨entry.1, (mem_written_iff_mayWrite given).mpr (follows.written entry member),
        staged.1⟩
    · exact .inr ⟨free, other, temporary⟩
  · rcases every path with same | ⟨other, found, _⟩
    · rwa [same]
    · rw [found]
      rfl

end Activation

/-- An activation of a stage, on the runtime that its plan was made for, respects the plan
exactly if there is nothing to copy, or every copied path may be written and none leads to
another content for a path that is to be kept. Copies of that kind also leave the plan
respected when the activation raises. -/
theorem merge_respected_iff (crypto : RuntimeCrypto) (env : StageEnvironment)
    (inspection : RuntimeInspection) (request : StageRequest) (outcomes : ActivationOutcomes)
    (state after : RuntimeState) (shadowBefore incomingBefore : FileTree) (stage : PackageStage)
    (staged : stagePackageActivationDryRun crypto env inspection request state.runtime shadowBefore
      incomingBefore = some stage) :
    (∀ result, activatePackageRuntime crypto (stage.activation crypto request) outcomes state =
        (.ok result, after) →
      (RespectsPlan stage.swapPlan result state.runtime after.runtime ↔
        (∀ entry ∈ (stage.activation crypto request).copied,
            ¬ Differs crypto state.runtime entry) ∨
          CopiesFollowPlan (inspectCurrentRuntime crypto inspection state.runtime)
            (stage.activation crypto request).stageChecksums request.replaceAllowed
            (stage.activation crypto request) state.runtime)) ∧
      ∀ message, activatePackageRuntime crypto (stage.activation crypto request) outcomes state =
          (.error message, after) →
        CopiesFollowPlan (inspectCurrentRuntime crypto inspection state.runtime)
            (stage.activation crypto request).stageChecksums request.replaceAllowed
            (stage.activation crypto request) state.runtime →
          LeavesPlan (stage.activation crypto request) outcomes stage.swapPlan state.runtime
            after.runtime := by
  have nodup : ((stage.activation crypto request).stageChecksums.map Prod.fst).Nodup :=
    nodup_collectStageChecksums crypto stage.shadow
  rw [swapPlan_of_staged staged]
  refine ⟨fun result returned => ?_, fun message raised => leavesPlan_of_raised raised nodup⟩
  have completed := completed_of_returned returned
  cases result with
  | alreadyActivated =>
      obtain ⟨rfl, _⟩ := already_activated_inv returned
      refine iff_of_true ⟨fun _ _ => rfl, nofun, fun _ there => there⟩ (.inl ?_)
      exact fun entry member => not_differs_of_matches (completed.isMatch entry member)
  | activated receipt =>
      have activated := activated_of_returned returned
      obtain ⟨entry, member, differs⟩ := activated.differs
      rw [activated.respectsPlan_iff completed nodup]
      exact ⟨.inr, fun held => held.resolve_left fun same => same entry member differs⟩

/-! ## The DER form of a certificate -/

/-- A package for FUXA; its certificate is staged in PEM form and in DER form. -/
def renewalRequest : StageRequest where
  targetCfg := .obj [("target", .str "fuxa"), ("runtime_root", .str "/runtime/fuxa/PKI")]
  manifest := .obj [("package_id", .str "pkg-1"), ("certificate_pem", .str "B"),
    ("install_plan", .obj [("target_layout",
      .obj [("application_certificate", .str "own/certs/c.pem")])])]
  planId := "plan-1"
  gateStatus := "ready_for_staging"
  gateBlockedReason := ""
  mergePolicy := "conservative_merge"

def renewalEnvironment : StageEnvironment :=
  { freshCrls with pemCertToDer := fun _ => some [0x30] }

def openInspection : RuntimeInspection where
  rootAvailable := true
  readable := fun _ => true
  subject := fun _ => none

/-- The runtime has the certificate in PEM form only. -/
def pemRuntime : RuntimeState where
  runtime := [("own/certs/c.pem", [0x41]), ("own/private/private_key.pem", [9])]
  snapshot := []
  manifest := none
  receipts := []

/-- It has both forms. -/
def derRuntime : RuntimeState :=
  { pemRuntime with runtime := ("own/certs/c.der", [0x31]) :: pemRuntime.runtime }

def stagedRenewal (runtime : RuntimeState) : Option PackageStage :=
  stagePackageActivationDryRun plainCrypto renewalEnvironment openInspection renewalRequest
    runtime.runtime [] []

/-- What is activated, whatever the runtime was. -/
def renewalInput : ActivationInput :=
  stagedPackage plainCrypto renewalRequest.targetCfg renewalRequest.manifest "plan-1"
    [("own/certs/c.der", [0x30]), ("own/certs/c.pem", [0x42])]

theorem renewalInput_copied : renewalInput.copied =
    [("own/certs/c.der", "30"), ("own/certs/c.pem", "42")] := by
  decide +kernel

/-- The stage of the package, with what its plan preserves. -/
theorem stagedRenewal_eq (runtime : RuntimeState) (preserved : List String)
    (computed : (stagedRenewal runtime).map (fun stage => (stage.planId, stage.shadow,
        stage.swapPlan.preservedRuntimeEntries.map PreservedEntry.relativePath)) =
      some ("plan-1", renewalInput.shadow, preserved)) :
    ∃ stage, stagedRenewal runtime = some stage ∧
      stage.activation plainCrypto renewalRequest = renewalInput ∧
        stage.swapPlan.preservedRuntimeEntries.map PreservedEntry.relativePath = preserved := by
  obtain ⟨stage, staged, values⟩ := Option.map_eq_some_iff.mp computed
  obtain ⟨planId, shadow, listed⟩ : stage.planId = "plan-1" ∧ stage.shadow = renewalInput.shadow ∧
      stage.swapPlan.preservedRuntimeEntries.map PreservedEntry.relativePath = preserved := by
    simpa only [Prod.mk.injEq] using values
  refine ⟨stage, staged, ?_, listed⟩
  rw [PackageStage.activation, planId, shadow]
  rfl

/-- The plan preserves the DER file, and the activation overwrites it. -/
theorem der_certificate_overwritten :
    ∃ stage receipt after, stagedRenewal derRuntime = some stage ∧
      activatePackageRuntime plainCrypto (stage.activation plainCrypto renewalRequest)
          smoothOutcomes derRuntime = (.ok (.activated receipt), after) ∧
        ¬ RespectsPlan stage.swapPlan (.activated receipt) derRuntime.runtime after.runtime := by
  obtain ⟨stage, staged, input, listed⟩ := stagedRenewal_eq derRuntime
    ["own/certs/c.der"] (by decide +kernel)
  have outcome : isActivated (activatePackageRuntime plainCrypto renewalInput smoothOutcomes
        derRuntime).1 = true ∧
      (activatePackageRuntime plainCrypto renewalInput smoothOutcomes
        derRuntime).2.runtime.read "own/certs/c.der" = some [0x30] := by decide +kernel
  obtain ⟨receipt, returned⟩ := exists_receipt _ outcome.1
  refine ⟨stage, receipt, _, staged, input ▸ returned, fun respects => ?_⟩
  have kept : "own/certs/c.der" ∈
      stage.swapPlan.preservedRuntimeEntries.map PreservedEntry.relativePath := by
    rw [listed]
    exact List.mem_singleton_self _
  obtain ⟨entry, member, named⟩ := List.mem_map.mp kept
  have same := respects.preserved entry member
  rw [named, input, outcome.2] at same
  exact absurd same (by decide +kernel)

/-- Where the runtime has the PEM file only and the plan preserves nothing, the copies follow
the plan. -/
theorem pem_renewal_follows_plan {mergePolicy : String}
    (nothing : (compareRuntimeToStage (inspectCurrentRuntime plainCrypto openInspection
      pemRuntime.runtime) renewalInput.stageChecksums renewalRequest.replaceAllowed
        mergePolicy).preservedRuntimeEntries.map PreservedEntry.relativePath = []) :
    CopiesFollowPlan (inspectCurrentRuntime plainCrypto openInspection pemRuntime.runtime)
      renewalInput.stageChecksums renewalRequest.replaceAllowed renewalInput
      pemRuntime.runtime := by
  refine ⟨?_, fun _ _ path _ _ keep => ?_⟩
  · rw [renewalInput_copied]
    refine List.forall_mem_cons.mpr ⟨.inl (by decide +kernel), ?_⟩
    refine List.forall_mem_cons.mpr ⟨.inr ⟨"41", by decide +kernel, by decide, .inl ?_⟩, nofun⟩
    exact ⟨by decide +kernel, by decide +kernel⟩
  · obtain ⟨entry, listed, _⟩ := mem_preserved_iff_mustKeep.mpr keep
    rw [List.map_eq_nil_iff.mp nothing] at listed
    cases listed

theorem pem_renewal_respects_plan :
    ∃ stage receipt after, stagedRenewal pemRuntime = some stage ∧
      activatePackageRuntime plainCrypto (stage.activation plainCrypto renewalRequest)
          smoothOutcomes pemRuntime = (.ok (.activated receipt), after) ∧
        RespectsPlan stage.swapPlan (.activated receipt) pemRuntime.runtime after.runtime := by
  obtain ⟨stage, staged, input, nothing⟩ := stagedRenewal_eq pemRuntime []
    (by decide +kernel)
  obtain ⟨receipt, returned⟩ := exists_receipt (activatePackageRuntime plainCrypto
    renewalInput smoothOutcomes pemRuntime) (by decide +kernel)
  rw [← input] at returned
  refine ⟨stage, receipt, _, staged, returned, ?_⟩
  refine ((merge_respected_iff plainCrypto renewalEnvironment openInspection renewalRequest
    smoothOutcomes pemRuntime _ [] [] stage staged).1 _ returned).mpr (.inr ?_)
  rw [swapPlan_of_staged staged, input] at nothing
  rw [input]
  exact pem_renewal_follows_plan nothing

end OpcuaGds.Agent
