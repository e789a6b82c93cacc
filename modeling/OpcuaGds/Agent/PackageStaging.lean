import OpcuaGds.Agent.PackageStage
import OpcuaGds.Agent.RuntimeActivation
import OpcuaGds.Agent.RuntimeComparison

/-! # The stage of a package and its plan

`stage_package_activation_dry_run`: the shadow tree of a package, its checksums, and the swap
plan against the runtime as it is. What an activation then gets.
-/

namespace OpcuaGds.Agent

/-! ## The inspection of the runtime -/

/-- What `inspect_current_runtime_readonly` meets: a file may be denied or unreadable, and its
content may be a certificate. -/
structure RuntimeInspection where
  rootAvailable : Bool
  readable : String → Bool
  subject : List UInt8 → Option String

section Inspection

variable (crypto : RuntimeCrypto) (inspection : RuntimeInspection)

/-- `_private_key_skip_item`. -/
def privateKeySkipItem (rel : String) : RuntimeEntry :=
  { RuntimeEntry.empty with relativePath := rel, type := some "private_key" }

def inspectRuntimeFile (file : String × List UInt8) : RuntimeEntry :=
  let rel := slashes file.1
  if isPrivateFile file.1 then privateKeySkipItem rel
  else if inspection.readable file.1 then
    { RuntimeEntry.empty with
      relativePath := rel
      sha256 := some (crypto.sha256Hex file.2)
      subject := inspection.subject file.2 }
  else { RuntimeEntry.empty with relativePath := rel }

/-- The `files` of `inspect_current_runtime_readonly`. -/
def inspectCurrentRuntime (runtime : FileTree) : List RuntimeEntry :=
  if inspection.rootAvailable = false then []
  else runtime.listing.map (inspectRuntimeFile crypto inspection)

end Inspection

/-! ## Checksums -/

/-- `checksums[rel] = sha256`. -/
def setChecksum (rel sha256 : String) (checksums : List (String × String)) :
    List (String × String) :=
  (rel, sha256) :: checksums.filter fun entry => entry.1 ≠ rel

/-- `_collect_stage_checksums`. -/
def collectStageChecksums (crypto : RuntimeCrypto) (tree : FileTree) : List (String × String) :=
  tree.listing.foldl
    (fun checksums file => setChecksum (slashes file.1) (crypto.sha256Hex file.2) checksums) []

theorem nodup_setChecksum {checksums : List (String × String)}
    (nodup : (checksums.map Prod.fst).Nodup) (rel sha256 : String) :
    ((setChecksum rel sha256 checksums).map Prod.fst).Nodup := by
  rw [setChecksum, List.map_cons, List.nodup_cons]
  refine ⟨fun member => ?_, nodup.sublist (List.filter_sublist.map Prod.fst)⟩
  obtain ⟨entry, kept, same⟩ := List.mem_map.mp member
  exact of_decide_eq_true (List.mem_filter.mp kept).2 same

/-- Every staged path has one checksum. -/
theorem nodup_collectStageChecksums (crypto : RuntimeCrypto) (tree : FileTree) :
    ((collectStageChecksums crypto tree).map Prod.fst).Nodup := by
  have kept (files : FileTree) (checksums : List (String × String))
      (nodup : (checksums.map Prod.fst).Nodup) :
      ((files.foldl (fun checksums file =>
        setChecksum (slashes file.1) (crypto.sha256Hex file.2) checksums) checksums).map
          Prod.fst).Nodup := by
    induction files generalizing checksums with
    | nil => exact nodup
    | cons file files ih => exact ih _ (nodup_setChecksum nodup _ _)
  exact kept tree.listing [] List.nodup_nil

theorem lookup_of_mem {entries : List (String × String)} (nodup : (entries.map Prod.fst).Nodup)
    {entry : String × String} (member : entry ∈ entries) :
    entries.lookup entry.1 = some entry.2 := by
  induction entries with
  | nil => cases member
  | cons first rest ih =>
      obtain ⟨fresh, later⟩ := List.nodup_cons.mp nodup
      rw [List.lookup_cons]
      rcases List.mem_cons.mp member with rfl | inRest
      · rw [beq_self_eq_true]
      · have other : entry.1 ≠ first.1 := fun same => fresh (same ▸ List.mem_map_of_mem inRest)
        rw [beq_eq_false_iff_ne.mpr other]
        exact ih later inRest

/-! ## The stage -/

/-- What is activated: the stage of a package and its checksums. -/
def stagedPackage (crypto : RuntimeCrypto) (targetCfg manifest : Json) (planId : String)
    (shadow : FileTree) : ActivationInput where
  target := ((targetCfg.field? "target").getD (.str "")).toStr
  runtimeRoot := ((targetCfg.field? "runtime_root").getD (.str "")).toStr
  certificatePem := manifestText manifest "certificate_pem"
  packageId := manifestText manifest "package_id"
  planId := planId
  shadow := shadow
  stageChecksums := collectStageChecksums crypto shadow

/-- The arguments of `stage_package_activation_dry_run`. -/
structure StageRequest where
  targetCfg : Json
  manifest : Json
  planId : String
  gateStatus : String
  gateBlockedReason : String
  mergePolicy : String

/-- `package_replace_allowed`. -/
def StageRequest.replaceAllowed (request : StageRequest) : List String :=
  let path :=
    if ((request.targetCfg.field? "layout_kind").getD (.str "")).toStr =
        "open62541-opcua-server" then
      "ApplCerts/own/certs/server.der"
    else
      slashes (orElse (((targetLayout request.manifest).field? "application_certificate").getD
        .null) (.str "")).toStr
  if path = "" then [] else [path]

/-- A stage: its trees, the documents about them, and the swap plan. -/
structure PackageStage where
  target : String
  planId : String
  packageId : String
  shadow : FileTree
  incoming : FileTree
  checksums : List (String × String)
  incomingChecksums : List (String × String)
  swapPlan : RuntimeComparison
  checksumVerified : Bool
  blockingReasons : List String

/-- `stage_package_activation_dry_run`, over the trees of an earlier stage of the plan; `none`
when it raises. -/
def stagePackageActivationDryRun (crypto : RuntimeCrypto) (env : StageEnvironment)
    (inspection : RuntimeInspection) (request : StageRequest) (runtime : FileTree)
    (shadowBefore incomingBefore : FileTree) : Option PackageStage := do
  let files := inspectCurrentRuntime crypto inspection runtime
  let incoming ← (writePackageStageMaterial env request.targetCfg request.manifest
    incomingBefore).toOption
  let shadow ← (writePackageStageMaterial env request.targetCfg request.manifest
    shadowBefore).toOption
  let checksums := collectStageChecksums crypto shadow.tree
  let verified := decide (collectStageChecksums crypto shadow.tree = checksums)
  some {
    target := ((request.targetCfg.field? "target").getD (.str "")).toStr
    planId := request.planId
    packageId := ((request.manifest.field? "package_id").getD (.str "unknown-package")).toStr
    shadow := shadow.tree
    incoming := incoming.tree
    checksums := checksums
    incomingChecksums := collectStageChecksums crypto incoming.tree
    swapPlan := compareRuntimeToStage files checksums request.replaceAllowed request.mergePolicy
    checksumVerified := verified
    blockingReasons :=
      (if verified then [] else ["stage_checksum_verification_failed"]) ++
        if request.gateStatus ∈ ["ready_for_staging", "emergency_override_ready"] then []
        else [request.gateBlockedReason] }

/-- The activation of a stage. -/
def PackageStage.activation (crypto : RuntimeCrypto) (request : StageRequest)
    (stage : PackageStage) : ActivationInput :=
  stagedPackage crypto request.targetCfg request.manifest stage.planId stage.shadow

section Stage

variable {crypto : RuntimeCrypto} {env : StageEnvironment} {inspection : RuntimeInspection}
  {request : StageRequest} {runtime shadowBefore incomingBefore : FileTree} {stage : PackageStage}

/-- The plan compares the runtime with the checksums that an activation gets. -/
theorem swapPlan_of_staged
    (staged : stagePackageActivationDryRun crypto env inspection request runtime shadowBefore
      incomingBefore = some stage) :
    stage.swapPlan = compareRuntimeToStage (inspectCurrentRuntime crypto inspection runtime)
      (stage.activation crypto request).stageChecksums request.replaceAllowed
        request.mergePolicy := by
  obtain ⟨incoming, _, rest⟩ := Option.bind_eq_some_iff.mp staged
  obtain ⟨shadow, _, built⟩ := Option.bind_eq_some_iff.mp rest
  cases built
  rfl

end Stage

end OpcuaGds.Agent
