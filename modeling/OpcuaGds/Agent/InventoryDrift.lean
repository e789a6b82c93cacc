import OpcuaGds.Agent.ComponentTrust
import OpcuaGds.Agent.CrlNames
import OpcuaGds.Agent.Quarantine
import OpcuaGds.Agent.RuntimeFrame
import OpcuaGds.Agent.SyncCycle
import OpcuaGds.Foundation.Dict

/-! # Drift between the trust lists and the runtimes

`build_inventory_drift_report` compares the certificates that the cached artifact of each target
lists with those that the inspection of its runtime finds, by their fingerprints. What the report
says is exactly where the two differ; after an apply of the artifact nothing that it lists is
missing.
-/

namespace OpcuaGds.Agent

/-! ## The report -/

/-- What `inspect_current_runtime_readonly` meets. -/
structure DriftInspection where
  rootAvailable : Bool
  readable : String → Bool
  metadata : List UInt8 → Option CertificateMetadata

/-- A target with its runtime and what is read of its cached artifact. -/
structure DriftTarget where
  targetCfg : Json
  runtime : FileTree
  inspection : DriftInspection
  cached : Except Failure (Option Json)

/-- An item of the report. -/
inductive DriftItem where
  | artifactMissing (target zone role : String)
  | certMissing (target zone role : String) (cert : Json) (fingerprint : String)
      (artifactRevision : Json)
  | certUnknown (target zone role : String) (relativePath fingerprint subject : String)

def DriftItem.toJson : DriftItem → List (String × Json)
  | .artifactMissing target zone role =>
      [("type", .str "gds_artifact_missing_cache"), ("target", .str target), ("zone", .str zone),
        ("role", .str role)]
  | .certMissing target zone role cert fingerprint artifactRevision =>
      [("type", .str "gds_cert_missing_runtime"), ("target", .str target), ("zone", .str zone),
        ("role", .str role),
        ("application_uri", (cert.field? "application_uri").getD .null),
        ("common_name", (cert.field? "common_name").getD .null),
        ("fingerprint_sha256", .str fingerprint), ("artifact_revision", artifactRevision)]
  | .certUnknown target zone role relativePath fingerprint subject =>
      [("type", .str "runtime_cert_unknown"), ("target", .str target), ("zone", .str zone),
        ("role", .str role), ("relative_path", .str relativePath),
        ("fingerprint_sha256", .str fingerprint), ("subject", .str subject)]

structure DriftReport where
  driftId : String
  generatedAt : String
  syncCycleId : String
  status : String
  driftCount : Nat
  items : List DriftItem

/-- The certificates of an artifact that have a fingerprint, by it. -/
def gdsByFp (artifact : Json) : Dict String Json :=
  .ofList ((certificateEntries artifact).filterMap fun cert =>
    let fp := (cert.field? "fingerprint_sha256").getD .null
    if cert.isObject && fp.truthy then some (PythonText.lower fp.toStr, cert) else none)

namespace DriftTarget

variable (target : DriftTarget)

def name : String := configText target.targetCfg "target" "unknown"

def zone : String := configText target.targetCfg "artifact_zone" ""

def role : String := configText target.targetCfg "artifact_role" ""

/-- A file that the inspection takes for a certificate with a fingerprint. -/
def inspectedCertificate (file : String × List UInt8) :
    Option (String × String × CertificateMetadata) :=
  if isPrivateFile file.1 || !target.inspection.readable file.1 then none
  else
    (target.inspection.metadata file.2).bind fun metadata =>
      if metadata.fingerprintSha256 = "" then none
      else some (PythonText.lower metadata.fingerprintSha256, slashes file.1, metadata)

/-- The certificates of the runtime, by their fingerprints. -/
def runtimeByFp : Dict String (String × CertificateMetadata) :=
  if target.inspection.rootAvailable then
    .ofList (target.runtime.listing.filterMap target.inspectedCertificate)
  else .empty

/-- What the artifact lists and the runtime does not have. -/
def missingFromRuntime (artifact : Json) : List DriftItem :=
  ((gdsByFp artifact).items.filter fun item => (target.runtimeByFp.get? item.1).isNone).map
    fun item => .certMissing target.name target.zone target.role item.2 item.1
      ((artifact.field? "artifact_revision").getD .null)

/-- What the runtime has and the artifact does not list. -/
def unknownToArtifact (artifact : Json) : List DriftItem :=
  (target.runtimeByFp.items.filter fun item => ((gdsByFp artifact).get? item.1).isNone).map
    fun item => .certUnknown target.name target.zone target.role item.2.1 item.1 item.2.2.subject

/-- The items of one target. -/
def drift : Except Failure (List DriftItem) :=
  match target.cached with
  | .error failure => .error failure
  | .ok none => .ok [.artifactMissing target.name target.zone target.role]
  | .ok (some artifact) =>
      if artifact.truthy = false then .ok [.artifactMissing target.name target.zone target.role]
      else if artifact.isObject = false then .error .raised
      else .ok (target.missingFromRuntime artifact ++ target.unknownToArtifact artifact)

end DriftTarget

/-- `build_inventory_drift_report`. -/
def buildInventoryDriftReport (driftId generatedAt syncCycleId : String)
    (targets : List DriftTarget) : Except Failure DriftReport := do
  let items := (← targets.mapM DriftTarget.drift).flatten
  return {
    driftId := driftId
    generatedAt := generatedAt
    syncCycleId := syncCycleId
    status := if items.isEmpty then "ok" else "drift_detected"
    driftCount := items.length
    items := items }

/-! ## What the report is about -/

/-- The artifact has a certificate of this fingerprint. -/
def ListsFingerprint (artifact : Json) (fp : String) : Prop :=
  ∃ cert ∈ certificateEntries artifact, cert.isObject = true ∧ ∃ value,
    cert.field? "fingerprint_sha256" = some value ∧ value.truthy = true ∧
      PythonText.lower value.toStr = fp

/-- The runtime has a certificate of this fingerprint, in a file that is neither taken for a
private key nor unreadable. -/
def DriftTarget.Holds (target : DriftTarget) (fp : String) : Prop :=
  target.inspection.rootAvailable = true ∧
    ∃ path content metadata, target.runtime.read path = some content ∧
      isPrivateFile path = false ∧ target.inspection.readable path = true ∧
      target.inspection.metadata content = some metadata ∧ metadata.fingerprintSha256 ≠ "" ∧
      PythonText.lower metadata.fingerprintSha256 = fp

/-- The artifact that the target is compared with. -/
def DriftTarget.IsCompared (target : DriftTarget) (artifact : Json) : Prop :=
  target.cached = .ok (some artifact) ∧ artifact.truthy = true

/-- No difference. -/
def DriftTarget.InStep (target : DriftTarget) : Prop :=
  ∃ artifact, target.IsCompared artifact ∧ ∀ fp, ListsFingerprint artifact fp ↔ target.Holds fp

/-- The fingerprint of an item about a certificate that the runtime does not have. -/
def DriftItem.missing? : DriftItem → Option String
  | .certMissing _ _ _ _ fp _ => some fp
  | _ => none

/-- The fingerprint of an item about a certificate that the artifact does not list. -/
def DriftItem.unknown? : DriftItem → Option String
  | .certUnknown _ _ _ _ fp _ => some fp
  | _ => none

/-- The items are the differences of the target, each one once. -/
structure DriftTarget.IsAccount (target : DriftTarget) (items : List DriftItem) : Prop where
  uncompared : (¬ ∃ artifact, target.IsCompared artifact) →
    items = [.artifactMissing target.name target.zone target.role]
  compared : ∀ artifact, target.IsCompared artifact →
    items.length = (items.filterMap DriftItem.missing?).length +
      (items.filterMap DriftItem.unknown?).length
  missing : ∀ artifact, target.IsCompared artifact →
    ∀ fp, fp ∈ items.filterMap DriftItem.missing? ↔ ListsFingerprint artifact fp ∧ ¬ target.Holds fp
  unknown : ∀ artifact, target.IsCompared artifact →
    ∀ fp, fp ∈ items.filterMap DriftItem.unknown? ↔ target.Holds fp ∧ ¬ ListsFingerprint artifact fp
  missingOnce : (items.filterMap DriftItem.missing?).Nodup
  unknownOnce : (items.filterMap DriftItem.unknown?).Nodup

section Keys

variable {artifact : Json} {target : DriftTarget} {fp : String}

theorem isSome_gdsByFp :
    ((gdsByFp artifact).get? fp).isSome = true ↔ ListsFingerprint artifact fp := by
  rw [gdsByFp, Dict.isSome_get?_ofList, ListsFingerprint]
  constructor
  · rintro ⟨value, member⟩
    obtain ⟨cert, among, isEntry⟩ := List.mem_filterMap.mp member
    dsimp only at isEntry
    split at isEntry
    · rename_i given
      obtain ⟨rfl, rfl⟩ := Prod.mk.inj (Option.some.inj isEntry)
      rw [Bool.and_eq_true] at given
      refine ⟨cert, among, given.1, ?_⟩
      cases held : cert.field? "fingerprint_sha256" with
      | none => simp [held, Json.truthy] at given
      | some value => exact ⟨value, rfl, by simpa [held] using given.2, rfl⟩
    · cases isEntry
  · rintro ⟨cert, among, isObject, value, held, truthy, rfl⟩
    refine ⟨cert, List.mem_filterMap.mpr ⟨cert, among, ?_⟩⟩
    simp [held, isObject, truthy]

theorem isSome_runtimeByFp : (target.runtimeByFp.get? fp).isSome = true ↔ target.Holds fp := by
  rw [DriftTarget.runtimeByFp, DriftTarget.Holds]
  cases target.inspection.rootAvailable with
  | false => simp
  | true =>
      simp only [if_true, true_and]
      rw [Dict.isSome_get?_ofList]
      constructor
      · rintro ⟨value, member⟩
        obtain ⟨⟨path, content⟩, listed, found⟩ := List.mem_filterMap.mp member
        rw [DriftTarget.inspectedCertificate] at found
        split at found
        · cases found
        · rename_i taken
          obtain ⟨metadata, isCertificate, found⟩ := Option.bind_eq_some_iff.mp found
          split at found
          · cases found
          · rename_i named
            obtain ⟨rfl, rfl⟩ := Prod.mk.inj (Option.some.inj found)
            simp only [Bool.or_eq_true, not_or, Bool.not_eq_true, Bool.not_eq_false'] at taken
            exact ⟨path, content, metadata, FileTree.mem_listing.mp listed, taken.1, taken.2,
              isCertificate, named, rfl⟩
      · rintro ⟨path, content, metadata, read, isPublic, readable, isCertificate, named, rfl⟩
        refine ⟨(slashes path, metadata), List.mem_filterMap.mpr
          ⟨(path, content), FileTree.mem_listing.mpr read, ?_⟩⟩
        simp [DriftTarget.inspectedCertificate, isPublic, readable, isCertificate, named]

theorem missing_missingFromRuntime : (target.missingFromRuntime artifact).filterMap
    DriftItem.missing? =
      (gdsByFp artifact).keys.filter fun fp => (target.runtimeByFp.get? fp).isNone := by
  rw [DriftTarget.missingFromRuntime, Dict.keys, List.filterMap_map, List.filter_map,
    ← List.filterMap_eq_map]
  rfl

theorem unknown_missingFromRuntime :
    (target.missingFromRuntime artifact).filterMap DriftItem.unknown? = [] := by
  rw [DriftTarget.missingFromRuntime, List.filterMap_map]
  exact List.filterMap_eq_nil_iff.mpr fun _ _ => rfl

theorem unknown_unknownToArtifact : (target.unknownToArtifact artifact).filterMap
    DriftItem.unknown? =
      target.runtimeByFp.keys.filter fun fp => ((gdsByFp artifact).get? fp).isNone := by
  rw [DriftTarget.unknownToArtifact, Dict.keys, List.filterMap_map, List.filter_map,
    ← List.filterMap_eq_map]
  rfl

theorem missing_unknownToArtifact :
    (target.unknownToArtifact artifact).filterMap DriftItem.missing? = [] := by
  rw [DriftTarget.unknownToArtifact, List.filterMap_map]
  exact List.filterMap_eq_nil_iff.mpr fun _ _ => rfl

theorem mem_listed_filter : (fp ∈ (gdsByFp artifact).keys.filter fun fp =>
    (target.runtimeByFp.get? fp).isNone) ↔ ListsFingerprint artifact fp ∧ ¬ target.Holds fp := by
  rw [List.mem_filter, Dict.mem_keys, isSome_gdsByFp, ← isSome_runtimeByFp, ← Option.not_isSome,
    Bool.not_eq_true', Bool.not_eq_true]

theorem mem_found_filter : (fp ∈ target.runtimeByFp.keys.filter fun fp =>
    ((gdsByFp artifact).get? fp).isNone) ↔ target.Holds fp ∧ ¬ ListsFingerprint artifact fp := by
  rw [List.mem_filter, Dict.mem_keys, isSome_runtimeByFp, ← isSome_gdsByFp, ← Option.not_isSome,
    Bool.not_eq_true', Bool.not_eq_true]

theorem drift_eq (compared : target.IsCompared artifact) {items : List DriftItem}
    (built : target.drift = .ok items) :
    items = target.missingFromRuntime artifact ++ target.unknownToArtifact artifact := by
  obtain ⟨cached, truthy⟩ := compared
  rw [DriftTarget.drift, cached] at built
  dsimp only at built
  rw [truthy, if_neg (by decide)] at built
  split at built
  · cases built
  · cases built
    rfl

theorem drift_eq_of_uncompared (uncompared : ¬ ∃ artifact, target.IsCompared artifact)
    {items : List DriftItem} (built : target.drift = .ok items) :
    items = [.artifactMissing target.name target.zone target.role] := by
  rw [DriftTarget.drift] at built
  split at built
  · cases built
  · cases built
    rfl
  · rename_i artifact cached
    split at built
    · cases built
      rfl
    · rename_i truthy
      exact absurd ⟨artifact, cached, Bool.not_eq_false _ ▸ truthy⟩ uncompared

/-- The items of a target are its differences. -/
theorem isAccount_drift {items : List DriftItem} (built : target.drift = .ok items) :
    target.IsAccount items := by
  by_cases compared : ∃ artifact, target.IsCompared artifact
  · obtain ⟨artifact, isCompared⟩ := compared
    have only : ∀ other, target.IsCompared other → other = artifact := by
      intro other otherCompared
      have same := otherCompared.1.symm.trans isCompared.1
      simpa using same
    have isMissing : items.filterMap DriftItem.missing? =
        (gdsByFp artifact).keys.filter fun fp => (target.runtimeByFp.get? fp).isNone := by
      rw [drift_eq isCompared built, List.filterMap_append, missing_missingFromRuntime,
        missing_unknownToArtifact, List.append_nil]
    have isUnknown : items.filterMap DriftItem.unknown? =
        target.runtimeByFp.keys.filter fun fp => ((gdsByFp artifact).get? fp).isNone := by
      rw [drift_eq isCompared built, List.filterMap_append, unknown_missingFromRuntime,
        unknown_unknownToArtifact, List.nil_append]
    refine ⟨fun uncompared => absurd ⟨artifact, isCompared⟩ uncompared, ?_, ?_, ?_, ?_, ?_⟩
    · intro _ _
      rw [isMissing, isUnknown, drift_eq isCompared built, List.length_append,
        DriftTarget.missingFromRuntime, DriftTarget.unknownToArtifact, List.length_map,
        List.length_map, Dict.keys, Dict.keys, List.filter_map, List.filter_map, List.length_map,
        List.length_map]
      rfl
    · intro other otherCompared fp
      rw [only other otherCompared, isMissing]
      exact mem_listed_filter
    · intro other otherCompared fp
      rw [only other otherCompared, isUnknown]
      exact mem_found_filter
    · rw [isMissing]
      exact (gdsByFp artifact).nodup.filter _
    · rw [isUnknown]
      exact target.runtimeByFp.nodup.filter _
  · have single := drift_eq_of_uncompared compared built
    refine ⟨fun _ => single, ?_, ?_, ?_, ?_, ?_⟩
    iterate 3 exact fun artifact isCompared => absurd ⟨artifact, isCompared⟩ compared
    · rw [single]
      exact List.nodup_nil
    · rw [single]
      exact List.nodup_nil

/-- No item means no difference. -/
theorem DriftTarget.IsAccount.isEmpty_iff {items : List DriftItem}
    (account : target.IsAccount items) : items.isEmpty = true ↔ target.InStep := by
  rw [List.isEmpty_iff]
  constructor
  · rintro rfl
    by_cases compared : ∃ artifact, target.IsCompared artifact
    · obtain ⟨artifact, isCompared⟩ := compared
      refine ⟨artifact, isCompared, fun fp => ⟨fun listed => ?_, fun holds => ?_⟩⟩
      · by_contra absent
        simpa using (account.missing artifact isCompared fp).mpr ⟨listed, absent⟩
      · by_contra absent
        simpa using (account.unknown artifact isCompared fp).mpr ⟨holds, absent⟩
    · simpa using account.uncompared compared
  · rintro ⟨artifact, isCompared, same⟩
    have noMissing : items.filterMap DriftItem.missing? = [] := by
      refine List.eq_nil_iff_forall_not_mem.mpr fun fp member => ?_
      obtain ⟨listed, absent⟩ := (account.missing artifact isCompared fp).mp member
      exact absent ((same fp).mp listed)
    have noUnknown : items.filterMap DriftItem.unknown? = [] := by
      refine List.eq_nil_iff_forall_not_mem.mpr fun fp member => ?_
      obtain ⟨holds, absent⟩ := (account.unknown artifact isCompared fp).mp member
      exact absent ((same fp).mpr holds)
    have length := account.compared artifact isCompared
    rw [noMissing, noUnknown] at length
    exact List.length_eq_zero_iff.mp length

end Keys

/-! ## The whole report -/

theorem isEmpty_flatten_iff {targets : List DriftTarget} {parts : List (List DriftItem)}
    (accounts : List.Forall₂ DriftTarget.IsAccount targets parts) :
    parts.flatten.isEmpty = true ↔ ∀ target ∈ targets, target.InStep := by
  induction accounts with
  | nil => simp
  | cons account _ ih =>
      rw [List.forall_mem_cons, ← account.isEmpty_iff, ← ih, List.flatten_cons, List.isEmpty_iff,
        List.isEmpty_iff, List.isEmpty_iff, List.append_eq_nil_iff]

/-- The report consists of the accounts of the targets in their order, and it is ok exactly when
every target is compared with an artifact that lists what its runtime holds. -/
theorem inventory_drift_exact {driftId generatedAt syncCycleId : String}
    {targets : List DriftTarget} {report : DriftReport}
    (built : buildInventoryDriftReport driftId generatedAt syncCycleId targets = .ok report) :
    (∃ parts, List.Forall₂ DriftTarget.IsAccount targets parts ∧
      report.items = parts.flatten ∧ report.driftCount = (parts.map List.length).sum) ∧
      (report.status = "ok" ↔ ∀ target ∈ targets, target.InStep) := by
  rw [buildInventoryDriftReport] at built
  obtain ⟨parts, isParts, isReport⟩ := Fallible.bind_eq_ok.mp built
  cases isReport
  have accounts : List.Forall₂ DriftTarget.IsAccount targets parts :=
    (Fallible.forall₂_of_mapM isParts).imp fun _ _ => isAccount_drift
  refine ⟨⟨parts, accounts, rfl, List.length_flatten⟩, ?_⟩
  rw [← isEmpty_flatten_iff accounts]
  dsimp only
  cases parts.flatten.isEmpty <;> decide

theorem mem_driftItems {driftId generatedAt syncCycleId : String} {targets : List DriftTarget}
    {report : DriftReport}
    (built : buildInventoryDriftReport driftId generatedAt syncCycleId targets = .ok report)
    {item : DriftItem} (member : item ∈ report.items) :
    ∃ target ∈ targets, ∃ items, target.drift = .ok items ∧ item ∈ items := by
  rw [buildInventoryDriftReport] at built
  obtain ⟨parts, isParts, isReport⟩ := Fallible.bind_eq_ok.mp built
  cases isReport
  obtain ⟨items, among, inItems⟩ := List.mem_flatten.mp member
  obtain ⟨target, isTarget, drift⟩ := Fallible.exists_of_mem_mapM isParts among
  exact ⟨target, isTarget, items, drift, inItems⟩

/-- One certificate is in both places, one only in the artifact. -/
def driftingTarget : DriftTarget where
  targetCfg := .obj [("target", .str "opcua-server")]
  runtime := [("trusted/certs/peer.der", [1])]
  inspection := ⟨true, fun _ => true, fun _ => some ⟨"AA", "CN=peer", "1"⟩⟩
  cached := .ok (some (.obj [("certificates", .arr [.obj [("fingerprint_sha256", .str "aa")],
    .obj [("fingerprint_sha256", .str "bb")]])]))

theorem driftingTarget_not_inStep : ¬ driftingTarget.InStep := by
  have notOk : ¬ ("drift_detected" = "ok") := by decide
  have built : buildInventoryDriftReport "1" "now" "cycle" [driftingTarget] =
      .ok ⟨"1", "now", "cycle", "drift_detected", 1,
        [.certMissing "opcua-server" "" "" (.obj [("fingerprint_sha256", .str "bb")]) "bb"
          .null]⟩ := rfl
  rw [(inventory_drift_exact built).2, List.forall_mem_singleton] at notOk
  exact notOk

end OpcuaGds.Agent
