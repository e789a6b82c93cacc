import OpcuaGds.Foundation.Transition
import OpcuaGds.Gateway.ClientCommands

/-! # The lifecycle cycle of the DMZ gateway client

`command_lifecycle_once_one`: version check, pull, apply, renewal and the report to GDS,
and how GDS decides from the report whether there is a trust update.
-/

namespace OpcuaGds.Gateway

/-! ## What GDS answers -/

/-- The columns of `component_status` that the client reports from its caches. -/
structure ComponentStatus where
  trustArtifactSha256 : Option String
  lastPullStatus : String
  lastApplyStatus : String
  lastRenewalStatus : String
  deriving DecidableEq, Repr

/-- `str(status_row.get("trust_artifact_sha256") or "") if status_row else ""`. -/
def localHash (statusRow : Option ComponentStatus) : String :=
  ((statusRow.bind ComponentStatus.trustArtifactSha256).getD "")

/-- `_component_lifecycle_payload`, by the hash of the current artifact. -/
def componentLifecyclePayload (currentHash : String) (renewalRequired : Bool)
    (statusRow : Option ComponentStatus) : Json :=
  .obj [("registered", .bool true),
    ("renewal_required", .bool renewalRequired),
    ("trust_artifact_sha256", .str currentHash),
    ("trust_update_available",
      .bool (localHash statusRow == "" || localHash statusRow != currentHash)),
    ("component_reported_trust_artifact_sha256",
      if localHash statusRow = "" then .null else .str (localHash statusRow))]

/-! ## The report -/

/-- `json_bool(object, key, 0)`. -/
def jsonBool (object : Option Json) (key : String) : Bool := isTrue (item object key)

/-- `trust_version_from_cache`. -/
def trustVersionFromCache (cache : TargetCache) : Option Json :=
  cache "trust-version.json" <|>
    (cache "trust-material.json").filter fun doc => (getObjectItem doc "trust_material").isSome

/-- The hash that a document names: that of its trust material, or its own. -/
def namedSha256 (doc : Option Json) : Option String :=
  let source := item doc "trust_material" <|> doc
  valuestring? (item source "artifact_sha256") <|>
    valuestring? (item source "trust_artifact_sha256")

/-- The status of `post_component_status`. -/
def componentStatus (cache : TargetCache) (pullStatus applyStatus renewalStatus : String) :
    ComponentStatus where
  trustArtifactSha256 := namedSha256 (trustVersionFromCache cache)
  lastPullStatus := pullStatus
  lastApplyStatus := applyStatus
  lastRenewalStatus := renewalStatus

/-! ## A cycle -/

/-- The environment variables `DMZ_GDS_AUTO_*`, and those that an apply reads. A cycle sets
`DMZ_GDS_RUNTIME_WRITE_ENABLED` before each of its applies. -/
structure LifecycleSettings where
  autoPullTrust : Bool
  autoApplyTrust : Bool
  autoRenew : Bool
  autoRenewAllowed : Bool
  gds : GdsSettings

def LifecycleSettings.applySettings (settings : LifecycleSettings) : GdsSettings :=
  { settings.gds with runtimeWriteEnabled := true }

/-- What a cycle meets: the answers of GDS to its requests in the order in which it makes
them, whether each can be cached, the writes that its applies are granted, whether the
renewal is still cooling down, and whether the report arrives. A lifecycle answer that is no
JSON reads like `null`. -/
structure CycleInput where
  lifecycle : Option Json
  trustVersion : Answer
  material : Answer
  versionStored : Bool
  applyGranted : Nat → Bool
  coolingDown : Bool
  renewal : Answer
  certificateGranted : Nat → Bool
  statusDelivered : Bool

/-- The client of one target with the row that GDS keeps of it, the last report that it
sent, and the hashes of the trust material that it has pulled and that it has applied. -/
structure LifecycleState where
  cache : TargetCache
  runtime : FileTree
  pulled : List String
  applied : List String
  posted : Option ComponentStatus
  statusRow : Option ComponentStatus

/-- A client that has done nothing yet. -/
def LifecycleState.initial (runtime : FileTree) : LifecycleState where
  cache := fun _ => none
  runtime := runtime
  pulled := []
  applied := []
  posted := none
  statusRow := none

section Cycle

variable (ssl : OpenSsl) (target : GdsTarget) (settings : LifecycleSettings)

/-- An apply that returns 1 with all its writes granted. -/
def GatewayApply.completes (apply : GatewayApply) : Bool :=
  let result := apply.result ssl target
  result.succeeded && (List.range result.writes.length).all apply.granted

/-- The hash of the trust material that a complete apply has applied. -/
def GatewayApply.appliedSha256 (apply : GatewayApply) : Option String :=
  if apply.completes ssl target then
    (acceptedSource target.config apply.settings apply.cache apply.allowCertificate).bind
      fun source => artifactSha256 (trustMaterial source.trustDoc)
  else none

/-- An apply of a cycle. -/
def LifecycleState.apply (state : LifecycleState) (allowCertificate : Bool)
    (granted : Nat → Bool) : LifecycleState × Bool :=
  let call : GatewayApply := ⟨settings.applySettings, state.cache, allowCertificate, granted⟩
  ({ state with
      runtime := call.perform ssl target state.runtime
      applied := (call.appliedSha256 ssl target).toList ++ state.applied },
    (call.result ssl target).succeeded)

/-- The pull of a cycle. -/
def LifecycleState.pull (input : CycleInput) (state : LifecycleState) : LifecycleState × Bool :=
  let pulled := commandPullTrustOne target.config input.material input.versionStored state.cache
  ({ state with
      cache := pulled.1
      pulled :=
        (if pulled.2 then
          (artifactSha256 (item (input.material.body.getD none) "trust_material")).toList
        else []) ++ state.pulled },
    pulled.2)

/-- Pull and apply, with the two statuses. -/
def LifecycleState.updateTrust (input : CycleInput) (trustUpdate : Bool) (state : LifecycleState) :
    LifecycleState × String × String :=
  let (state, pullStatus) :=
    if trustUpdate ∧ settings.autoPullTrust then
      let (state, ok) := state.pull target input
      (state, if ok then "completed" else "failed")
    else (state, if trustUpdate then "skipped" else "not_needed")
  if trustUpdate ∧ settings.autoApplyTrust then
    let (state, ok) := state.apply ssl target settings false input.applyGranted
    (state, pullStatus, if ok then "completed" else "failed")
  else (state, pullStatus, "not_requested")

/-- The renewal with its status. -/
def LifecycleState.renew (input : CycleInput) (renewalRequired : Bool) (state : LifecycleState) :
    LifecycleState × String :=
  if ¬ renewalRequired then (state, "not_requested")
  else if ¬ settings.autoRenewAllowed then
    (state, if settings.autoRenew then "blocked_auto_renew_target_not_allowed"
      else "blocked_auto_renew_false")
  else if input.coolingDown then (state, "blocked_auto_renew_cooldown")
  else
    let (cache, renewed) := commandRenewOne target.config input.renewal state.cache
    let state := { state with cache := cache }
    if renewed then
      let (state, ok) := state.apply ssl target settings true input.certificateGranted
      (state, if ok then "applied" else "apply_failed")
    else (state, "failed")

/-- `post_component_status`. -/
def LifecycleState.post (delivered : Bool) (pullStatus applyStatus renewalStatus : String)
    (state : LifecycleState) : LifecycleState :=
  let status := componentStatus state.cache pullStatus applyStatus renewalStatus
  { state with
    posted := some status
    statusRow := if delivered then some status else state.statusRow }

/-- `command_lifecycle_once_one`. -/
def commandLifecycleOnceOne (input : CycleInput) (state : LifecycleState) : LifecycleState :=
  if target.config.remotePeerReadOnly then state
  else
    match input.lifecycle, input.trustVersion.body with
    | some life, some version =>
        let state := { state with
          cache := state.cache.store "trust-version.json" version input.trustVersion.stored }
        let (state, pullStatus, applyStatus) := state.updateTrust ssl target settings input
          (jsonBool (some life) "trust_update_available")
        let (state, renewalStatus) := state.renew ssl target settings input
          (jsonBool (some life) "renewal_required")
        state.post input.statusDelivered pullStatus applyStatus renewalStatus
    | _, _ => state.post input.statusDelivered "not_requested" "not_requested" "not_requested"

/-- One cycle after the other. -/
def LifecycleState.step (state : LifecycleState) (input : CycleInput) : Option LifecycleState :=
  some (commandLifecycleOnceOne ssl target settings input state)

end Cycle

/-! ## What a cycle reports and has done -/

/-- The pulled version file names the hash of its material. -/
theorem namedSha256_pulledVersion (config : TargetConfig) (material : Json) :
    namedSha256 (some (pulledVersion config material)) = artifactSha256 (some material) := by
  have names : ∀ name ∈ ["application_uri", "trust_artifact_version", "trust_artifact_revision",
      "trust_artifact_sha256", "crl_metadata"], CText.ofText name = name := by decide +kernel
  simp only [List.mem_cons, List.not_mem_nil, or_false, forall_eq_or_imp, forall_eq] at names
  obtain ⟨uri, version, revision, sha, crl⟩ := names
  unfold namedSha256 pulledVersion
  cases named : artifactSha256 (some material) with
  | none =>
      cases materialCrlMetadata material <;>
        simp [item, getObjectItem_nil, getObjectItem_cons, uri, version, revision, crl,
          valuestring?]
  | some value =>
      have text := ofText_valuestring named
      cases materialCrlMetadata material <;>
        simp [item, getObjectItem_nil, getObjectItem_cons, uri, version, revision, sha, crl,
          valuestring?, text]

namespace CycleInput

variable (settings : LifecycleSettings) (input : CycleInput) (config : TargetConfig)
  (cache : TargetCache)

/-- The cycle gets both answers of the version check. -/
def Checks : Prop :=
  config.remotePeerReadOnly = false ∧ input.lifecycle.isSome = true ∧
    input.trustVersion.body.isSome = true

instance : Decidable (input.Checks config) := inferInstanceAs (Decidable (_ ∧ _))

def trustUpdate : Bool := jsonBool input.lifecycle "trust_update_available"

def pulls : Bool := input.trustUpdate && settings.autoPullTrust

def applies : Bool := input.trustUpdate && settings.autoApplyTrust

/-- The cycle renews, and the answer is stored. -/
def renews : Bool :=
  jsonBool input.lifecycle "renewal_required" && settings.autoRenewAllowed &&
    !input.coolingDown && input.renewal.body.isSome && input.renewal.stored

/-- The cycle pulls, and the answer is stored. -/
def storesMaterial : Bool :=
  input.pulls settings && input.material.body.isSome && input.material.stored

/-- The trust material that the cycle stores. -/
def pulledMaterial : Option Json :=
  if input.storesMaterial settings then item (input.material.body.getD none) "trust_material"
  else none

def pulledSha256 : Option String := artifactSha256 (input.pulledMaterial settings)

/-- The hash that the two files of the version check name after the cycle: that of the
material it pulls, when the pull can write it down, and else that of what the version check
leaves. -/
def namedSha256 : Option String :=
  match input.pulledMaterial settings, input.versionStored with
  | some material, true => artifactSha256 (some material)
  | _, _ =>
      let version :=
        if input.trustVersion.stored then input.trustVersion.body.getD none
        else cache "trust-version.json"
      let material :=
        if input.storesMaterial settings then input.material.body.getD none
        else cache "trust-material.json"
      Gateway.namedSha256 (version <|>
        material.filter fun doc => (getObjectItem doc "trust_material").isSome)

/-- The cache after version check and pull. -/
def trustCache : TargetCache :=
  let checked := cache.store "trust-version.json" (input.trustVersion.body.getD none)
    input.trustVersion.stored
  if input.pulls settings then
    (commandPullTrustOne config input.material input.versionStored checked).1
  else checked

/-- The cache after the renewal. -/
def renewalCache : TargetCache :=
  Function.update (input.trustCache settings config cache) "renewal-result.json"
    (input.renewal.body.getD none)

section Applies

variable (ssl : OpenSsl) (target : GdsTarget)

/-- The apply of the pulled trust material, and that of the renewed certificate. -/
def trustApply : GatewayApply :=
  ⟨settings.applySettings, input.trustCache settings target.config cache, false,
    input.applyGranted⟩

def certificateApply : GatewayApply :=
  ⟨settings.applySettings, input.renewalCache settings target.config cache, true,
    input.certificateGranted⟩

/-- The hashes of the trust material that the cycle applies completely. -/
def appliedSha256s : List String :=
  (if input.renews settings then
    ((input.certificateApply settings cache target).appliedSha256 ssl target).toList
  else []) ++
    (if input.applies settings then
      ((input.trustApply settings cache target).appliedSha256 ssl target).toList
    else [])

end Applies

end CycleInput

section Effects

variable {settings : LifecycleSettings} {input : CycleInput} {config : TargetConfig}
  {cache : TargetCache}

theorem store_eq_ite (body : Option Json) (stored : Bool) (leaf : String) :
    cache.store leaf body stored leaf = if stored then body else cache leaf := by
  cases stored with
  | false => rfl
  | true => exact TargetCache.store_self

variable (config) in
/-- What the version check and the pull leave names the hash that the report sends. -/
theorem namedSha256_trustCache :
    Gateway.namedSha256 (trustVersionFromCache (input.trustCache settings config cache)) =
      input.namedSha256 settings cache := by
  have materialNotVersion : ("trust-material.json" : String) ≠ "trust-version.json" := by decide
  unfold CycleInput.trustCache CycleInput.namedSha256 CycleInput.pulledMaterial
    CycleInput.storesMaterial
  cases pulls : input.pulls settings with
  | false =>
      simp [trustVersionFromCache, store_eq_ite, TargetCache.store_of_ne materialNotVersion]
  | true =>
      unfold commandPullTrustOne TargetCache.receive
      cases body : input.material.body with
      | none =>
          simp [trustVersionFromCache, store_eq_ite, TargetCache.store_of_ne materialNotVersion]
      | some doc =>
          cases stored : input.material.stored with
          | false =>
              simp [trustVersionFromCache, store_eq_ite, TargetCache.store_refused,
                TargetCache.store_of_ne materialNotVersion]
          | true =>
              cases held : item doc "trust_material" with
              | none =>
                  simp [trustVersionFromCache, store_eq_ite, held,
                    TargetCache.store_of_ne materialNotVersion.symm]
              | some material =>
                  cases written : input.versionStored with
                  | false =>
                      simp [trustVersionFromCache, store_eq_ite, held, TargetCache.store_refused,
                        TargetCache.store_of_ne materialNotVersion.symm]
                  | true =>
                      simp [trustVersionFromCache, store_eq_ite, held, namedSha256_pulledVersion]

variable {ssl : OpenSsl} {target : GdsTarget}

theorem pull_pulled {state : LifecycleState} (pulls : input.pulls settings = true) :
    (state.pull target input).1.pulled =
      (input.pulledSha256 settings).toList ++ state.pulled := by
  unfold LifecycleState.pull CycleInput.pulledSha256 CycleInput.pulledMaterial
    CycleInput.storesMaterial
  dsimp only
  rw [pulls, Bool.true_and, commandPullTrustOne_succeeds]
  split <;> rfl

theorem pull_applied (state : LifecycleState) :
    (state.pull target input).1.applied = state.applied := rfl

theorem pull_statusRow (state : LifecycleState) :
    (state.pull target input).1.statusRow = state.statusRow := rfl

variable (settings input ssl target) in
/-- What the pull and the apply of a cycle do. -/
theorem updateTrust_effect (state : LifecycleState)
    (checked : state.cache = cache.store "trust-version.json"
      (input.trustVersion.body.getD none) input.trustVersion.stored) :
    let after := (state.updateTrust ssl target settings input input.trustUpdate).1
    after.cache = input.trustCache settings target.config cache ∧
      after.pulled = (input.pulledSha256 settings).toList ++ state.pulled ∧
      after.applied = (if input.applies settings then
          ((input.trustApply settings cache target).appliedSha256 ssl target).toList
        else []) ++ state.applied ∧
      after.statusRow = state.statusRow := by
  have noHash (pulls : input.pulls settings = false) : input.pulledSha256 settings = none := by
    rw [CycleInput.pulledSha256, CycleInput.pulledMaterial, CycleInput.storesMaterial, pulls]
    rfl
  have trustCache : input.trustCache settings target.config cache =
      if input.pulls settings then (state.pull target input).1.cache else state.cache := by
    rw [CycleInput.trustCache, ← checked]
    rfl
  unfold LifecycleState.updateTrust CycleInput.trustApply CycleInput.applies
  rw [trustCache]
  cases update : input.trustUpdate with
  | false =>
      have pulls : input.pulls settings = false := by rw [CycleInput.pulls, update]; rfl
      simp [pulls, noHash pulls]
  | true =>
      cases autoPull : settings.autoPullTrust with
      | false =>
          have pulls : input.pulls settings = false := by
            rw [CycleInput.pulls, update, autoPull]
            rfl
          cases settings.autoApplyTrust <;> simp [pulls, noHash pulls, LifecycleState.apply]
      | true =>
          have pulls : input.pulls settings = true := by
            rw [CycleInput.pulls, update, autoPull]
            rfl
          cases settings.autoApplyTrust <;>
            simp [pulls, pull_pulled pulls, pull_applied, pull_statusRow, LifecycleState.apply]

variable (settings input ssl) in
/-- What a renewal does. -/
theorem renew_effect (isLocal : target.config.remotePeerReadOnly = false)
    (state : LifecycleState) :
    let after := (state.renew ssl target settings input
      (jsonBool input.lifecycle "renewal_required")).1
    trustVersionFromCache after.cache = trustVersionFromCache state.cache ∧
      after.pulled = state.pulled ∧
      after.applied = (if input.renews settings then
          ((GatewayApply.mk settings.applySettings
            (Function.update state.cache "renewal-result.json" (input.renewal.body.getD none)) true
            input.certificateGranted).appliedSha256 ssl target).toList
        else []) ++ state.applied ∧
      after.statusRow = state.statusRow := by
  unfold LifecycleState.renew CycleInput.renews commandRenewOne
  cases jsonBool input.lifecycle "renewal_required" with
  | false => exact ⟨rfl, rfl, rfl, rfl⟩
  | true =>
      cases settings.autoRenewAllowed with
      | false => exact ⟨rfl, rfl, rfl, rfl⟩
      | true =>
          cases input.coolingDown with
          | true => exact ⟨rfl, rfl, rfl, rfl⟩
          | false =>
              unfold TargetCache.receive
              rw [isLocal]
              cases input.renewal.body with
              | none => exact ⟨rfl, rfl, rfl, rfl⟩
              | some body =>
                  cases input.renewal.stored with
                  | false => exact ⟨rfl, rfl, rfl, rfl⟩
                  | true => exact ⟨rfl, rfl, rfl, rfl⟩

theorem updateTrust_status (state : LifecycleState) (autoPull : settings.autoPullTrust = true) :
    (state.updateTrust ssl target settings input true).2.1 =
      if (state.pull target input).2 then "completed" else "failed" := by
  unfold LifecycleState.updateTrust
  rw [autoPull]
  cases settings.autoApplyTrust <;> rfl

variable (settings ssl) in
/-- The parts of a cycle that gets both answers. -/
theorem cycle_checked {version : Option Json} (checks : input.Checks target.config)
    (isVersion : input.trustVersion.body = some version) (state : LifecycleState) :
    let start : LifecycleState := { state with
      cache := state.cache.store "trust-version.json" version input.trustVersion.stored }
    let updated := start.updateTrust ssl target settings input input.trustUpdate
    let renewed := updated.1.renew ssl target settings input
      (jsonBool input.lifecycle "renewal_required")
    commandLifecycleOnceOne ssl target settings input state =
      renewed.1.post input.statusDelivered updated.2.1 updated.2.2 renewed.2 := by
  obtain ⟨isLocal, asked, _⟩ := checks
  obtain ⟨life, isLife⟩ := Option.isSome_iff_exists.mp asked
  simp only [commandLifecycleOnceOne, isLocal, isLife, isVersion, CycleInput.trustUpdate]
  rfl

/-- A pull of a cycle is reported as completed or failed. -/
theorem cycle_pulls (checks : input.Checks target.config) (pulls : input.pulls settings = true)
    (state : LifecycleState) :
    ∃ status, (commandLifecycleOnceOne ssl target settings input state).posted = some status ∧
      (status.lastPullStatus = "completed" ∨ status.lastPullStatus = "failed") := by
  obtain ⟨version, isVersion⟩ := Option.isSome_iff_exists.mp checks.2.2
  rw [cycle_checked settings ssl checks isVersion]
  refine ⟨_, rfl, ?_⟩
  rw [CycleInput.pulls, Bool.and_eq_true] at pulls
  rw [componentStatus, pulls.1, updateTrust_status _ pulls.2]
  split
  · exact Or.inl rfl
  · exact Or.inr rfl

variable (settings ssl) in
/-- What a cycle that gets both answers reports and has done. -/
theorem cycle_effect (checks : input.Checks target.config) (state : LifecycleState) :
    let after := commandLifecycleOnceOne ssl target settings input state
    after.posted.bind ComponentStatus.trustArtifactSha256 =
        input.namedSha256 settings state.cache ∧
      Gateway.namedSha256 (trustVersionFromCache after.cache) =
        input.namedSha256 settings state.cache ∧
      after.pulled = (input.pulledSha256 settings).toList ++ state.pulled ∧
      after.applied = input.appliedSha256s settings state.cache ssl target ++ state.applied ∧
      after.statusRow =
        if input.statusDelivered then after.posted else state.statusRow := by
  obtain ⟨version, isVersion⟩ := Option.isSome_iff_exists.mp checks.2.2
  let start : LifecycleState := { state with
    cache := state.cache.store "trust-version.json" version input.trustVersion.stored }
  let updated := start.updateTrust ssl target settings input input.trustUpdate
  let renewed := updated.1.renew ssl target settings input
    (jsonBool input.lifecycle "renewal_required")
  have cycle : commandLifecycleOnceOne ssl target settings input state =
      renewed.1.post input.statusDelivered updated.2.1 updated.2.2 renewed.2 :=
    cycle_checked settings ssl checks isVersion state
  have stored : start.cache = state.cache.store "trust-version.json"
      (input.trustVersion.body.getD none) input.trustVersion.stored := by
    rw [isVersion]
    rfl
  obtain ⟨trustCache, pulled, applied, row⟩ :=
    updateTrust_effect settings input ssl target start stored
  obtain ⟨sameVersion, samePulled, certificate, sameRow⟩ :=
    renew_effect settings input ssl checks.1 updated.1
  have named : Gateway.namedSha256 (trustVersionFromCache renewed.1.cache) =
      input.namedSha256 settings state.cache := by
    rw [sameVersion, trustCache, namedSha256_trustCache]
  rw [cycle]
  refine ⟨named, named, samePulled.trans pulled, ?_, ?_⟩
  · refine certificate.trans ?_
    rw [applied, CycleInput.appliedSha256s, List.append_assoc, CycleInput.certificateApply,
      CycleInput.renewalCache, ← trustCache]
  · refine congrArg (fun other => if input.statusDelivered then _ else other) ?_
    exact sameRow.trans row

/-- A cycle that does not get both answers reports from the cache as it is. -/
theorem cycle_unchecked (isLocal : target.config.remotePeerReadOnly = false)
    (unchecked : ¬ input.Checks target.config) (state : LifecycleState) :
    commandLifecycleOnceOne ssl target settings input state =
      state.post input.statusDelivered "not_requested" "not_requested" "not_requested" := by
  unfold commandLifecycleOnceOne
  rw [isLocal]
  split
  · cases ‹false = true›
  · split
    · rename_i life version isLife isVersion
      refine absurd ⟨isLocal, ?_, ?_⟩ unchecked
      · rw [isLife]
        rfl
      · rw [isVersion]
        rfl
    · rfl

end Effects

end OpcuaGds.Gateway
