import OpcuaGds.Foundation.JsonPython
import OpcuaGds.Foundation.RunCost
import OpcuaGds.Gateway.ReportedTrust

/-! # The trust update loop between GDS and the client

GDS answers the lifecycle cycles of a client from its latest artifact and from the last report of
the client, and makes new artifacts at any time, also between two requests of one cycle.
-/

namespace OpcuaGds.Gateway

/-! ## What GDS answers -/

/-- The latest row of `trust_artifacts` for the zone and role of the client. Its hash is a text
without a null character. -/
structure TrustArtifactRow where
  trustlistVersion : Nat
  artifactRevision : Nat
  artifactSha256 : String
  signatureBase64 : String
  signerKeyId : String
  signerFingerprintSha256 : String
  generatedAt : Json
  expiresAt : Json
  artifact : Json
  isHash : artifactSha256 ≠ "" ∧ CText.ofText artifactSha256 = artifactSha256

/-- What the answers take from the application. -/
structure ApplicationAnswer where
  applicationUri : String
  runtimeInstanceId : Json
  zone : String
  role : String
  component : Json
  certificateGroup : Json
  activeCertificate : Json
  latestPackage : Json
  generatedAt : String

/-- `artifact.get(key)`, with a default. -/
def TrustArtifactRow.get (row : TrustArtifactRow) (key : String) (default : Json) : Json :=
  (row.artifact.field? key).getD default

/-- `_current_component_trust_version` of the latest row, with the schema that
`get_component_trust_version` adds. -/
def currentComponentTrustVersion (app : ApplicationAnswer) (row : TrustArtifactRow) : Json :=
  let crlMetadata := row.get "crl_metadata" (.obj [])
  .obj [("application_uri", .str app.applicationUri),
    ("zone", .str app.zone),
    ("role", .str app.role),
    ("trust_artifact_version", .int row.trustlistVersion),
    ("trust_artifact_revision", .int row.artifactRevision),
    ("trust_artifact_sha256", .str row.artifactSha256),
    ("generated_at", row.generatedAt),
    ("expires_at", row.expiresAt),
    ("crl_freshness_verified",
      .bool ((crlMetadata.field? "crl_freshness_verified").getD .null).truthy),
    ("crl_metadata", crlMetadata),
    ("schema", .str "labshock_gds_component_trust_version_v1")]

/-- The `artifact_signature` of a trust material. -/
def artifactSignatureOf (app : ApplicationAnswer) (row : TrustArtifactRow) : Json :=
  .obj [("zone", .str app.zone),
    ("role", .str app.role),
    ("version", .int row.trustlistVersion),
    ("artifact_revision", .int row.artifactRevision),
    ("artifact_sha256", .str row.artifactSha256),
    ("signature_base64", .str row.signatureBase64),
    ("generated_at", row.generatedAt),
    ("expires_at", row.expiresAt),
    ("signer", .obj [("key_id", .str row.signerKeyId),
      ("algorithm",
        ((row.get "signer" (.obj [])).field? "algorithm").getD (.str "ed25519")),
      ("fingerprint_sha256", .str row.signerFingerprintSha256)])]

/-- The answer of `_trust_material_for_application` with a row. -/
def trustMaterialForApplication (app : ApplicationAnswer) (row : TrustArtifactRow) : Json :=
  .obj [("schema", .str "labshock_gds_component_trust_material_v1"),
    ("generated_at", .str app.generatedAt),
    ("application_uri", .str app.applicationUri),
    ("runtime_instance_id", app.runtimeInstanceId),
    ("component", app.component),
    ("certificate_group", app.certificateGroup),
    ("active_certificate", app.activeCertificate),
    ("latest_package", app.latestPackage),
    ("trust_material", .obj [("zone", .str app.zone),
      ("role", .str app.role),
      ("trustlist_version", .int row.trustlistVersion),
      ("artifact_revision", .int row.artifactRevision),
      ("artifact_sha256", .str row.artifactSha256),
      ("artifact", row.artifact),
      ("artifact_signature", artifactSignatureOf app row),
      ("ca_chain_pem", row.get "ca_chain_pem" .null),
      ("crl_base64", row.get "crl_base64" .null),
      ("crl_bundle", row.get "crl_bundle" (.obj [])),
      ("crl_metadata", row.get "crl_metadata" (.obj [])),
      ("certificates", row.get "certificates" (.arr []))]),
    ("private_key_included", .bool false)]

/-! ## Runs -/

/-- A cycle of the client: which of its requests are answered, which answers are stored, and the
artifacts that GDS makes between the lifecycle and the version answer, and after that. The rest
is as in `CycleInput`. -/
structure LoopCycle where
  lifecycleAnswered : Bool
  renewalRequired : Bool
  madeBeforeVersion : List TrustArtifactRow
  versionAnswered : Bool
  versionStored : Bool
  madeBeforeMaterial : List TrustArtifactRow
  materialAnswered : Bool
  materialStored : Bool
  pulledVersionStored : Bool
  applyGranted : Nat → Bool
  coolingDown : Bool
  renewal : Answer
  certificateGranted : Nat → Bool
  statusDelivered : Bool

inductive LoopEvent where
  | made (row : TrustArtifactRow)
  | cycle (round : LoopCycle)

/-- The client with the row that GDS keeps of it, and the latest artifact. -/
structure UpdateLoop where
  client : LifecycleState
  latest : TrustArtifactRow

namespace LoopCycle

variable (round : LoopCycle) (app : ApplicationAnswer) (loop : UpdateLoop)

def latestAtVersion : TrustArtifactRow := round.madeBeforeVersion.getLastD loop.latest

def latestAtMaterial : TrustArtifactRow :=
  round.madeBeforeMaterial.getLastD (round.latestAtVersion loop)

/-- What the client meets, with the answers that GDS gives. -/
def input : CycleInput where
  lifecycle :=
    if round.lifecycleAnswered then
      some (componentLifecyclePayload loop.latest.artifactSha256 round.renewalRequired
        loop.client.statusRow)
    else none
  trustVersion := {
    body := if round.versionAnswered then
        some (some (currentComponentTrustVersion app (round.latestAtVersion loop)))
      else none
    stored := round.versionStored }
  material := {
    body := if round.materialAnswered then
        some (some (trustMaterialForApplication app (round.latestAtMaterial loop)))
      else none
    stored := round.materialStored }
  versionStored := round.pulledVersionStored
  applyGranted := round.applyGranted
  coolingDown := round.coolingDown
  renewal := round.renewal
  certificateGranted := round.certificateGranted
  statusDelivered := round.statusDelivered

/-- The version check is answered and written down, and the report arrives. -/
def IsComplete : Prop :=
  round.lifecycleAnswered = true ∧ round.versionAnswered = true ∧ round.versionStored = true ∧
    round.statusDelivered = true

instance : Decidable round.IsComplete := inferInstanceAs (Decidable (_ ∧ _))

end LoopCycle

section Loop

variable (ssl : OpenSsl) (target : GdsTarget) (settings : LifecycleSettings)
  (app : ApplicationAnswer)

def UpdateLoop.step (loop : UpdateLoop) : LoopEvent → Option UpdateLoop
  | .made row => some { loop with latest := row }
  | .cycle round => some {
      client := commandLifecycleOnceOne ssl target settings (round.input app loop) loop.client
      latest := round.latestAtMaterial loop }

/-- Whether a cycle pulls or applies trust material. -/
def UpdateLoop.updates (loop : UpdateLoop) : LoopEvent → Nat
  | .made _ => 0
  | .cycle round =>
      let input := round.input app loop
      if input.Checks target.config ∧ (input.pulls settings || input.applies settings) = true
      then 1 else 0

/-- The artifacts that an event makes, and whether it is a cycle that is not complete. -/
def LoopEvent.disturbances : LoopEvent → Nat
  | .made _ => 1
  | .cycle round =>
      round.madeBeforeVersion.length + round.madeBeforeMaterial.length +
        if round.IsComplete then 0 else 1

/-- Whether GDS offers an update. -/
def UpdateLoop.offer (loop : UpdateLoop) : Nat :=
  if localHash loop.client.statusRow = loop.latest.artifactSha256 then 0 else 1

end Loop

/-! ## What the client reads -/

section Answers

variable {app : ApplicationAnswer} {row : TrustArtifactRow}

theorem namedSha256_trustVersion :
    namedSha256 (some (currentComponentTrustVersion app row)) = some row.artifactSha256 := by
  have names : ∀ name ∈ ["application_uri", "zone", "role", "trust_artifact_version",
      "trust_artifact_revision", "trust_artifact_sha256", "generated_at", "expires_at",
      "crl_freshness_verified", "crl_metadata", "schema"], CText.ofText name = name := by
    decide +kernel
  simp only [List.mem_cons, List.not_mem_nil, or_false, forall_eq_or_imp, forall_eq] at names
  obtain ⟨uri, zone, role, version, revision, sha, generated, expires, fresh, crl, schema⟩ := names
  simp [namedSha256, currentComponentTrustVersion, item, getObjectItem_nil, getObjectItem_cons,
    uri, zone, role, version, revision, sha, generated, expires, fresh, crl, schema,
    valuestring?, row.isHash.2]

theorem artifactSha256_trustMaterial :
    ∃ material, item (some (trustMaterialForApplication app row)) "trust_material" =
      some material ∧ artifactSha256 (some material) = some row.artifactSha256 := by
  have names : ∀ name ∈ ["schema", "generated_at", "application_uri", "runtime_instance_id",
      "component", "certificate_group", "active_certificate", "latest_package",
      "trust_material", "zone", "role", "trustlist_version", "artifact_revision",
      "artifact_sha256"], CText.ofText name = name := by decide +kernel
  simp only [List.mem_cons, List.not_mem_nil, or_false, forall_eq_or_imp, forall_eq] at names
  obtain ⟨schema, generated, uri, instance_, component, group, active, latest, material, zone,
    role, version, revision, sha⟩ := names
  refine ⟨_, by simp only [trustMaterialForApplication, item, Option.bind_some,
    getObjectItem_cons, schema, generated, uri, instance_, component, group, active, latest,
    material, String.reduceEq, if_false, if_true]; rfl, ?_⟩
  simp [artifactSha256, item, getObjectItem_cons, zone, role, version, revision, sha,
    valuestring?, row.isHash.2]

end Answers

/-! ## What a step costs -/

section Steps

variable {ssl : OpenSsl} {target : GdsTarget} {settings : LifecycleSettings}
  {app : ApplicationAnswer} {loop : UpdateLoop} {round : LoopCycle}

/-- A client updates only when GDS offers it. -/
theorem updates_le_offer (event : LoopEvent) :
    loop.updates target settings app event ≤ loop.offer := by
  cases event with
  | made row => exact Nat.zero_le _
  | cycle round =>
      rw [UpdateLoop.updates, UpdateLoop.offer]
      split
      · rename_i acts
        obtain ⟨⟨_, answered, _⟩, acts⟩ := acts
        have update : (round.input app loop).trustUpdate = true := by
          rw [CycleInput.pulls, CycleInput.applies] at acts
          cases update : (round.input app loop).trustUpdate with
          | true => rfl
          | false => simp [update] at acts
        have isAnswered : round.lifecycleAnswered = true := by
          by_contra unanswered
          simp [LoopCycle.input, unanswered] at answered
        rw [CycleInput.trustUpdate, LoopCycle.input, isAnswered, if_pos rfl,
          trustUpdateAvailable_payload] at update
        rw [if_neg]
        intro same
        rw [same] at update
        simp [loop.latest.isHash.1] at update
      · exact Nat.zero_le _

/-- Material that a cycle pulls is that of the artifact that is the latest then. -/
theorem artifactSha256_pulled {material : Json}
    (pulled : (round.input app loop).pulledMaterial settings = some material) :
    artifactSha256 (some material) = some (round.latestAtMaterial loop).artifactSha256 := by
  rw [CycleInput.pulledMaterial] at pulled
  split at pulled
  · rename_i stores
    have answered : round.materialAnswered = true := by
      by_contra unanswered
      simp [CycleInput.storesMaterial, LoopCycle.input, unanswered] at stores
    obtain ⟨given, held, named⟩ :=
      @artifactSha256_trustMaterial app (round.latestAtMaterial loop)
    simp only [LoopCycle.input, answered, if_true, Option.getD_some, held,
      Option.some.injEq] at pulled
    rw [← pulled, named]
  · cases pulled

/-- A version check that is answered and written down names an artifact that was the latest
during the cycle. -/
theorem namedSha256_input (answered : round.versionAnswered = true)
    (stored : round.versionStored = true) (cache : TargetCache) :
    (round.input app loop).namedSha256 settings cache =
        some (round.latestAtVersion loop).artifactSha256 ∨
      (round.input app loop).namedSha256 settings cache =
        some (round.latestAtMaterial loop).artifactSha256 := by
  rw [CycleInput.namedSha256]
  split
  · rename_i material pulled written
    exact .inr (artifactSha256_pulled pulled)
  · left
    have isStored : (round.input app loop).trustVersion.stored = true := stored
    have body : (round.input app loop).trustVersion.body =
        some (some (currentComponentTrustVersion app (round.latestAtVersion loop))) :=
      if_pos answered
    rw [isStored, if_pos rfl, body]
    exact namedSha256_trustVersion

/-- A complete cycle reports an artifact that was the latest during the cycle. -/
theorem reported_of_complete (isLocal : target.config.remotePeerReadOnly = false)
    (complete : round.IsComplete) {next : LifecycleState}
    (isNext : commandLifecycleOnceOne ssl target settings (round.input app loop) loop.client =
      next) :
    localHash next.statusRow = (round.latestAtVersion loop).artifactSha256 ∨
      localHash next.statusRow = (round.latestAtMaterial loop).artifactSha256 := by
  obtain ⟨lifecycle, version, stored, delivered⟩ := complete
  have checks : (round.input app loop).Checks target.config := by
    refine ⟨isLocal, ?_, ?_⟩
    · simp [LoopCycle.input, lifecycle]
    · simp [LoopCycle.input, version]
  obtain ⟨posted, _, _, _, sent⟩ := cycle_effect settings ssl checks loop.client
  have isSent : (round.input app loop).statusDelivered = true := delivered
  rw [isSent, if_pos rfl, isNext] at sent
  rw [isNext] at posted
  rw [localHash, sent, posted]
  rcases @namedSha256_input settings app loop round version stored loop.client.cache with
    atVersion | atMaterial
  · left
    rw [atVersion, Option.getD_some]
  · right
    rw [atMaterial, Option.getD_some]

theorem latest_of_nothing_made (nothing : round.madeBeforeMaterial.length = 0) :
    round.latestAtMaterial loop = round.latestAtVersion loop := by
  rw [LoopCycle.latestAtMaterial, List.length_eq_zero_iff.mp nothing]
  rfl

/-- An update is paid for by the offer before it, and an offer after a cycle by an artifact made
during the cycle or by its incompleteness. -/
theorem step_paid {event : LoopEvent} {next : UpdateLoop}
    (stepped : loop.step ssl target settings app event = some next) :
    loop.updates target settings app event + next.offer ≤ loop.offer + event.disturbances := by
  have offered := @updates_le_offer target settings app loop event
  have atMost : next.offer ≤ 1 := by
    rw [UpdateLoop.offer]
    split <;> omega
  cases event with
  | made row =>
      rw [LoopEvent.disturbances]
      omega
  | cycle round =>
      rw [LoopEvent.disturbances]
      by_cases complete : round.IsComplete
      · rw [if_pos complete]
        by_cases quiet : round.madeBeforeVersion.length + round.madeBeforeMaterial.length = 0
        · have same : round.latestAtMaterial loop = loop.latest := by
            rw [latest_of_nothing_made (by omega), LoopCycle.latestAtVersion,
              List.length_eq_zero_iff.mp (by omega : round.madeBeforeVersion.length = 0)]
            rfl
          cases stepped
          cases isRemote : target.config.remotePeerReadOnly with
          | true =>
              have unchecked : ¬ (round.input app loop).Checks target.config := by
                intro checks
                exact Bool.false_ne_true (checks.1.symm.trans isRemote)
              have still : commandLifecycleOnceOne ssl target settings (round.input app loop)
                  loop.client = loop.client := if_pos isRemote
              simp only [UpdateLoop.updates, unchecked, false_and, if_false, UpdateLoop.offer,
                still, same]
              omega
          | false =>
              have reported := @reported_of_complete ssl target settings app loop round isRemote
                complete _ rfl
              rw [← latest_of_nothing_made (by omega), or_self, same] at reported
              have settled : UpdateLoop.offer {
                  client := commandLifecycleOnceOne ssl target settings (round.input app loop)
                    loop.client
                  latest := round.latestAtMaterial loop } = 0 := by
                rw [UpdateLoop.offer, same, if_pos reported]
              rw [settled]
              omega
        · omega
      · rw [if_neg complete]
        omega

end Steps

/-- In every run of GDS and a client, whatever requests, writes and applies fail, the cycles that
pull or apply trust material are at most one more than the artifacts made and the cycles that
are not complete. -/
theorem updates_le_disturbances (ssl : OpenSsl) (target : GdsTarget)
    (settings : LifecycleSettings) (app : ApplicationAnswer) (runtime : FileTree)
    (latest : TrustArtifactRow) (events : List LoopEvent) :
    Transition.runCost (UpdateLoop.step ssl target settings app)
        (UpdateLoop.updates target settings app) ⟨.initial runtime, latest⟩ events ≤
      1 + (events.map LoopEvent.disturbances).sum := by
  have total (loop : UpdateLoop) (event : LoopEvent) :
      ∃ next, loop.step ssl target settings app event = some next := by
    cases event <;> exact ⟨_, rfl⟩
  obtain ⟨final, reached⟩ := Transition.exists_run total ⟨.initial runtime, latest⟩ events
  have paid : ∀ loop event next, UpdateLoop.step ssl target settings app loop event = some next →
      loop.updates target settings app event + next.offer ≤ loop.offer + event.disturbances :=
    fun _ _ _ stepped => step_paid stepped
  have bound := Transition.runCost_add_le paid reached
  have start : UpdateLoop.offer ⟨.initial runtime, latest⟩ ≤ 1 := by
    rw [UpdateLoop.offer]
    split <;> omega
  omega

end OpcuaGds.Gateway
