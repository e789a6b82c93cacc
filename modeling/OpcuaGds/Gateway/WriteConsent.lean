import OpcuaGds.Gateway.ApplyConfinement
import OpcuaGds.Gateway.Lifecycle
import OpcuaGds.Gateway.LifecycleLock

/-! # Consent to runtime writes

One process of the GDS client: every command on every target, `load_or_create_key`, and the
environment variable `DMZ_GDS_RUNTIME_WRITE_ENABLED`, which the program reads before a write and
sets in a lifecycle cycle.
-/

namespace OpcuaGds.Gateway

/-- `env_bool`, of the value of a variable. -/
def envBool (value : Option String) (fallback : Bool) : Bool :=
  match value with
  | none => fallback
  | some value =>
      if value = "" then fallback
      else value == "1" || CText.equalsIgnoreCase value "true" ||
        CText.equalsIgnoreCase value "yes" || CText.equalsIgnoreCase value "on"

/-- What one call meets: the answers of GDS (those of a discovery in order), the key that OpenSSL
generates and whether it can be written, the writes that an apply is granted, and what a
lifecycle cycle meets. -/
structure CallInput where
  discovery : List Answer
  answer : Answer
  versionStored : Bool
  generatedKey : Option (List UInt8)
  keyGranted : Bool
  granted : Nat → Bool
  cycle : CycleInput

/-- The process: the environment variable, the caches of the targets, the files of the runtime
PKI, and all that it has tried to write there. -/
structure GdsProcess where
  runtimeWriteVariable : Option String
  cache : GdsTarget → TargetCache
  runtime : FileTree
  written : FileWrites

/-- A process with its environment, before its first call. -/
def GdsProcess.started (runtimeWriteVariable : Option String) (cache : GdsTarget → TargetCache)
    (runtime : FileTree) : GdsProcess where
  runtimeWriteVariable := runtimeWriteVariable
  cache := cache
  runtime := runtime
  written := []

/-- `env_bool("DMZ_GDS_RUNTIME_WRITE_ENABLED", 0)`. -/
def GdsProcess.writeEnabled (state : GdsProcess) : Bool := envBool state.runtimeWriteVariable false

section Commands

variable (ssl : OpenSsl) (isPrivateKey : List UInt8 → Bool) (settings : LifecycleSettings)
  (target : GdsTarget)

/-- `load_or_create_key`: what it writes, and whether there is a key. -/
def loadOrCreateKey (writeEnabled : Bool) (input : CallInput) (tree : FileTree) :
    FileWrites × Bool :=
  match target.keyPath with
  | none => ([], false)
  | some path =>
      match tree.read path with
      | some content => ([], isPrivateKey content)
      | none =>
          if ¬ writeEnabled then ([], false)
          else
            match input.generatedKey with
            | none => ([], false)
            | some key => ([(path, key)], input.keyGranted)

/-- The answer to a request with a CSR, which is not made without a key. -/
def Answer.withKey (answer : Answer) (hasKey : Bool) : Answer :=
  if hasKey then answer else { answer with body := none }

namespace GdsProcess

variable (input : CallInput) (state : GdsProcess)

/-- New contents of the cache of the target. -/
def withCache (cache : TargetCache) : GdsProcess :=
  { state with cache := Function.update state.cache target cache }

/-- Writes to the runtime PKI. -/
def writes (granted : Nat → Bool) (files : FileWrites) : GdsProcess :=
  { state with
    runtime := state.runtime.perform granted 0 files
    written := state.written ++ files }

/-- `setenv("DMZ_GDS_RUNTIME_WRITE_ENABLED", "true", 1)`. -/
def enableWrites : GdsProcess := { state with runtimeWriteVariable := some "true" }

/-- `command_discover_one`; the answers of failed requests are missing. -/
def discover : GdsProcess :=
  let leaves := ["identity.json", "renewal-policy.json", "revocation-status.json"]
  state.withCache target <|
    (leaves.zip input.discovery).foldl (fun cache asked => (cache.receive asked.1 asked.2).1)
      (state.cache target)

/-- `load_or_create_key` on the files of the process. -/
def withKey : GdsProcess × Bool :=
  let key := loadOrCreateKey isPrivateKey target state.writeEnabled input state.runtime
  (state.writes (fun _ => input.keyGranted) key.1, key.2)

/-- `command_enroll_one` and `command_renew_one`. -/
def requestCertificate
    (command : TargetConfig → Answer → TargetCache → TargetCache × Bool) : GdsProcess :=
  if target.config.remotePeerReadOnly then state
  else
    let (state, hasKey) := state.withKey isPrivateKey target input
    state.withCache target
      (command target.config (input.answer.withKey hasKey) (state.cache target)).1

/-- `apply_trust_or_certificate_one`. -/
def applyMaterial (allowCertificate : Bool) (granted : Nat → Bool) : GdsProcess :=
  let gds := { settings.gds with runtimeWriteEnabled := state.writeEnabled }
  state.writes granted
    (applyTrustOrCertificateOne ssl target.config gds (state.cache target) allowCertificate).writes

/-- The trust apply of a cycle on what it has pulled. -/
def cycleTrust (cycle : CycleInput) : GdsProcess :=
  if cycle.applies settings then
    let result := (cycle.trustApply settings (state.cache target) target).result ssl target
    state.enableWrites.writes cycle.applyGranted result.writes
  else state

/-- A cycle comes to the request of a renewal. -/
def asksRenewal (cycle : CycleInput) : Bool :=
  jsonBool cycle.lifecycle "renewal_required" && settings.autoRenewAllowed && !cycle.coolingDown

/-- The key for the CSR of a cycle. -/
def cycleKey : GdsProcess × Bool :=
  if asksRenewal settings input.cycle then state.withKey isPrivateKey target input
  else (state, false)

/-- The certificate apply of a cycle whose renewal is accepted. -/
def cycleCertificate (cycle : CycleInput) (cache : TargetCache) : GdsProcess :=
  if cycle.renews settings then
    let result := (cycle.certificateApply settings cache target).result ssl target
    state.enableWrites.writes cycle.certificateGranted result.writes
  else state

/-- The client that the cycle starts with. -/
def client : LifecycleState :=
  { LifecycleState.initial state.runtime with cache := state.cache target }

/-- `command_lifecycle_once_one`. The key for the CSR is made between the two applies. -/
def lifecycleOnce : GdsProcess :=
  if input.cycle.Checks target.config then
    let trusted := state.cycleTrust ssl settings target input.cycle
    let keyed := trusted.cycleKey isPrivateKey settings target input
    let cycle := { input.cycle with renewal := input.cycle.renewal.withKey keyed.2 }
    (keyed.1.cycleCertificate ssl settings target cycle (state.cache target)).withCache target
      (commandLifecycleOnceOne ssl target settings cycle (state.client target)).cache
  else state

/-- One call. -/
def perform (call : Call) : GdsProcess :=
  let cache := state.cache call.target
  match call.subcommand with
  | .discover => state.discover call.target input
  | .pullTrust =>
      state.withCache call.target
        (commandPullTrustOne call.target.config input.answer input.versionStored cache).1
  | .enroll => state.requestCertificate isPrivateKey call.target input commandEnrollOne
  | .renew => state.requestCertificate isPrivateKey call.target input commandRenewOne
  | .renewalCheck =>
      state.withCache call.target (cache.receive "renewal-policy.json" input.answer).1
  | .applyTrust => state.applyMaterial ssl settings call.target false input.granted
  | .applyCertificate => state.applyMaterial ssl settings call.target true input.granted
  | .validate => state
  | .lifecycleOnce => state.lifecycleOnce ssl isPrivateKey settings call.target input

/-- One call after the other. -/
def step (state : GdsProcess) (event : Call × CallInput) : Option GdsProcess :=
  some (state.perform ssl isPrivateKey settings event.2 event.1)

/-- The call comes to one of the two `setenv`: a cycle that applies a trust update by itself, or
whose renewal is accepted. -/
def setsVariable (call : Call) : Bool :=
  call.subcommand == .lifecycleOnce && decide (input.cycle.Checks call.target.config) &&
    (input.cycle.applies settings ||
      input.cycle.renews settings &&
        (loadOrCreateKey isPrivateKey call.target state.writeEnabled input state.runtime).2)

end GdsProcess

end Commands

/-! ## What a call does to the variable and the files -/

section Steps

variable {ssl : OpenSsl} {isPrivateKey : List UInt8 → Bool} {settings : LifecycleSettings}
  {target : GdsTarget} {input : CallInput} {state : GdsProcess} {cycle : CycleInput}

theorem applyMaterial_written {allowCertificate : Bool} {granted : Nat → Bool}
    (disabled : state.writeEnabled = false) :
    (state.applyMaterial ssl settings target allowCertificate granted).written =
      state.written := by
  have refused : acceptedSource target.config
      { settings.gds with runtimeWriteEnabled := state.writeEnabled } (state.cache target)
      allowCertificate = none := by
    rw [acceptedSource, disabled]
    exact if_pos (Or.inr Bool.false_ne_true)
  rw [GdsProcess.applyMaterial, applyTrustOrCertificateOne, refused]
  exact List.append_nil _

theorem loadOrCreateKey_writes {tree : FileTree} :
    (loadOrCreateKey isPrivateKey target false input tree).1 = [] := by
  unfold loadOrCreateKey
  split
  · rfl
  · split <;> rfl

theorem withKey_written (disabled : state.writeEnabled = false) :
    (state.withKey isPrivateKey target input).1.written = state.written := by
  rw [GdsProcess.withKey, disabled]
  dsimp only [GdsProcess.writes]
  rw [loadOrCreateKey_writes, List.append_nil]

theorem requestCertificate_written
    {command : TargetConfig → Answer → TargetCache → TargetCache × Bool}
    (disabled : state.writeEnabled = false) :
    (state.requestCertificate isPrivateKey target input command).written = state.written := by
  unfold GdsProcess.requestCertificate
  split
  · rfl
  · exact withKey_written disabled

theorem enableWrites_writeEnabled {granted : Nat → Bool} {files : FileWrites} :
    (state.enableWrites.writes granted files).writeEnabled = true := by
  have isTrue : envBool (some "true") false = true := by decide +kernel
  exact isTrue

theorem requestCertificate_writeEnabled
    {command : TargetConfig → Answer → TargetCache → TargetCache × Bool} :
    (state.requestCertificate isPrivateKey target input command).writeEnabled =
      state.writeEnabled := by
  unfold GdsProcess.requestCertificate
  split <;> rfl

/-! ### The parts of a cycle -/

theorem cycleTrust_writeEnabled :
    (state.cycleTrust ssl settings target cycle).writeEnabled =
      (state.writeEnabled || cycle.applies settings) := by
  unfold GdsProcess.cycleTrust
  cases cycle.applies settings with
  | false => exact (Bool.or_false _).symm
  | true => exact enableWrites_writeEnabled.trans (Bool.or_true _).symm

theorem cycleCertificate_writeEnabled {cache : TargetCache} :
    (state.cycleCertificate ssl settings target cycle cache).writeEnabled =
      (state.writeEnabled || cycle.renews settings) := by
  unfold GdsProcess.cycleCertificate
  cases cycle.renews settings with
  | false => exact (Bool.or_false _).symm
  | true => exact enableWrites_writeEnabled.trans (Bool.or_true _).symm

theorem cycleKey_writeEnabled :
    (state.cycleKey isPrivateKey settings target input).1.writeEnabled = state.writeEnabled := by
  unfold GdsProcess.cycleKey
  split <;> rfl

theorem cycleKey_written (disabled : state.writeEnabled = false) :
    (state.cycleKey isPrivateKey settings target input).1.written = state.written := by
  unfold GdsProcess.cycleKey
  split
  · exact withKey_written disabled
  · rfl

variable (settings cycle) in
/-- Without a key no renewal is accepted. -/
theorem renews_withKey (hasKey : Bool) :
    CycleInput.renews settings { cycle with renewal := cycle.renewal.withKey hasKey } =
      (cycle.renews settings && hasKey) := by
  cases hasKey with
  | true => exact (Bool.and_true _).symm
  | false =>
      rw [Bool.and_false]
      unfold CycleInput.renews Answer.withKey
      simp

/-- A renewal that is accepted has been asked for. -/
theorem renews_and_cycleKey :
    (input.cycle.renews settings && (state.cycleKey isPrivateKey settings target input).2) =
      (input.cycle.renews settings &&
        (loadOrCreateKey isPrivateKey target state.writeEnabled input state.runtime).2) := by
  unfold GdsProcess.cycleKey
  cases asked : GdsProcess.asksRenewal settings input.cycle with
  | true => rfl
  | false =>
      have silent : input.cycle.renews settings = false := by
        unfold CycleInput.renews
        unfold GdsProcess.asksRenewal at asked
        rw [asked, Bool.false_and, Bool.false_and]
      rw [silent, Bool.false_and, Bool.false_and]

variable (ssl isPrivateKey settings target input state) in
/-- What a cycle leaves of the variable, and of the files unless it sets the variable. -/
theorem lifecycleOnce_effect :
    let next := state.lifecycleOnce ssl isPrivateKey settings target input
    let sets := state.setsVariable isPrivateKey settings input ⟨.lifecycleOnce, target⟩
    next.writeEnabled = (state.writeEnabled || sets) ∧
      (state.writeEnabled = false → sets = false → next.written = state.written) := by
  intro next sets
  have isSets : sets = (decide (input.cycle.Checks target.config) &&
      (input.cycle.applies settings || input.cycle.renews settings &&
        (loadOrCreateKey isPrivateKey target state.writeEnabled input state.runtime).2)) := rfl
  by_cases checks : input.cycle.Checks target.config
  · rw [decide_eq_true checks, Bool.true_and] at isSets
    let keyed := (state.cycleTrust ssl settings target input.cycle).cycleKey isPrivateKey settings
      target input
    let cycle : CycleInput :=
      { input.cycle with renewal := input.cycle.renewal.withKey keyed.2 }
    have isNext : next =
        (keyed.1.cycleCertificate ssl settings target cycle (state.cache target)).withCache target
          (commandLifecycleOnceOne ssl target settings cycle (state.client target)).cache :=
      if_pos checks
    have enabled : next.writeEnabled =
        (state.writeEnabled || input.cycle.applies settings ||
          input.cycle.renews settings && keyed.2) :=
      calc next.writeEnabled
          = (keyed.1.cycleCertificate ssl settings target cycle
              (state.cache target)).writeEnabled := by
            rw [isNext]
            rfl
        _ = (keyed.1.writeEnabled || cycle.renews settings) := cycleCertificate_writeEnabled
        _ = _ := by
            rw [renews_withKey, cycleKey_writeEnabled, cycleTrust_writeEnabled]
    cases applies : input.cycle.applies settings with
    | true =>
        rw [isSets, enabled, applies, Bool.true_or, Bool.or_true, Bool.true_or]
        exact ⟨rfl, nofun⟩
    | false =>
        have sameTrust : state.cycleTrust ssl settings target input.cycle = state := by
          unfold GdsProcess.cycleTrust
          rw [applies]
          rfl
        have asks : (input.cycle.renews settings && keyed.2) = sets := by
          rw [isSets, applies, Bool.false_or, ← renews_and_cycleKey, ← sameTrust]
        rw [enabled, applies, Bool.or_false, asks]
        refine ⟨rfl, fun disabled unset => ?_⟩
        have notRenewed : cycle.renews settings = false := by
          rw [renews_withKey, asks, unset]
        have written : next.written = keyed.1.written := by
          rw [isNext, GdsProcess.cycleCertificate, notRenewed]
          rfl
        rw [written, cycleKey_written (by rw [sameTrust]; exact disabled), sameTrust]
  · have isNext : next = state := if_neg checks
    rw [isSets, isNext, decide_eq_false checks, Bool.false_and, Bool.or_false]
    exact ⟨rfl, fun _ _ => rfl⟩

variable (ssl isPrivateKey settings input state) in
/-- A call leaves the variable true exactly when it was true or the call sets it, and writes
nothing otherwise. -/
theorem perform_effect (call : Call) :
    let next := state.perform ssl isPrivateKey settings input call
    let sets := state.setsVariable isPrivateKey settings input call
    next.writeEnabled = (state.writeEnabled || sets) ∧
      (state.writeEnabled = false → sets = false → next.written = state.written) := by
  obtain ⟨subcommand, target⟩ := call
  intro next sets
  by_cases cycle : subcommand = .lifecycleOnce
  · subst cycle
    exact lifecycleOnce_effect ssl isPrivateKey settings target input state
  · have unset : sets = false := by
      have other : (subcommand == Subcommand.lifecycleOnce) = false :=
        beq_eq_false_iff_ne.mpr cycle
      change (subcommand == Subcommand.lifecycleOnce && _ && _) = false
      rw [other, Bool.false_and, Bool.false_and]
    rw [unset, Bool.or_false]
    cases subcommand with
    | discover => exact ⟨rfl, fun _ _ => rfl⟩
    | pullTrust => exact ⟨rfl, fun _ _ => rfl⟩
    | enroll =>
        refine ⟨?_, fun disabled _ => requestCertificate_written disabled⟩
        exact requestCertificate_writeEnabled
    | renew =>
        refine ⟨?_, fun disabled _ => requestCertificate_written disabled⟩
        exact requestCertificate_writeEnabled
    | renewalCheck => exact ⟨rfl, fun _ _ => rfl⟩
    | applyTrust => exact ⟨rfl, fun disabled _ => applyMaterial_written disabled⟩
    | applyCertificate => exact ⟨rfl, fun disabled _ => applyMaterial_written disabled⟩
    | validate => exact ⟨rfl, fun _ _ => rfl⟩
    | lifecycleOnce => exact absurd rfl cycle

end Steps

/-! ## Runs -/

section Runs

variable (ssl : OpenSsl) (isPrivateKey : List UInt8 → Bool) (settings : LifecycleSettings)

/-- Nothing has been written, unless the variable was true when the process was started. -/
def GdsProcess.WritesByConsent (start state : GdsProcess) : Prop :=
  start.writeEnabled = true ∨ state.written = []

/-- Along every run in which no cycle sets the variable itself, or which was started with the
variable true, nothing is written without consent. -/
theorem writesByConsent_of_unset (runtimeWriteVariable : Option String)
    (cache : GdsTarget → TargetCache) (runtime : FileTree) (calls : List (Call × CallInput))
    (unset : Transition.EveryStep (GdsProcess.step ssl isPrivateKey settings)
      (fun state event _ =>
        (GdsProcess.started runtimeWriteVariable cache runtime).writeEnabled = true ∨
          state.setsVariable isPrivateKey settings event.2 event.1 = false)
      (.started runtimeWriteVariable cache runtime) calls) :
    Transition.EveryStep (GdsProcess.step ssl isPrivateKey settings)
      (fun _ _ next =>
        (GdsProcess.started runtimeWriteVariable cache runtime).WritesByConsent next)
      (.started runtimeWriteVariable cache runtime) calls := by
  let start := GdsProcess.started runtimeWriteVariable cache runtime
  have idle : Transition.EveryStep (GdsProcess.step ssl isPrivateKey settings)
      (fun _ _ next => start.writeEnabled = true ∨
        next.writeEnabled = false ∧ next.written = []) start calls := by
    apply unset.every_state
    case preserved =>
      intro state event next before stepped here
      cases stepped
      rcases before with consent | ⟨disabled, nothing⟩
      · exact Or.inl consent
      · refine here.imp id fun unset => ?_
        obtain ⟨variableKept, writtenKept⟩ :=
          perform_effect ssl isPrivateKey settings event.2 state event.1
        exact ⟨by rw [variableKept, disabled, unset]; rfl,
          (writtenKept disabled unset).trans nothing⟩
    case initial =>
      cases consent : start.writeEnabled with
      | true => exact Or.inl rfl
      | false => exact Or.inr ⟨rfl, rfl⟩
  exact idle.imp fun _ _ _ held => held.imp id And.right

end Runs

/-! A process without the variable in its environment. -/

def unconsentedSettings (autoApplyTrust : Bool) : LifecycleSettings where
  autoPullTrust := true
  autoApplyTrust := autoApplyTrust
  autoRenew := false
  autoRenewAllowed := false
  gds := {
    runtimeWriteEnabled := false
    requireSignedArtifacts := false
    strictCrlFreshness := false
    requireRevocationLists := false
    trustAnchorFingerprint := none }

/-- GDS has a trust list with one peer, and accepts enrollments. -/
def peerCall : CallInput where
  discovery := []
  answer := ⟨some (some (.obj [])), true⟩
  versionStored := true
  generatedKey := some [0]
  keyGranted := true
  granted := fun _ => true
  cycle := {
    lifecycle := some (.obj [("trust_update_available", .bool true)])
    trustVersion := ⟨some (some (.obj [])), true⟩
    material := ⟨some (some (.obj [("trust_material", .obj [
      ("certificates", .arr [peerEntry "urn:a"])])])), true⟩
    versionStored := true
    applyGranted := fun _ => true
    coolingDown := false
    renewal := ⟨none, true⟩
    certificateGranted := fun _ => true
    statusDelivered := true }

/-- Without automatic applies the cycle pulls and the enrollment has no key. -/
theorem pulled_without_writing :
    Transition.EveryStep
      (GdsProcess.step peerSsl (fun _ => true) (unconsentedSettings false))
      (fun _ _ next =>
        (GdsProcess.started none (fun _ _ => none) []).WritesByConsent next)
      (.started none (fun _ _ => none) [])
      [(⟨.lifecycleOnce, .dmzGatewayServer⟩, peerCall), (⟨.enroll, .dmzGatewayClient⟩, peerCall)] :=
  writesByConsent_of_unset peerSsl (fun _ => true) (unconsentedSettings false) none
    (fun _ _ => none) [] _ (by decide +kernel)

/-- The automatic apply of the server writes a trusted certificate, and the enrollment of the
client after it a private key. -/
theorem cycle_enables_writes :
    let calls := [((⟨.lifecycleOnce, .dmzGatewayServer⟩ : Call), peerCall),
      (⟨.enroll, .dmzGatewayClient⟩, peerCall)]
    let start := GdsProcess.started none (fun _ _ => none) []
    (Transition.run (GdsProcess.step peerSsl (fun _ => true) (unconsentedSettings true)) start
        calls).map (fun final => final.written.map Prod.fst) =
        some ["/app/pki/northbound/trusted/certs/urn_a.der",
          "/app/pki/southbound/own/private/client.key.der"] ∧
      ¬ Transition.EveryStep
        (GdsProcess.step peerSsl (fun _ => true) (unconsentedSettings true))
        (fun _ _ next => start.WritesByConsent next) start calls := by
  intro calls start
  have written : (Transition.run
      (GdsProcess.step peerSsl (fun _ => true) (unconsentedSettings true)) start calls).map
      (fun final => final.written.map Prod.fst) =
        some ["/app/pki/northbound/trusted/certs/urn_a.der",
          "/app/pki/southbound/own/private/client.key.der"] := by
    decide +kernel
  refine ⟨written, fun every => ?_⟩
  obtain ⟨final, reached, paths⟩ := Option.map_eq_some_iff.mp written
  rcases every.final (Or.inr rfl) reached with consent | nothing
  · cases consent
  · rw [nothing] at paths
    cases paths

end OpcuaGds.Gateway
