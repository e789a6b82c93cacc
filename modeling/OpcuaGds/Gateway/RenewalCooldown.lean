import OpcuaGds.Foundation.JsonPython
import OpcuaGds.Gateway.Lifecycle

/-! # The cooldown of automatic renewals

`auto_renew_cooldown_remaining_seconds` and `record_auto_renewal_success` in runs of lifecycle
cycles: how far apart the renewals are that the server accepts.
-/

namespace OpcuaGds.Gateway

/-- `env_long`. -/
def envLong (value : Option String) (fallback : Int) : Int :=
  match value with
  | none => fallback
  | some value => if value = "" then fallback else (CText.strtolWhole value).getD fallback

/-- The cooldown for a value of `DMZ_GDS_AUTO_RENEW_COOLDOWN_SECONDS`. -/
def renewCooldown (value : Option String) : Int := envLong value 86400

/-- `(long)item->valuedouble` of a number, and else 0. A time is exact as a double. -/
def longValue : Option Json → Int
  | some (.int value) => value
  | some (.float value) => value.toInt?.getD 0
  | _ => 0

/-- `auto_renew_cooldown_remaining_seconds`, with the start of the installed certificate, when
there is one that can be read. -/
def autoRenewCooldownRemainingSeconds (cooldown : Int) (last : Option Json)
    (certStart : Option Int) (now : Int) : Int :=
  if cooldown ≤ 0 then 0
  else
    let lastUnix := longValue (item last "unix_time")
    let remaining :=
      if 0 < lastUnix ∧ now - lastUnix < cooldown then cooldown - (now - lastUnix) else 0
    match certStart with
    | none => remaining
    | some start =>
        if 0 < start then
          max remaining (if now - start < cooldown then cooldown - (now - start) else 0)
        else remaining

/-- The document of `record_auto_renewal_success`. -/
def autoRenewalRecord (config : TargetConfig) (status timestamp : String) (now : Int) : Json :=
  .obj [("target", .str config.name), ("application_uri", .str config.applicationUri),
    ("status", .str status), ("timestamp", .str timestamp), ("unix_time", .int now)]

/-- What the cooldown takes from its surroundings: its variable, the start of a certificate
file in seconds, and the text of a time. -/
structure CooldownTools where
  variableValue : Option String
  notBefore : List UInt8 → Option Int
  utcIso : Int → String

/-- A cycle with the times at which it asks for the cooldown, at which the server accepts its
renewal and at which it makes the record of it, and whether that is stored. `coolingDown` of the
input is not looked at. -/
structure TimedCycle where
  input : CycleInput
  checkedAt : Int
  acceptedAt : Int
  recordedAt : Int
  recordStored : Bool
  afterEpoch : 0 < checkedAt
  accepts_after_check : checkedAt ≤ acceptedAt
  records_after_accept : acceptedAt ≤ recordedAt

/-- A client with the times of its accepted renewals, the last one first. -/
structure RenewalState where
  client : LifecycleState
  accepted : List Int

section Cycle

variable (tools : CooldownTools) (ssl : OpenSsl) (target : GdsTarget)
  (settings : LifecycleSettings)

def CooldownTools.cooldown : Int := renewCooldown tools.variableValue

namespace TimedCycle

variable (cycle : TimedCycle) (client : LifecycleState)

/-- The client when the cycle comes to the renewal. -/
def atRenewal : LifecycleState :=
  let checked := { client with
    cache := client.cache.store "trust-version.json" (cycle.input.trustVersion.body.getD none)
      cycle.input.trustVersion.stored }
  (checked.updateTrust ssl target settings cycle.input cycle.input.trustUpdate).1

/-- The remaining cooldown that the cycle finds. -/
def remaining : Int :=
  let state := cycle.atRenewal ssl target settings client
  autoRenewCooldownRemainingSeconds tools.cooldown (state.cache "renewal-last.json")
    ((state.runtime.read target.config.certPath).bind tools.notBefore) cycle.checkedAt

/-- The cycle with what it finds of the cooldown. -/
def timedInput : CycleInput :=
  { cycle.input with
    coolingDown := decide (0 < cycle.remaining tools ssl target settings client) }

/-- `renewal_ok`. -/
def renewalOk : Bool :=
  let input := cycle.timedInput tools ssl target settings client
  decide (input.Checks target.config) && input.renews settings

/-- `renewal_apply_ok`. -/
def renewalApplyOk : Bool :=
  let input := cycle.timedInput tools ssl target settings client
  cycle.renewalOk tools ssl target settings client &&
    ((input.certificateApply settings client.cache target).result ssl target).succeeded

/-- `record_auto_renewal_success`, when the renewal has been applied. -/
def record (after : LifecycleState) : LifecycleState :=
  if cycle.renewalApplyOk tools ssl target settings client then
    { after with
      cache := after.cache.store "renewal-last.json"
        (some (autoRenewalRecord target.config "applied" (tools.utcIso cycle.recordedAt)
          cycle.recordedAt)) cycle.recordStored }
  else after

end TimedCycle

/-- A cycle with the cooldown. The record is made before the report, which does not read it. -/
def RenewalState.step (state : RenewalState) (cycle : TimedCycle) : Option RenewalState :=
  let input := cycle.timedInput tools ssl target settings state.client
  some {
    client := cycle.record tools ssl target settings state.client
      (commandLifecycleOnceOne ssl target settings input state.client)
    accepted :=
      if cycle.renewalOk tools ssl target settings state.client then
        cycle.acceptedAt :: state.accepted
      else state.accepted }

/-- At most one renewal is accepted within a cooldown, from whatever time it is counted. -/
def RenewalState.OnePerCooldown (state : RenewalState) : Prop :=
  ∀ start, (state.accepted.filter fun time =>
    decide (start ≤ time ∧ time < start + tools.cooldown)).length ≤ 1

/-- An accepted renewal is applied, and the record of it stored. -/
def TimedCycle.RecordsAccepted (cycle : TimedCycle) (client : LifecycleState) : Prop :=
  cycle.renewalOk tools ssl target settings client = true →
    cycle.renewalApplyOk tools ssl target settings client = true ∧ cycle.recordStored = true

end Cycle

/-! ## What a cycle leaves -/

section Steps

variable {tools : CooldownTools} {ssl : OpenSsl} {target : GdsTarget}
  {settings : LifecycleSettings} {input : CycleInput} {cycle : TimedCycle}
  {client : LifecycleState} {leaf : String}

/-- The version check and the pull write two files of the cache. -/
theorem trustCache_of_ne (notVersion : leaf ≠ "trust-version.json")
    (notMaterial : leaf ≠ "trust-material.json") (cache : TargetCache) :
    input.trustCache settings target.config cache leaf = cache leaf := by
  unfold CycleInput.trustCache
  split
  · rw [commandPullTrustOne_of_ne notMaterial notVersion, TargetCache.store_of_ne notVersion]
  · exact TargetCache.store_of_ne notVersion

variable (settings input ssl target client) in
/-- The cache when the version check, the pull and the trust apply are done. -/
theorem updateTrust_cache :
    (({ client with
      cache := client.cache.store "trust-version.json" (input.trustVersion.body.getD none)
        input.trustVersion.stored }).updateTrust ssl target settings input
        input.trustUpdate).1.cache =
      input.trustCache settings target.config client.cache :=
  (updateTrust_effect settings input ssl target _ rfl).1

/-- The renewal writes one. -/
theorem renew_cache_of_ne (notResult : leaf ≠ "renewal-result.json") (required : Bool) :
    (client.renew ssl target settings input required).1.cache leaf = client.cache leaf := by
  have renewed : (commandRenewOne target.config input.renewal client.cache).1 leaf =
      client.cache leaf := by
    rw [commandRenewOne, issuance_cache, if_neg notResult]
  unfold LifecycleState.renew
  split
  · rfl
  · split
    · rfl
    · split
      · rfl
      · dsimp only
        split
        · exact renewed
        · exact renewed

/-- A cycle keeps the other files of the cache. -/
theorem cycle_cache_of_ne (notVersion : leaf ≠ "trust-version.json")
    (notMaterial : leaf ≠ "trust-material.json") (notResult : leaf ≠ "renewal-result.json") :
    (commandLifecycleOnceOne ssl target settings input client).cache leaf = client.cache leaf := by
  by_cases isLocal : target.config.remotePeerReadOnly = false
  · by_cases checks : input.Checks target.config
    · obtain ⟨version, isVersion⟩ := Option.isSome_iff_exists.mp checks.2.2
      rw [cycle_checked settings ssl checks isVersion]
      have updated := updateTrust_cache ssl target settings input client
      rw [isVersion, Option.getD_some] at updated
      refine (renew_cache_of_ne notResult _).trans ?_
      rw [updated]
      exact trustCache_of_ne notVersion notMaterial _
    · rw [cycle_unchecked isLocal checks]
      rfl
  · rw [commandLifecycleOnceOne, if_pos (Bool.of_not_eq_false isLocal)]

/-- The status of a renewal whose answer is stored tells how its apply has gone. -/
theorem renew_status (isLocal : target.config.remotePeerReadOnly = false)
    (allowed : settings.autoRenewAllowed = true) (warm : input.coolingDown = false)
    {body : Option Json} (isBody : input.renewal.body = some body)
    (stored : input.renewal.stored = true) :
    (client.renew ssl target settings input true).2 =
      if ((GatewayApply.mk settings.applySettings
          (Function.update client.cache "renewal-result.json" body) true
          input.certificateGranted).result ssl target).succeeded then "applied"
      else "apply_failed" := by
  unfold LifecycleState.renew commandRenewOne TargetCache.receive TargetCache.store
  rw [allowed, warm, isLocal, isBody, stored]
  rfl

/-- An accepted renewal is reported as applied or not, as its apply has gone. -/
theorem reports_renewal (accepted : cycle.renewalOk tools ssl target settings client = true) :
    (commandLifecycleOnceOne ssl target settings
        (cycle.timedInput tools ssl target settings client) client).posted.map
      ComponentStatus.lastRenewalStatus =
        some (if cycle.renewalApplyOk tools ssl target settings client then "applied"
          else "apply_failed") := by
  have applyOk : cycle.renewalApplyOk tools ssl target settings client =
      (((cycle.timedInput tools ssl target settings client).certificateApply settings client.cache
        target).result ssl target).succeeded := by
    unfold TimedCycle.renewalApplyOk
    rw [accepted, Bool.true_and]
  obtain ⟨checked, renews⟩ := Bool.and_eq_true_iff.mp accepted
  have checks := of_decide_eq_true checked
  rw [applyOk]
  generalize cycle.timedInput tools ssl target settings client = input at checks renews
  simp only [CycleInput.renews, Bool.and_eq_true, Bool.not_eq_true'] at renews
  obtain ⟨⟨⟨⟨required, allowed⟩, warm⟩, answered⟩, stored⟩ := renews
  obtain ⟨version, isVersion⟩ := Option.isSome_iff_exists.mp checks.2.2
  obtain ⟨body, isBody⟩ := Option.isSome_iff_exists.mp answered
  have updated := updateTrust_cache ssl target settings input client
  rw [isVersion, Option.getD_some] at updated
  rw [cycle_checked settings ssl checks isVersion, required]
  refine congrArg some ((renew_status checks.1 allowed warm isBody stored).trans ?_)
  rw [updated, CycleInput.certificateApply, CycleInput.renewalCache, isBody]
  rfl

/-! ## How far apart the accepted renewals are -/

theorem longValue_record (config : TargetConfig) (status timestamp : String) (now : Int) :
    longValue (item (some (autoRenewalRecord config status timestamp now)) "unix_time") = now := by
  have names : ∀ name ∈ ["target", "application_uri", "status", "timestamp", "unix_time"],
      CText.ofText name = name := by decide +kernel
  simp only [List.mem_cons, List.not_mem_nil, or_false, forall_eq_or_imp, forall_eq] at names
  obtain ⟨isTarget, isUri, isStatus, isTimestamp, isTime⟩ := names
  simp [item, autoRenewalRecord, getObjectItem_cons, isTarget, isUri, isStatus, isTimestamp,
    isTime, longValue]

/-- A client that is not cooling down has its last renewal a cooldown ago. -/
theorem elapsed_of_not_cooling {cooldown : Int} {last : Option Json} {certStart : Option Int}
    {now : Int} (positive : 0 < cooldown) (known : 0 < longValue (item last "unix_time"))
    (free : ¬ 0 < autoRenewCooldownRemainingSeconds cooldown last certStart now) :
    longValue (item last "unix_time") + cooldown ≤ now := by
  by_contra recent
  have renewed : 0 < longValue (item last "unix_time") ∧
      now - longValue (item last "unix_time") < cooldown := ⟨known, by omega⟩
  apply free
  unfold autoRenewCooldownRemainingSeconds
  rw [if_neg (not_le.mpr positive)]
  dsimp only
  rw [if_pos renewed]
  cases certStart with
  | none => dsimp only; omega
  | some start =>
      dsimp only
      split
      · exact lt_max_of_lt_left (by omega)
      · omega

variable (tools) in
/-- The accepted renewals are a cooldown apart, and none is after the recorded one. -/
structure RenewalState.Spaced (state : RenewalState) : Prop where
  recorded : ∀ time ∈ state.accepted,
    0 < time ∧ time ≤ longValue (item (state.client.cache "renewal-last.json") "unix_time")
  apart : state.accepted.Pairwise fun later earlier => earlier + tools.cooldown ≤ later

/-- A renewal is accepted a cooldown after the recorded one, or later. -/
theorem accepted_after_recorded (positive : 0 < tools.cooldown)
    (known : 0 < longValue (item (client.cache "renewal-last.json") "unix_time"))
    (accepted : cycle.renewalOk tools ssl target settings client = true) :
    longValue (item (client.cache "renewal-last.json") "unix_time") + tools.cooldown ≤
      cycle.acceptedAt := by
  obtain ⟨checks, renews⟩ := Bool.and_eq_true_iff.mp accepted
  have free : ¬ 0 < cycle.remaining tools ssl target settings client := by
    simp only [CycleInput.renews, Bool.and_eq_true, Bool.not_eq_true'] at renews
    exact of_decide_eq_false renews.1.1.2
  have kept : (cycle.atRenewal ssl target settings client).cache "renewal-last.json" =
      client.cache "renewal-last.json" := by
    rw [TimedCycle.atRenewal, updateTrust_cache]
    exact trustCache_of_ne (by decide) (by decide) _
  unfold TimedCycle.remaining at free
  dsimp only at free
  rw [kept] at free
  exact (elapsed_of_not_cooling positive known free).trans cycle.accepts_after_check

/-- The file of the last renewal after a cycle. -/
theorem step_renewalLast {state next : RenewalState}
    (stepped : state.step tools ssl target settings cycle = some next) :
    next.client.cache "renewal-last.json" =
      if cycle.renewalApplyOk tools ssl target settings state.client && cycle.recordStored then
        some (autoRenewalRecord target.config "applied" (tools.utcIso cycle.recordedAt)
          cycle.recordedAt)
      else state.client.cache "renewal-last.json" := by
  cases stepped
  dsimp only
  unfold TimedCycle.record
  cases cycle.renewalApplyOk tools ssl target settings state.client with
  | false => exact cycle_cache_of_ne (by decide) (by decide) (by decide)
  | true =>
      cases cycle.recordStored with
      | false => exact cycle_cache_of_ne (by decide) (by decide) (by decide)
      | true =>
          rw [if_pos rfl]
          dsimp only
          rw [TargetCache.store_self]
          rfl

/-- A cycle that records what is accepted keeps the accepted renewals apart. -/
theorem spaced_step {state next : RenewalState} (positive : 0 < tools.cooldown)
    (spaced : state.Spaced tools)
    (stepped : state.step tools ssl target settings cycle = some next)
    (records : cycle.RecordsAccepted tools ssl target settings state.client) :
    next.Spaced tools := by
  have file := step_renewalLast stepped
  cases stepped
  cases accepted : cycle.renewalOk tools ssl target settings state.client with
  | false =>
      have notApplied : cycle.renewalApplyOk tools ssl target settings state.client = false := by
        unfold TimedCycle.renewalApplyOk
        rw [accepted, Bool.false_and]
      rw [notApplied] at file
      refine ⟨?_, spaced.apart⟩
      rw [file]
      exact spaced.recorded
  | true =>
      obtain ⟨applied, stored⟩ := records accepted
      rw [applied, stored] at file
      have started := cycle.afterEpoch
      have checked := cycle.accepts_after_check
      have ordered := cycle.records_after_accept
      have waited (time : Int) (earlier : time ∈ state.accepted) :
          0 < time ∧ time + tools.cooldown ≤ cycle.acceptedAt := by
        obtain ⟨afterEpoch, covered⟩ := spaced.recorded time earlier
        have apart := accepted_after_recorded positive (afterEpoch.trans_le covered) accepted
        exact ⟨afterEpoch, by omega⟩
      constructor
      · rw [file]
        intro time member
        rw [if_pos (by rfl), longValue_record]
        rcases List.mem_cons.mp member with rfl | earlier
        · exact ⟨by omega, ordered⟩
        · exact ⟨(waited time earlier).1, by have := (waited time earlier).2; omega⟩
      · exact List.pairwise_cons.mpr
          ⟨fun time earlier => (waited time earlier).2, spaced.apart⟩

/-- Of times a length apart, a window of that length has at most one. -/
theorem length_window_le_one {times : List Int} {length : Int}
    (apart : times.Pairwise fun later earlier => earlier + length ≤ later) (start : Int) :
    (times.filter fun time => decide (start ≤ time ∧ time < start + length)).length ≤ 1 := by
  induction apart with
  | nil => exact Nat.zero_le 1
  | @cons last earlier before _ ih =>
      rw [List.filter_cons]
      split
      · rename_i inside
        have outside : (earlier.filter fun time =>
            decide (start ≤ time ∧ time < start + length)) = [] := by
          apply List.filter_eq_nil_iff.mpr
          intro time member
          have gap := before time member
          have bounds := of_decide_eq_true inside
          rw [decide_eq_true_eq]
          omega
        rw [outside]
        rfl
      · exact ih

variable (tools ssl target settings) in
/-- Along every run in which each accepted renewal is applied and recorded, at most one renewal
is accepted within a cooldown. -/
theorem onePerCooldown_of_recorded (client : LifecycleState) (cycles : List TimedCycle)
    (records : Transition.EveryStep (RenewalState.step tools ssl target settings)
      (fun state cycle _ => cycle.RecordsAccepted tools ssl target settings state.client)
      ⟨client, []⟩ cycles) :
    Transition.EveryStep (RenewalState.step tools ssl target settings)
      (fun _ _ next => next.OnePerCooldown tools) ⟨client, []⟩ cycles := by
  by_cases positive : 0 < tools.cooldown
  · have spaced : Transition.EveryStep (RenewalState.step tools ssl target settings)
        (fun _ _ next => next.Spaced tools) ⟨client, []⟩ cycles :=
      records.every_state
        (fun state cycle next before stepped here => spaced_step positive before stepped here)
        ⟨nofun, List.Pairwise.nil⟩
    exact spaced.imp fun _ _ _ held start => length_window_le_one held.apart start
  · -- without a cooldown the windows are empty
    refine records.imp fun _ _ next _ start => ?_
    have empty : (next.accepted.filter fun time =>
        decide (start ≤ time ∧ time < start + tools.cooldown)) = [] := by
      apply List.filter_eq_nil_iff.mpr
      intro time _
      rw [decide_eq_true_eq]
      omega
    rw [empty]
    exact Nat.zero_le 1

end Steps

/-! A server that asks for a renewal in every cycle, and cycles five minutes apart. -/

def renewalTools : CooldownTools where
  variableValue := none
  notBefore := fun _ => none
  utcIso := fun _ => "1970-01-01T00:00:00Z"

/-- Renewals are allowed, and artifacts need no signature. -/
def renewalSettings : LifecycleSettings where
  autoPullTrust := false
  autoApplyTrust := false
  autoRenew := true
  autoRenewAllowed := true
  gds := {
    runtimeWriteEnabled := false
    requireSignedArtifacts := false
    strictCrlFreshness := false
    requireRevocationLists := false
    trustAnchorFingerprint := none }

/-- The cycle at a time, with the answer of the server to the renewal. -/
def renewalCycle (answer : Json) (seconds : Nat) : TimedCycle where
  input := {
    lifecycle := some (.obj [("renewal_required", .bool true)])
    trustVersion := ⟨some (some (.obj [])), true⟩
    material := ⟨none, true⟩
    versionStored := true
    applyGranted := fun _ => true
    coolingDown := false
    renewal := ⟨some (some answer), true⟩
    certificateGranted := fun _ => true
    statusDelivered := true }
  checkedAt := seconds + 1
  acceptedAt := seconds + 1
  recordedAt := seconds + 1
  recordStored := true
  afterEpoch := by omega
  accepts_after_check := le_refl _
  records_after_accept := le_refl _

/-- The renewal is recorded, and the next cycle is blocked. -/
theorem recorded_renewal_blocks_next :
    let cycles := [renewalCycle (.obj [("trust_distribution", .obj [])]) 0,
      renewalCycle (.obj [("trust_distribution", .obj [])]) 300]
    Transition.EveryStep
        (RenewalState.step renewalTools peerSsl .dmzGatewayServer renewalSettings)
        (fun _ _ next => next.OnePerCooldown renewalTools) ⟨.initial [], []⟩ cycles ∧
      (Transition.run (RenewalState.step renewalTools peerSsl .dmzGatewayServer renewalSettings)
        ⟨.initial [], []⟩ cycles).map RenewalState.accepted = some [1] := by
  refine ⟨onePerCooldown_of_recorded renewalTools peerSsl .dmzGatewayServer renewalSettings
    (.initial []) _ ?_, by decide +kernel⟩
  unfold TimedCycle.RecordsAccepted
  decide +kernel

/-- A renewal whose answer brings no trust material is never applied: the next cycle renews
again after five minutes, and so on, in a cooldown of a day. -/
theorem unapplied_renewal_repeats :
    let cycles := [renewalCycle (.obj []) 0, renewalCycle (.obj []) 300,
      renewalCycle (.obj []) 600]
    (Transition.run (RenewalState.step renewalTools peerSsl .dmzGatewayServer renewalSettings)
        ⟨.initial [], []⟩ cycles).map RenewalState.accepted = some [601, 301, 1] ∧
      renewalTools.cooldown = 86400 ∧
      ¬ Transition.EveryStep
        (RenewalState.step renewalTools peerSsl .dmzGatewayServer renewalSettings)
        (fun _ _ next => next.OnePerCooldown renewalTools) ⟨.initial [], []⟩ cycles := by
  intro cycles
  have accepted : (Transition.run
      (RenewalState.step renewalTools peerSsl .dmzGatewayServer renewalSettings)
      ⟨.initial [], []⟩ cycles).map RenewalState.accepted = some [601, 301, 1] := by
    decide +kernel
  refine ⟨accepted, rfl, fun every => ?_⟩
  obtain ⟨final, reached, times⟩ := Option.map_eq_some_iff.mp accepted
  have most := every.final (fun _ => Nat.zero_le 1) reached 0
  rw [times] at most
  exact absurd most (by decide)

end OpcuaGds.Gateway
