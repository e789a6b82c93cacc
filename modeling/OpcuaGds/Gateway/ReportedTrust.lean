import OpcuaGds.Gateway.Lifecycle

/-! # What the client reports and what it has applied

GDS offers a trust update until the client reports the hash of the current artifact, so a
report must not name material that the client has not pulled and, with automatic apply, not
applied. When runs of cycles keep to that.
-/

namespace OpcuaGds.Gateway

section Properties

variable (ssl : OpenSsl) (target : GdsTarget) (settings : LifecycleSettings)

namespace LifecycleState

variable (state : LifecycleState)

/-- The material with this hash was pulled and, with automatic apply, applied. -/
def Covers (sha : String) : Prop :=
  sha ∈ state.pulled ∧ (settings.autoApplyTrust = true → sha ∈ state.applied)

/-- The last report names no other material. -/
def ReportsCovered : Prop :=
  ∀ sha, state.posted.bind ComponentStatus.trustArtifactSha256 = some sha →
    state.Covers settings sha

/-- As long as the current artifact is not covered, GDS answers that there is an update,
and a cycle that gets this answer and that of the version check pulls. -/
def KeepsTrying : Prop :=
  ∀ current, current ≠ "" → ¬ state.Covers settings current → ∀ renewalRequired,
    let answer := componentLifecyclePayload current renewalRequired state.statusRow
    jsonBool (some answer) "trust_update_available" = true ∧
      ∀ input : CycleInput, input.lifecycle = some answer → input.Checks target.config →
        settings.autoPullTrust = true →
          ∃ status, (commandLifecycleOnceOne ssl target settings input state).posted =
              some status ∧
            (status.lastPullStatus = "completed" ∨ status.lastPullStatus = "failed")

/-- The row of GDS names no material that is not covered. -/
def RowCovered : Prop :=
  localHash state.statusRow ≠ "" → state.Covers settings (localHash state.statusRow)

end LifecycleState

/-- A cycle that gets both answers of the version check leaves in the cache only the name of
material that it pulls or that was pulled and, with automatic apply, that it applies
completely or that was applied. -/
def CycleInput.NamesCovered (input : CycleInput) (state : LifecycleState) : Prop :=
  input.Checks target.config → ∀ sha, input.namedSha256 settings state.cache = some sha →
    (input.pulledSha256 settings = some sha ∨ sha ∈ state.pulled) ∧
      (settings.autoApplyTrust = true →
        sha ∈ input.appliedSha256s settings state.cache ssl target ∨ sha ∈ state.applied)

end Properties

section Runs

variable {ssl : OpenSsl} {target : GdsTarget} {settings : LifecycleSettings}
  {input : CycleInput} {state : LifecycleState}

/-! ## The answer of GDS -/

theorem trustUpdateAvailable_payload (current : String) (renewalRequired : Bool)
    (row : Option ComponentStatus) :
    jsonBool (some (componentLifecyclePayload current renewalRequired row))
        "trust_update_available" =
      (localHash row == "" || localHash row != current) := by
  have names : ∀ name ∈ ["registered", "renewal_required", "trust_artifact_sha256",
      "trust_update_available"], CText.ofText name = name := by decide +kernel
  simp only [List.mem_cons, List.not_mem_nil, or_false, forall_eq_or_imp, forall_eq] at names
  obtain ⟨registered, renewal, sha, update⟩ := names
  simp [jsonBool, item, componentLifecyclePayload, getObjectItem_cons, registered, renewal, sha,
    update, isTrue]

theorem keepsTrying_iff :
    state.KeepsTrying ssl target settings ↔ state.RowCovered settings := by
  constructor
  · intro keeps named
    by_contra missing
    have offered := (keeps _ named missing false).1
    rw [trustUpdateAvailable_payload] at offered
    simp [named] at offered
  · intro covered current nonempty missing renewalRequired
    have offered : jsonBool (some (componentLifecyclePayload current renewalRequired
        state.statusRow)) "trust_update_available" = true := by
      rw [trustUpdateAvailable_payload, Bool.or_eq_true, beq_iff_eq, bne_iff_ne]
      by_contra same
      rw [not_or, not_not] at same
      exact missing (same.2 ▸ covered same.1)
    refine ⟨offered, fun input answered checks autoPull => ?_⟩
    refine cycle_pulls checks ?_ state
    rw [CycleInput.pulls, CycleInput.trustUpdate, answered, offered, autoPull]
    rfl

/-! ## What a cycle keeps -/

/-- The last report sent what the cache names. -/
def LifecycleState.ReportedCache (state : LifecycleState) : Prop :=
  state.posted.bind ComponentStatus.trustArtifactSha256 =
    namedSha256 (trustVersionFromCache state.cache)

theorem reportedCache_cycle (reported : state.ReportedCache) :
    (commandLifecycleOnceOne ssl target settings input state).ReportedCache := by
  cases isLocal : target.config.remotePeerReadOnly with
  | true =>
      rw [commandLifecycleOnceOne, if_pos isLocal]
      exact reported
  | false =>
      by_cases checks : input.Checks target.config
      · obtain ⟨posted, named, _⟩ := cycle_effect settings ssl checks state
        exact posted.trans named.symm
      · rw [cycle_unchecked isLocal checks]
        rfl

/-- What is covered stays covered, and a report that the row takes over names what the
report names. -/
theorem rowCovered_next {next : LifecycleState} {delivered : Bool}
    (kept : ∀ sha, state.Covers settings sha → next.Covers settings sha)
    (row : next.statusRow = if delivered then next.posted else state.statusRow)
    (reports : next.ReportsCovered settings) (covered : state.RowCovered settings) :
    next.RowCovered settings := by
  intro named
  rw [row] at named ⊢
  cases delivered with
  | false => exact kept _ (covered named)
  | true =>
      cases sent : next.posted.bind ComponentStatus.trustArtifactSha256 with
      | none =>
          rw [if_pos rfl, localHash, sent] at named
          exact absurd rfl named
      | some sha =>
          rw [if_pos rfl, localHash, sent]
          exact reports sha sent

/-- A step keeps what is reported covered exactly when the names it leaves are covered. -/
theorem covered_cycle_iff (reported : state.ReportedCache)
    (reports : state.ReportsCovered settings) (keeps : state.KeepsTrying ssl target settings) :
    let next := commandLifecycleOnceOne ssl target settings input state
    next.ReportsCovered settings ∧ next.KeepsTrying ssl target settings ↔
      input.NamesCovered ssl target settings state := by
  intro next
  rw [keepsTrying_iff] at keeps ⊢
  by_cases checks : input.Checks target.config
  · obtain ⟨posted, _, pulled, applied, row⟩ := cycle_effect settings ssl checks state
    have covers (sha : String) : next.Covers settings sha ↔
        (input.pulledSha256 settings = some sha ∨ sha ∈ state.pulled) ∧
          (settings.autoApplyTrust = true →
            sha ∈ input.appliedSha256s settings state.cache ssl target ∨
              sha ∈ state.applied) := by
      rw [LifecycleState.Covers, pulled, applied, List.mem_append, List.mem_append,
        Option.mem_toList]
    have kept (sha : String) (covered : state.Covers settings sha) :
        next.Covers settings sha :=
      (covers sha).mpr ⟨Or.inr covered.1, fun auto => Or.inr (covered.2 auto)⟩
    constructor
    · intro ⟨reportsNext, _⟩ _ sha named
      exact (covers sha).mp (reportsNext sha (posted.trans named))
    · intro namesCovered
      have reportsNext : next.ReportsCovered settings := fun sha sent =>
        (covers sha).mpr (namesCovered checks sha (posted.symm.trans sent))
      exact ⟨reportsNext, rowCovered_next kept row reportsNext keeps⟩
  · refine iff_of_true ?_ fun checked => absurd checked checks
    cases isLocal : target.config.remotePeerReadOnly with
    | true =>
        have same : next = state := if_pos isLocal
        rw [same]
        exact ⟨reports, keeps⟩
    | false =>
        have same : next = state.post input.statusDelivered "not_requested" "not_requested"
            "not_requested" := cycle_unchecked isLocal checks state
        have reportsNext : next.ReportsCovered settings := by
          rw [same]
          intro sha sent
          exact reports sha (reported.trans sent)
        have kept (sha : String) (covered : state.Covers settings sha) :
            next.Covers settings sha := by
          rw [same]
          exact covered
        have row : next.statusRow =
            if input.statusDelivered then next.posted else state.statusRow := by
          rw [same]
          rfl
        exact ⟨reportsNext, rowCovered_next kept row reportsNext keeps⟩

variable (ssl target settings) in
/-- The client reports only trust material that it has pulled and, with automatic apply,
applied, and as long as the current artifact is not covered GDS offers it and the client
pulls again, exactly when no cycle leaves the name of other material in the cache. -/
theorem reported_trust_applied_iff (runtime : FileTree) (cycles : List CycleInput) :
    Transition.EveryStep (LifecycleState.step ssl target settings)
        (fun _ _ next => next.ReportsCovered settings ∧ next.KeepsTrying ssl target settings)
        (.initial runtime) cycles ↔
      Transition.EveryStep (LifecycleState.step ssl target settings)
        (fun state input _ => input.NamesCovered ssl target settings state)
        (.initial runtime) cycles := by
  apply Transition.EveryStep.invariant_iff LifecycleState.ReportedCache
  case preserved =>
    intro state input next reported stepped
    cases stepped
    exact reportedCache_cycle reported
  case agree =>
    intro state input next reported good stepped
    cases stepped
    exact covered_cycle_iff reported good.1 good.2
  case initial => rfl
  case start =>
    refine ⟨nofun, keepsTrying_iff.mpr fun named => ?_⟩
    exact absurd rfl named

end Runs

/-! A client with automatic pull and apply, and a pull that fails. -/

def failedPullSettings : LifecycleSettings where
  autoPullTrust := true
  autoApplyTrust := true
  autoRenew := false
  autoRenewAllowed := false
  gds := {
    runtimeWriteEnabled := false
    requireSignedArtifacts := true
    strictCrlFreshness := true
    requireRevocationLists := true
    trustAnchorFingerprint := none }

/-- GDS has the artifact `new`, and the request for its trust material fails. -/
def failedPull : CycleInput where
  lifecycle := some (componentLifecyclePayload "new" false none)
  trustVersion := ⟨some (some (.obj [("trust_artifact_sha256", .str "new")])), true⟩
  material := ⟨none, true⟩
  versionStored := true
  applyGranted := fun _ => true
  coolingDown := false
  renewal := ⟨none, true⟩
  certificateGranted := fun _ => true
  statusDelivered := true

/-- The client reports `new` although it has neither pulled nor applied it, and GDS has no
update for it any more. -/
theorem failed_pull_reported :
    let after := commandLifecycleOnceOne peerSsl .dmzGatewayServer failedPullSettings failedPull
      (.initial [])
    after.statusRow = some ⟨some "new", "failed", "failed", "not_requested"⟩ ∧
      after.pulled = [] ∧ after.applied = [] ∧
      jsonBool (some (componentLifecyclePayload "new" false after.statusRow))
        "trust_update_available" = false ∧
      ¬ Transition.EveryStep
        (LifecycleState.step peerSsl .dmzGatewayServer failedPullSettings)
        (fun _ _ next => next.ReportsCovered failedPullSettings ∧
          next.KeepsTrying peerSsl .dmzGatewayServer failedPullSettings)
        (.initial []) [failedPull] := by
  intro after
  have row : after.statusRow = some ⟨some "new", "failed", "failed", "not_requested"⟩ := by
    decide +kernel
  have pulled : after.pulled = [] := by decide +kernel
  refine ⟨row, pulled, by decide +kernel, by rw [row]; decide +kernel, fun every => ?_⟩
  have sent : after.posted.bind ComponentStatus.trustArtifactSha256 = some "new" := by
    decide +kernel
  have covered := (every after rfl).1.1 "new" sent
  rw [LifecycleState.Covers, pulled] at covered
  cases covered.1

end OpcuaGds.Gateway
