import OpcuaGds.Agent.DiffSoundness
import OpcuaGds.Agent.ReplayProtection
import OpcuaGds.Agent.RuntimePreview

/-! # What a gate of a cycle vouches for

A gate that is ready stands on an artifact that the pinned key signed, that has not expired, and
that replaces nothing unreadable; on the approvals that the policy requires; and on an open
window. The plan of a target and its dry run are decided in the same way.
-/

namespace OpcuaGds.Agent

open Gds (Crypto)

/-! ## The decision of a gate -/

section Decision

variable {preview : ActivationPreview} {approvalRequired : Bool}
  {approvalSummary : Option ApprovalSummary} {approvalStatus : String}
  {emergencyOverrideMode : Bool}

theorem gateDecision_eq_ready_iff :
    (gateDecision preview approvalRequired approvalSummary approvalStatus
        emergencyOverrideMode).1 = .readyForStaging ↔
      preview.Compatible ∧ (approvalRequired = true → approvalSummary.isSome = true) ∧
        ¬ preview.maintenanceWindowStatus.Shut := by
  rw [gateDecision_status]
  by_cases compatible : preview.Compatible
  · rw [if_neg (not_not_intro compatible)]
    by_cases given : approvalRequired = true → approvalSummary.isSome = true
    · rw [if_neg (not_not_intro given)]
      by_cases shut : preview.maintenanceWindowStatus.Shut
      · rw [if_neg (not_not_intro shut)]
        refine iff_of_false ?_ fun all => all.2.2 shut
        split
        · nofun
        · split <;> nofun
      · rw [if_pos shut]
        exact iff_of_true rfl ⟨compatible, given, shut⟩
    · rw [if_pos given]
      exact iff_of_false nofun fun all => given all.2.1
  · rw [if_pos compatible]
    exact iff_of_false nofun fun all => compatible all.1

theorem gateDecision_eq_override_iff :
    (gateDecision preview approvalRequired approvalSummary approvalStatus
        emergencyOverrideMode).1 = .emergencyOverrideReady ↔
      preview.Compatible ∧ (approvalRequired = true → approvalSummary.isSome = true) ∧
        preview.maintenanceWindowStatus.Shut ∧ emergencyOverrideMode = true ∧
          preview.maintenanceWindowStatus.emergencyOverrideAllowed = true ∧
            overrideRequested approvalSummary = true := by
  rw [gateDecision_status]
  by_cases compatible : preview.Compatible
  · rw [if_neg (not_not_intro compatible)]
    by_cases given : approvalRequired = true → approvalSummary.isSome = true
    · rw [if_neg (not_not_intro given)]
      by_cases shut : preview.maintenanceWindowStatus.Shut
      · rw [if_neg (not_not_intro shut)]
        split
        · rename_i override
          exact iff_of_true rfl ⟨compatible, given, shut, override⟩
        · rename_i held
          refine iff_of_false ?_ fun all => held all.2.2.2
          split <;> nofun
      · rw [if_pos shut]
        exact iff_of_false nofun fun all => shut all.2.2.1
    · rw [if_pos given]
      exact iff_of_false nofun fun all => given all.2.1
  · rw [if_pos compatible]
    exact iff_of_false nofun fun all => compatible all.1

end Decision

/-! ## The artifact -/

section Vetting

variable {PrivateKey PublicKey : Type} (crypto : Crypto PrivateKey PublicKey)
  (x509 : X509 PublicKey) {pin : Pin} (anchor : PinnedAnchor crypto pin)

/-- An artifact that the pinned key signed for the target and that had not expired. -/
structure VettedFor (target : PreviewTarget) (artifact : Json) : Prop where
  isSigned : ∃ signature bytes, target.fetched = some (artifact, signature) ∧
    crypto.scheme.verify anchor.publicKey bytes (canonicalArtifactPayload
      (normalizeSignedArtifactForVerification artifact)).canonicalBytes = true
  zone : ∃ zone, target.targetCfg.field? "artifact_zone" = some zone ∧
    artifact.field? "zone" = some (.str zone.toStr)
  role : ∃ role, target.targetCfg.field? "artifact_role" = some role ∧
    artifact.field? "role" = some (.str role.toStr)
  unexpired : ∃ expiresAt, parseRfc3339Utc
    ((artifact.field? "expires_at").getD (.str "")).toStr = some expiresAt ∧
      target.fetchedAt ≤ expiresAt
  caChain : ∃ caChain, artifact.field? "ca_chain_pem" = some caChain ∧
    caChain.contains? "BEGIN CERTIFICATE" = some true
  certificates : (artifact.field? "certificates").isSome = true

variable {crypto x509 anchor}

theorem subscript_eq_ok {document value : Json} {key : String} :
    subscript document key = .ok value ↔ document.field? key = some value := attempt_eq_ok

theorem validated_fields {payload : Json} {zone role : String} {result : Unit}
    (valid : validateTrustlistPayload crypto x509 payload zone role = .ok result) :
    (∃ caChain, payload.field? "ca_chain_pem" = some caChain ∧
      caChain.contains? "BEGIN CERTIFICATE" = some true) ∧
      (payload.field? "certificates").isSome = true := by
  simp only [validateTrustlistPayload, Fallible.bind_eq_ok, attempt_eq_ok, ensure_eq_ok,
    subscript_eq_ok, Fallible.exists_check] at valid
  obtain ⟨_, _, _, _, _, _, _, caChain, isChain, found, contains, isTrue, certificates,
    isCertificates, _⟩ := valid
  exact ⟨⟨caChain, isChain, isTrue ▸ contains⟩, Option.isSome_iff_exists.mpr ⟨_, isCertificates⟩⟩

theorem vettedFor_of_fetchFor {settings : PreviewSettings PrivateKey} {target : PreviewTarget}
    {artifact : Json} (fetched : fetchFor crypto settings x509 anchor target = .ok artifact) :
    VettedFor crypto anchor target artifact := by
  simp only [fetchFor, fetchVerifiedSignedArtifact, Fallible.bind_eq_ok, attempt_eq_ok,
    subscript_eq_ok, require_eq_ok, Fallible.exists_check, Except.ok.injEq] at fetched
  obtain ⟨zone, isZone, role, isRole, ⟨found, signature⟩, isFetched, digest, verified, _,
    valid, expiresAt, expires, unexpired, rfl⟩ := fetched
  obtain ⟨_, header, _, _, _, _, _, _, _, checked, _⟩ :=
    (verifySignedArtifact_eq_ok crypto).mp verified
  obtain ⟨zoneField, roleField, _⟩ := checkHeader_eq_ok.mp header
  rw [field?_normalizeSignedArtifact (by decide)] at zoneField roleField
  obtain ⟨_, bytes, _, _, _, isSigned⟩ := (checkSignature_eq_ok crypto).mp checked
  obtain ⟨caChain, certificates⟩ := validated_fields valid
  exact ⟨⟨signature, bytes, isFetched, isSigned⟩, ⟨zone, isZone, zoneField⟩,
    ⟨role, isRole, roleField⟩, ⟨expiresAt, expires, not_lt.mp unexpired⟩, caChain, certificates⟩

end Vetting

/-! ## What the comparison sees -/

section Comparison

variable {parseNotAfter : String → Option String}

/-- Every certificate that has an application URI and a text has an end of validity. -/
def Readable (parseNotAfter : String → Option String) (certs : List CertEntry) : Prop :=
  ∀ cert ∈ certs, presentText cert.applicationUri ≠ none →
    ∀ pem, presentText cert.pem = some pem → parseNotAfter pem ≠ none

/-- The configuration names zone and role as texts, and the lists can be compared. -/
structure Harmless (parseNotAfter : String → Option String) (targetCfg : Json)
    (previous : Option TrustListView) (current : TrustListView) : Prop where
  zone : ∃ zone, targetCfg.field? "artifact_zone" = some (.str zone)
  role : ∃ role, targetCfg.field? "artifact_role" = some (.str role)
  notEmpty : current.certificates ≠ []
  previous : ∀ earlier, previous = some earlier → Readable parseNotAfter earlier.certificates
  current : Readable parseNotAfter current.certificates

theorem diffRisk_eq_critical_iff {criticalReasons : List String} {added removed : List CertView}
    {changed : List CertChange} {caChainChanged : Bool} :
    diffRisk criticalReasons added removed changed caChainChanged = .critical ↔
      criticalReasons ≠ [] := by
  rw [diffRisk]
  split
  · rename_i reasons
    exact iff_of_true rfl reasons
  · rename_i none
    refine iff_of_false (fun critical => ?_) none
    split at critical
    · cases critical
    · split at critical <;> cases critical

/-- What is read of a list that has been validated. -/
theorem trustListView_validated {artifact : Json} {current : Option TrustListView}
    (read : trustListView? artifact = some current)
    (certificates : (artifact.field? "certificates").isSome = true)
    (caChain : ∃ caChain, artifact.field? "ca_chain_pem" = some caChain ∧
      caChain.contains? "BEGIN CERTIFICATE" = some true) :
    ∃ list text entries, current = some list ∧ list.caChainPem = some (some text) ∧
      textContains "BEGIN CERTIFICATE" text = true ∧
      artifact.field? "ca_chain_pem" = some (.str text) ∧
      artifact.field? "certificates" = some (.arr entries) := by
  obtain ⟨chain, isChain, marked⟩ := caChain
  have truthy : artifact.truthy = true := by
    cases artifact with
    | obj fields =>
        cases fields with
        | nil => cases isChain
        | cons => rfl
    | _ => cases isChain
  rw [trustListView?, if_pos truthy] at read
  split at read
  · cases found : artifact.field? "certificates" with
    | none =>
        rw [found] at certificates
        cases certificates
    | some value =>
        cases value with
        | arr entries =>
            rw [found, textField?, isChain] at read
            obtain ⟨_, same, read⟩ := Option.bind_eq_some_iff.mp read
            cases same
            obtain ⟨certificates, _, read⟩ := Option.bind_eq_some_iff.mp read
            cases chain with
            | str text =>
                cases read
                exact ⟨_, text, entries, rfl, rfl, Option.some.inj marked, isChain, rfl⟩
            | null => cases marked
            | _ => cases read
        | _ =>
            rw [found] at read
            cases read
  · cases read

/-- A value differs from its own text unless it is that text. -/
theorem differs_toStr_iff {value : Json} :
    differs (some (.str value.toStr)) (some value) = false ↔ ∃ text, value = .str text := by
  rw [differs, bne_eq_false_iff_eq, Option.getD_some, Option.getD_some,
    Json.canonicalBytes_eq_iff]
  constructor
  · intro agrees
    exact ⟨value.toStr, agrees.symm.eq_of_isScalar rfl⟩
  · rintro ⟨text, rfl⟩
    exact .refl _

theorem compatibilityIssues_eq_nil_iff {targetCfg artifact zone role : Json} {text : String}
    {entries : List Json} (isZone : targetCfg.field? "artifact_zone" = some zone)
    (zoneField : artifact.field? "zone" = some (.str zone.toStr))
    (isRole : targetCfg.field? "artifact_role" = some role)
    (roleField : artifact.field? "role" = some (.str role.toStr))
    (caChain : artifact.field? "ca_chain_pem" = some (.str text))
    (marked : textContains "BEGIN CERTIFICATE" text = true)
    (certificates : artifact.field? "certificates" = some (.arr entries)) :
    compatibilityIssues targetCfg artifact = [] ↔
      (∃ zone, targetCfg.field? "artifact_zone" = some (.str zone)) ∧
        ∃ role, targetCfg.field? "artifact_role" = some (.str role) := by
  have isText {value : Json} {key : String} (found : targetCfg.field? key = some value) :
      (∃ text, targetCfg.field? key = some (.str text)) ↔ ∃ text, value = .str text := by
    simp [found]
  rw [compatibilityIssues, isText isZone, isText isRole, ← differs_toStr_iff,
    ← differs_toStr_iff, zoneField, isZone, roleField, isRole, caChain, certificates,
    Option.getD_some, Json.toStr_str, if_pos marked]
  simp

/-- The reasons for which a comparison is critical. -/
theorem previewDiff_critical_iff {artifact : Json} {previous : Option TrustListView}
    {current : TrustListView} {text : String} (caChain : current.caChainPem = some (some text))
    (marked : textContains "BEGIN CERTIFICATE" text = true) :
    (previewDiff parseNotAfter artifact previous (some current)).riskLevel ≠ .critical ↔
      current.certificates ≠ [] ∧
        (∀ earlier, previous = some earlier → Readable parseNotAfter earlier.certificates) ∧
          Readable parseNotAfter current.certificates := by
  rw [previewDiff, buildDiffReport, Ne, diffRisk_eq_critical_iff, not_not, List.nil_append,
    List.append_eq_nil_iff, List.append_eq_nil_iff, currentReasons_eq_nil_iff,
    parseErrors_eq_nil_iff, parseErrors_eq_nil_iff]
  constructor
  · rintro ⟨⟨⟨notEmpty, _⟩, readable⟩, currentReadable⟩
    refine ⟨notEmpty current rfl, ?_, currentReadable⟩
    rintro earlier rfl
    exact readable
  · rintro ⟨notEmpty, readable, currentReadable⟩
    refine ⟨⟨⟨?_, ?_⟩, ?_⟩, currentReadable⟩
    · intro _ same
      cases same
      exact notEmpty
    · intro _ listed pem same
      cases listed
      cases caChain.symm.trans same
      exact marked
    · cases previous with
      | none => exact fun _ member => absurd member List.not_mem_nil
      | some earlier => exact readable earlier rfl

end Comparison

/-! ## One target -/

section Target

variable {PrivateKey PublicKey : Type} (crypto : Crypto PrivateKey PublicKey)
  (parseNotAfter : String → Option String) (settings : PreviewSettings PrivateKey) {pin : Pin}
  (anchor : PinnedAnchor crypto pin) (before : PreviewDirs) (target : PreviewTarget)

/-- The earlier list that the preview of a target is compared with. -/
def ReadsEarlier (previous : Option TrustListView) : Prop :=
  ∃ document, loadPreviousPreviewPayload (before target.name) = .ok document ∧
    cachedView? document = some previous

/-- The status of a gate is what artifact, approvals, policy and clock make of it. -/
structure Justifies (artifact : Json) (status : GateStatus) : Prop where
  vetted : VettedFor crypto anchor target artifact
  decided : ∃ previous current approvals,
    ReadsEarlier before target previous ∧ trustListView? artifact = some (some current) ∧
      loadValidApprovalsForTarget crypto settings.gate.approvalSigner target.approvalsDir
        target.name target.now = .ok approvals ∧
      (status = .readyForStaging ↔
        Harmless parseNotAfter target.targetCfg previous current ∧
          (settings.inputs target).Given target.name approvals ∧
            ¬ ((settings.inputs target).windowStatus target.name).Shut) ∧
      (status = .emergencyOverrideReady ↔
        Harmless parseNotAfter target.targetCfg previous current ∧
          (settings.inputs target).Given target.name approvals ∧
            ((settings.inputs target).windowStatus target.name).Shut ∧
              (settings.inputs target).AdmitsOverride target.name ∧
                AsksOverride ((settings.inputs target).approvalLevel target.name) approvals)

variable {crypto parseNotAfter settings anchor before target}

theorem mustWrite_eq_ok {done : Bool} {result : Unit} :
    mustWrite done = .ok result ↔ done = true := by
  cases done <;> simp [mustWrite]

theorem status_ne_incompatible_iff {pathExists : String → Bool} {targetCfg artifact : Json}
    {compat : RuntimeCompatibility}
    (evaluated : evaluateRuntimeCompatibility pathExists targetCfg artifact = .ok compat) :
    compat.status ≠ "INCOMPATIBLE" ↔ compatibilityIssues targetCfg artifact = [] := by
  rw [evaluateRuntimeCompatibility] at evaluated
  obtain ⟨paths, _, made⟩ := Fallible.bind_eq_ok.mp evaluated
  cases made
  dsimp only
  by_cases issues : compatibilityIssues targetCfg artifact = []
  · rw [if_neg (not_not_intro issues)]
    refine iff_of_true ?_ issues
    split <;> decide
  · rw [if_pos issues]
    exact iff_of_false (not_not_intro rfl) issues

theorem previewRisk_ne_critical_iff {status : String} {risk : DiffRisk}
    (compatible : status ≠ "INCOMPATIBLE") :
    previewRisk status risk ≠ "CRITICAL" ↔ risk ≠ .critical := by
  rw [previewRisk, if_neg compatible]
  cases risk with
  | low =>
      refine iff_of_true ?_ nofun
      split <;> decide
  | medium => simp [DiffRisk.text]
  | high => simp [DiffRisk.text]
  | critical => exact iff_of_false (not_not_intro rfl) (not_not_intro rfl)

variable (parseNotAfter) in
/-- A preview is held back exactly where it is not harmless. -/
theorem compatible_iff (previous : Option TrustListView) {artifact : Json}
    {current : TrustListView} {compat : RuntimeCompatibility}
    (vetted : VettedFor crypto anchor target artifact)
    (read : trustListView? artifact = some (some current))
    (evaluated : evaluateRuntimeCompatibility target.pathExists target.targetCfg artifact =
      .ok compat) :
    (compat.status ≠ "INCOMPATIBLE" ∧ previewRisk compat.status
        (previewDiff parseNotAfter artifact previous (some current)).riskLevel ≠ "CRITICAL") ↔
      Harmless parseNotAfter target.targetCfg previous current := by
  obtain ⟨list, text, entries, same, caChain, marked, chainField, certificates⟩ :=
    trustListView_validated read vetted.certificates vetted.caChain
  cases same
  obtain ⟨zone, isZone, zoneField⟩ := vetted.zone
  obtain ⟨role, isRole, roleField⟩ := vetted.role
  have texts := compatibilityIssues_eq_nil_iff isZone zoneField isRole roleField chainField marked
    certificates
  constructor
  · rintro ⟨compatible, notCritical⟩
    obtain ⟨zoneText, roleText⟩ := texts.mp ((status_ne_incompatible_iff evaluated).mp compatible)
    obtain ⟨notEmpty, earlier, now⟩ := (previewDiff_critical_iff caChain marked).mp
      ((previewRisk_ne_critical_iff compatible).mp notCritical)
    exact ⟨zoneText, roleText, notEmpty, earlier, now⟩
  · intro harmless
    have compatible := (status_ne_incompatible_iff evaluated).mpr
      (texts.mpr ⟨harmless.zone, harmless.role⟩)
    exact ⟨compatible, (previewRisk_ne_critical_iff compatible).mpr
      ((previewDiff_critical_iff caChain marked).mpr
        ⟨harmless.notEmpty, harmless.previous, harmless.current⟩)⟩

/-- The gate of a preview is decided by what the preview was made of. -/
theorem justifies_previewGate {artifact : Json} {preview : RuntimePreview}
    (vetted : VettedFor crypto anchor target artifact)
    (made : buildRuntimePreviewForTarget crypto parseNotAfter settings target artifact before =
      some (.ok preview)) :
    Justifies crypto parseNotAfter settings anchor before target artifact
      (previewGate settings target preview).status := by
  rw [buildRuntimePreviewForTarget] at made
  split at made
  · cases made
  · rename_i document loaded
    obtain ⟨previous, readPrevious, made⟩ := Option.bind_eq_some_iff.mp made
    obtain ⟨view, read, made⟩ := Option.bind_eq_some_iff.mp made
    obtain ⟨current, _, _, rfl, _⟩ :=
      trustListView_validated read vetted.certificates vetted.caChain
    have made := Option.some.inj made
    simp only [previewOfViews, Fallible.bind_eq_ok, mustWrite_eq_ok, Fallible.exists_check] at made
    obtain ⟨compat, evaluated, _, approval, approved, _, isPreview⟩ := made
    rw [loadActiveApprovalForTarget] at approved
    obtain ⟨approvals, isLoaded, summarized⟩ := Fallible.bind_eq_ok.mp approved
    cases summarized
    cases isPreview
    have harmless := compatible_iff parseNotAfter previous vetted read evaluated
    refine ⟨vetted, previous, current, approvals, ⟨document, loaded, readPrevious⟩, read, isLoaded,
      ?_, ?_⟩
    · apply gateDecision_eq_ready_iff.trans
      apply and_congr harmless
      apply and_congr_left'
      exact forall_congr' fun _ => summarizeApprovals_isSome_iff
    · apply gateDecision_eq_override_iff.trans
      apply and_congr harmless
      apply and_congr (forall_congr' fun _ => summarizeApprovals_isSome_iff)
      apply and_congr_right'
      rw [GateInputs.AdmitsOverride, and_assoc]
      exact and_congr_right' (and_congr_right' overrideRequested_summarizeApprovals_iff)

end Target

/-! ## Runs over the targets -/

section Runs

variable {PrivateKey PublicKey : Type} (crypto : Crypto PrivateKey PublicKey)
  (parseNotAfter : String → Option String) (settings : PreviewSettings PrivateKey) {pin : Pin}
  (anchor : PinnedAnchor crypto pin)

/-- The previews of the targets in their order, each made in the directories that the earlier ones
left, and each with a gate whose status is justified. -/
inductive PreviewRun : PreviewDirs → List PreviewTarget → List RuntimePreview → PreviewDirs → Prop
  | nil {dirs : PreviewDirs} : PreviewRun dirs [] [] dirs
  | cons {dirs after : PreviewDirs} {target : PreviewTarget} {targets : List PreviewTarget}
      {preview : RuntimePreview} {previews : List RuntimePreview}
      (justified : Justifies crypto parseNotAfter settings anchor dirs target
        preview.artifactSnapshot (previewGate settings target preview).status)
      (rest : PreviewRun (dirs.save target preview) targets previews after) :
      PreviewRun dirs (target :: targets) (preview :: previews) after

variable {crypto parseNotAfter settings anchor} {x509 : X509 PublicKey}

theorem artifactSnapshot_of_made {target : PreviewTarget} {artifact : Json} {dirs : PreviewDirs}
    {preview : RuntimePreview}
    (made : buildRuntimePreviewForTarget crypto parseNotAfter settings target artifact dirs =
      some (.ok preview)) : preview.artifactSnapshot = artifact := by
  rw [buildRuntimePreviewForTarget] at made
  split at made
  · cases made
  · obtain ⟨_, _, made⟩ := Option.bind_eq_some_iff.mp made
    obtain ⟨_, _, made⟩ := Option.bind_eq_some_iff.mp made
    have made := Option.some.inj made
    simp only [previewOfViews, Fallible.bind_eq_ok] at made
    obtain ⟨_, _, _, _, _, _, _, _, isPreview⟩ := made
    cases isPreview
    rfl

theorem previewRun_of_previewTargets {targets : List PreviewTarget} {dirs after : PreviewDirs}
    {previews : List RuntimePreview}
    (ran : previewTargets crypto parseNotAfter settings x509 anchor targets dirs =
      some (after, .ok previews)) :
    PreviewRun crypto parseNotAfter settings anchor dirs targets previews after := by
  induction targets generalizing dirs previews with
  | nil =>
      cases ran
      exact .nil
  | cons target rest ih =>
      rw [previewTargets] at ran
      split at ran
      · cases ran
      · rename_i artifact fetched
        split at ran
        · cases ran
        · cases ran
        · rename_i preview made
          obtain ⟨⟨left, others⟩, later, ran⟩ := Option.bind_eq_some_iff.mp ran
          obtain ⟨rfl, mapped⟩ := Prod.mk.inj (Option.some.inj ran)
          obtain ⟨found, isFound, rfl⟩ := exists_of_map_eq_ok mapped
          rw [isFound] at later
          refine .cons ?_ (ih later)
          rw [artifactSnapshot_of_made made]
          exact justifies_previewGate (vettedFor_of_fetchFor fetched) made

/-- What a completed preview run has passed. -/
theorem runRuntimePreviewOnce_eq_ok {anchorResponse : Option Json} {targets : List PreviewTarget}
    {dirs after : PreviewDirs} {previews : List RuntimePreview}
    (ran : runRuntimePreviewOnce crypto parseNotAfter settings x509 anchorResponse targets dirs =
      some (after, .ok previews)) :
    settings.requireSignedArtifacts = true ∧
      ∃ (isSet : settings.pinnedAnchorFingerprint ≠ "")
        (anchor : PinnedAnchor crypto ⟨settings.pinnedAnchorFingerprint, isSet⟩),
        PreviewRun crypto parseNotAfter settings anchor dirs targets previews after := by
  rw [runRuntimePreviewOnce] at ran
  split at ran
  · cases ran
  · rename_i isSigned
    split at ran
    · cases ran
    · rename_i isSet
      split at ran
      · cases ran
      · rename_i anchor opened
        exact ⟨Bool.eq_true_of_not_eq_false isSigned, isSet, anchor,
          previewRun_of_previewTargets ran⟩

theorem previewGates_eq_ok {previews : List (PreviewTarget × RuntimePreview)}
    {gates : List ActivationGate} (made : previewGates settings previews = .ok gates) :
    gates = previews.map fun preview => previewGate settings preview.1 preview.2 := by
  have each := Fallible.forall₂_of_mapM made
  clear made
  induction each with
  | nil => rfl
  | cons here _ ih =>
      obtain ⟨_, _, same⟩ := Fallible.bind_eq_ok.mp here
      cases same
      rw [List.map_cons, ih]

/-- The gates of a completed cycle are those of vetted previews, in the order of the targets. -/
theorem gate_cycle_justified {anchorResponse : Option Json} {targets : List PreviewTarget}
    {dirs after : PreviewDirs} {gates : List ActivationGate}
    (ran : runActivationGateCycle crypto parseNotAfter settings x509 anchorResponse targets dirs =
      some (after, .ok gates)) :
    settings.requireSignedArtifacts = true ∧
      ∃ (isSet : settings.pinnedAnchorFingerprint ≠ "")
        (anchor : PinnedAnchor crypto ⟨settings.pinnedAnchorFingerprint, isSet⟩)
        (previews : List RuntimePreview),
        PreviewRun crypto parseNotAfter settings anchor dirs targets previews after ∧
          gates = (targets.zip previews).map fun preview =>
            previewGate settings preview.1 preview.2 := by
  obtain ⟨⟨left, result⟩, previewed, ran⟩ := Option.bind_eq_some_iff.mp ran
  obtain ⟨rfl, made⟩ := Prod.mk.inj (Option.some.inj ran)
  cases result with
  | error failure => cases made
  | ok previews =>
      obtain ⟨isSigned, isSet, anchor, run⟩ := runRuntimePreviewOnce_eq_ok previewed
      exact ⟨isSigned, isSet, anchor, previews, run, previewGates_eq_ok made⟩

/-- The status of a plan is that of a justified gate. -/
theorem activation_plan_justified {planId bundleId : String} {rollbackWritten planWritten : Bool}
    {anchorResponse : Option Json} {target : PreviewTarget} {dirs after : PreviewDirs}
    {plan : ActivationPlan}
    (ran : createActivationPlanOnce crypto parseNotAfter settings x509 planId bundleId
      rollbackWritten planWritten anchorResponse target dirs = some (after, .ok plan)) :
    plan.status = planStatus plan.gate.status ∧
      ∃ (isSet : settings.pinnedAnchorFingerprint ≠ "")
        (anchor : PinnedAnchor crypto ⟨settings.pinnedAnchorFingerprint, isSet⟩) (artifact : Json),
        Justifies crypto parseNotAfter settings anchor dirs target artifact plan.gate.status := by
  obtain ⟨⟨left, result⟩, previewed, ran⟩ := Option.bind_eq_some_iff.mp ran
  obtain ⟨rfl, made⟩ := Prod.mk.inj (Option.some.inj ran)
  cases result with
  | error failure => cases made
  | ok previews =>
      obtain ⟨_, isSet, anchor, run⟩ := runRuntimePreviewOnce_eq_ok previewed
      cases run with
      | @cons _ _ _ _ preview previews justified rest =>
          obtain ⟨first, isFirst, made⟩ := Fallible.bind_eq_ok.mp made
          cases isFirst
          obtain ⟨_, _, made⟩ := Fallible.bind_eq_ok.mp made
          obtain ⟨_, _, made⟩ := Fallible.bind_eq_ok.mp made
          cases made
          exact ⟨rfl, isSet, anchor, _, justified⟩

end Runs

/-! ## A target inside its window -/

def previewedCertificate : Json :=
  .obj [("application_uri", .str "urn:server"), ("common_name", .str "server"),
    ("fingerprint_sha256", .str "key"), ("pem", .str "PEM")]

/-- GDS serves an artifact with one certificate. -/
def previewedTarget : PreviewTarget where
  targetCfg := .obj [("target", .str "opcua-server"), ("artifact_zone", .str "OT"),
    ("artifact_role", .str "server")]
  fetched := (exampleSigner.buildSignedArtifact exampleCrypto exampleTrustList
    [previewedCertificate]
    { caChainPem := "BEGIN CERTIFICATE", crlBase64 := "AA==", crlBundle := [], crlMetadata := [] }
    1 "version_changed" exampleMoment).map fun signed =>
      (signed.artifact, .obj [("signature_base64", .str signed.signatureBase64)])
  canonicalView := none
  fetchedAt := exampleMoment.micros
  pathExists := fun _ => true
  approvalsDir := none
  now := exampleMoment.micros
  compatWritten := true
  previewId := "p1"
  previewName := "20260109T030405Z_p1.json"
  previewWritten := true
  gateWritten := true

/-- No approval and no window is required. -/
def previewSettings : PreviewSettings Unit where
  gate := {
    zoneinfo := fun _ => none
    maintenancePolicy := {
      timezone := "UTC"
      targets := [("opcua-server", {
        windows := []
        blackouts := []
        policy := { defaultTargetPolicy "opcua-server" with maintenanceWindowRequired := false } })]
      globalBlackouts := [] }
    approvalsDir := none
    approvalSigner := gateSigner
    approvalRequired := false
    emergencyOverrideMode := false
    now := exampleMoment.micros }
  requireSignedArtifacts := true
  pinnedAnchorFingerprint := "key"
  signDebug := false

def previewAnchor : Option Json := (exampleCycle 1).anchorResponse

theorem previewed_gate_ready :
    ((runActivationGateCycle exampleCrypto (fun _ => some "2027") previewSettings exampleX509
        previewAnchor [previewedTarget] fun _ => none).bind fun ran =>
      ran.2.toOption.map fun gates => gates.map ActivationGate.status) =
        some [.readyForStaging] := by
  decide +kernel

theorem previewed_gate_justified : ∃ after gates,
    runActivationGateCycle exampleCrypto (fun _ => some "2027") previewSettings exampleX509
        previewAnchor [previewedTarget] (fun _ => none) = some (after, .ok gates) ∧
      gates.map ActivationGate.status = [.readyForStaging] ∧
      previewSettings.requireSignedArtifacts = true := by
  obtain ⟨⟨after, result⟩, ran, statuses⟩ := Option.bind_eq_some_iff.mp previewed_gate_ready
  obtain ⟨gates, isOk, ready⟩ := Option.map_eq_some_iff.mp statuses
  have made : result = .ok gates := Fallible.toOption_eq_some.mp isOk
  rw [made] at ran
  exact ⟨after, gates, ran, ready, (gate_cycle_justified ran).1⟩

end OpcuaGds.Agent
