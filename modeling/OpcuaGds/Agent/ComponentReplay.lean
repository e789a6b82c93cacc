import OpcuaGds.Agent.ComponentTrust
import OpcuaGds.Agent.ReplayProtection
import OpcuaGds.Agent.SignedMaterial

/-! # Expired and replayed artifacts in a component's runtime

The sync compares every artifact with the clock and with the one it has cached. The apply
verifies the signature of the cached artifact and asks the gate, and compares with nothing:
whether an apply is fresh is decided by the material that was pulled.
-/

namespace OpcuaGds.Agent

open Gds (Crypto)

/-! ## When the writer touches a file -/

/-- Some entry is written before the loop ends. -/
def carriesCertificate : List Json → Bool
  | [] => false
  | cert :: rest =>
      cert.isObject &&
        (configText cert "pem" "" != "" || carriesCertificate rest)

/-- The text of the CRL that is written first. -/
def firstCrlText (artifact : Json) : String :=
  if rootCrlText artifact = "" then intermediateCrlText artifact else rootCrlText artifact

/-- The artifact holds something that changes the files of a target. -/
def CarriesMaterial (layout : StageLayout) (tree : FileTree) (artifact : Json) : Prop :=
  caChainText artifact ≠ "" ∨
    match crlRead (firstCrlText artifact) with
    | some (some _) => True
    | some none => removeStaleGdsCrlAliases layout tree ≠ tree
    | none => carriesCertificate (certificateEntries artifact) = true

section Writer

variable {env : StageEnvironment} {layout : StageLayout}

/-- A step that only adds to a log with entries leaves a log with entries. -/
theorem Adds.log_ne_nil {allowed : String × List UInt8 → Prop} {before : StageState}
    {step : StageStep} (adds : Adds allowed before step) (logged : before.log ≠ []) :
    step.log ≠ [] := by
  obtain ⟨suffix, same, _⟩ := adds.log
  rw [same]
  exact List.append_ne_nil_of_left_ne_nil logged suffix

/-- What comes after a step that logged something does not clear the log. -/
theorem log_bind_ne_nil {step : StageStep} {next : StageState → StageStep}
    (logged : step.log ≠ []) (adds : ∀ after, Adds (fun _ => True) after (next after)) :
    StageStep.log (step >>= next) ≠ [] := by
  cases step with
  | error state => exact logged
  | ok state => exact (adds state).log_ne_nil logged

theorem StageState.log_write_ne_nil (state : StageState) (dir name : String)
    (content : List UInt8) : (state.write dir name content).log ≠ [] :=
  List.append_ne_nil_of_right_ne_nil _ (List.cons_ne_nil _ _)

theorem StageStep.not_touches {tree : FileTree} {step : StageStep} (log : step.log = [])
    (same : step.tree = tree) : ¬ step.Touches tree :=
  not_or.mpr ⟨not_not_intro log, not_not_intro same⟩

theorem adds_certificates_trivial (uuids : Nat → String) (index : Nat) (entries : List Json)
    (state : StageState) :
    Adds (fun _ => True) state (writeCertificates env layout uuids index entries state) :=
  adds_writeCertificates (fun _ _ _ => trivial) uuids index state

/-- An entry with a certificate is logged, whether or not it can be read. -/
theorem writeCertificate_log_ne_nil {fresh : String} {cert : Json} {state : StageState}
    (object : cert.isObject = true) (hasPem : configText cert "pem" "" ≠ "") :
    (writeCertificate env layout fresh cert state).log ≠ [] := by
  have pem : (certificateFile fresh cert).2 ≠ "" := hasPem
  rw [writeCertificate_eq object, if_neg pem]
  split
  · exact StageState.log_write_ne_nil _ _ _ _
  · exact StageState.log_write_ne_nil _ _ _ _

/-- The loop over the entries touches a file as soon as it meets one with a certificate. -/
theorem writeCertificates_touches (uuids : Nat → String) (index : Nat) (entries : List Json)
    (tree : FileTree) :
    (writeCertificates env layout uuids index entries ⟨tree, []⟩).Touches tree ↔
      carriesCertificate entries = true := by
  induction entries generalizing index with
  | nil => exact iff_of_false (StageStep.not_touches rfl rfl) Bool.false_ne_true
  | cons cert rest ih =>
      rw [writeCertificates, carriesCertificate, Bool.and_eq_true, Bool.or_eq_true, bne_iff_ne]
      by_cases object : cert.isObject = true
      · by_cases empty : configText cert "pem" "" = ""
        · have pem : (certificateFile (uuids index) cert).2 = "" := empty
          rw [writeCertificate_eq object, if_pos pem]
          exact (ih (index + 1)).trans (by simp [object, empty])
        · apply iff_of_true
          · apply Or.inl
            apply log_bind_ne_nil (writeCertificate_log_ne_nil object empty)
            exact fun after => adds_certificates_trivial uuids (index + 1) rest after
          · exact ⟨object, Or.inl empty⟩
      · rw [writeCertificate, if_neg object]
        exact iff_of_false (StageStep.not_touches rfl rfl) fun carries => object carries.1

/-- The steps after the chain, on the texts of the two CRLs. -/
def writeAfterChain (env : StageEnvironment) (layout : StageLayout) (uuids : Nat → String)
    (artifact : Json) (state : StageState) : StageStep := do
  let state ← writeCrls env layout (rootCrlText artifact) (intermediateCrlText artifact) state
  writeCertificates env layout uuids 0 (certificateEntries artifact) state

theorem adds_writeAfterChain (uuids : Nat → String) (artifact : Json) (state : StageState) :
    Adds (fun _ => True) state (writeAfterChain env layout uuids artifact state) := by
  apply Adds.bind
  · apply adds_writeCrls (crlAllowed_trivial _ _) (crlAllowed_trivial _ _)
    exact fun _ _ => trivial
  · intro after _
    exact adds_certificates_trivial uuids 0 _ after

theorem writeCrl_log_ne_nil {stem crlBase64 : String} {content : List UInt8}
    (read : crlRead crlBase64 = some (some content)) (state : StageState) :
    StageStep.log (writeCrl layout stem crlBase64 state) ≠ [] :=
  (writeCrl_first (crlAllowed_trivial stem crlBase64) read state).log_ne_nil
    (StageState.log_write_ne_nil _ _ _ _)

/-- Without a text nothing is written. -/
theorem writeCrl_bind_empty (stem : String) (state : StageState)
    (next : StageState → StageStep) : (writeCrl layout stem "" state >>= next) = next state := by
  rw [writeCrl, if_pos rfl]
  rfl

theorem writeCrl_bind_undecodable {stem crlBase64 : String}
    (read : crlRead crlBase64 = some none) (state : StageState)
    (next : StageState → StageStep) :
    (writeCrl layout stem crlBase64 state >>= next) = .error state := by
  rw [writeCrl_eq, read]
  rfl

section Crls

variable {rootCrl intermediateCrl : String}

theorem not_both_empty {content : Option (List UInt8)}
    (read : crlRead (if rootCrl = "" then intermediateCrl else rootCrl) = some content) :
    ¬ (rootCrl = "" ∧ intermediateCrl = "") := by
  intro empty
  rw [if_pos empty.1, empty.2] at read
  cases read

/-- A CRL that is written first and has bytes is logged. -/
theorem writeCrls_log_ne_nil {content : List UInt8}
    (read : crlRead (if rootCrl = "" then intermediateCrl else rootCrl) = some (some content))
    (state : StageState) :
    StageStep.log (writeCrls env layout rootCrl intermediateCrl state) ≠ [] := by
  have finish (after : StageState) : Adds (fun _ => True) after
      (if hasCrlProblems env layout after.tree then
        .error (restoreCrlSnapshot (snapshotCrlDirs layout state.tree) after)
      else .ok after) := by
    split
    · exact adds_restoreCrlSnapshot (fun _ _ => trivial) after
    · exact .refl after
  rw [writeCrls, if_neg (not_both_empty read)]
  by_cases noRoot : rootCrl = ""
  · rw [if_pos noRoot] at read
    dsimp only
    rw [noRoot, writeCrl_bind_empty]
    exact log_bind_ne_nil (writeCrl_log_ne_nil read _) finish
  · rw [if_neg noRoot] at read
    apply log_bind_ne_nil (writeCrl_log_ne_nil read _)
    intro after
    exact Adds.bind (adds_writeCrl (crlAllowed_trivial _ _) after) fun next _ => finish next

/-- When it has none, the stale aliases are gone and nothing is written. -/
theorem writeCrls_undecodable
    (read : crlRead (if rootCrl = "" then intermediateCrl else rootCrl) = some none)
    (state : StageState) :
    writeCrls env layout rootCrl intermediateCrl state =
      .error { state with tree := removeStaleGdsCrlAliases layout state.tree } := by
  rw [writeCrls, if_neg (not_both_empty read)]
  by_cases noRoot : rootCrl = ""
  · rw [if_pos noRoot] at read
    dsimp only
    rw [noRoot, writeCrl_bind_empty, writeCrl_bind_undecodable read]
  · rw [if_neg noRoot] at read
    exact writeCrl_bind_undecodable read _ _

end Crls

/-- The first CRL decides whether the CRL step touches a file. -/
theorem writeAfterChain_touches (uuids : Nat → String) (artifact : Json) (tree : FileTree) :
    (writeAfterChain env layout uuids artifact ⟨tree, []⟩).Touches tree ↔
      match crlRead (firstCrlText artifact) with
      | some (some _) => True
      | some none => removeStaleGdsCrlAliases layout tree ≠ tree
      | none => carriesCertificate (certificateEntries artifact) = true := by
  unfold writeAfterChain
  cases read : crlRead (firstCrlText artifact) with
  | none =>
      have empty : firstCrlText artifact = "" := crlRead_eq_none_iff.mp read
      have neither : rootCrlText artifact = "" ∧ intermediateCrlText artifact = "" := by
        unfold firstCrlText at empty
        split at empty
        · rename_i noRoot
          exact ⟨noRoot, empty⟩
        · rename_i hasRoot
          exact absurd empty hasRoot
      rw [writeCrls, if_pos neither]
      exact writeCertificates_touches uuids 0 _ tree
  | some decoded =>
      cases decoded with
      | none =>
          rw [writeCrls_undecodable read]
          exact or_iff_right (not_not_intro rfl)
      | some content =>
          apply iff_of_true _ trivial
          apply Or.inl
          apply log_bind_ne_nil (writeCrls_log_ne_nil read _)
          exact fun after => adds_certificates_trivial uuids 0 _ after

/-- The writer touches a file exactly when the artifact carries material for the target. -/
theorem writeTargetStageMaterial_touches {artifact : Json} (object : artifact.isObject = true)
    (uuids : Nat → String) (tree : FileTree) :
    (writeTargetStageMaterial env layout uuids artifact tree).Touches tree ↔
      CarriesMaterial layout tree artifact := by
  have chained : writeTargetStageMaterial env layout uuids artifact tree =
      (writeCaChain env layout (caChainText artifact) ⟨tree, []⟩ >>=
        writeAfterChain env layout uuids artifact) := by
    rw [writeTargetStageMaterial, if_pos object]
    rfl
  rw [chained, CarriesMaterial]
  by_cases empty : caChainText artifact = ""
  · rw [writeCaChain, if_pos empty]
    refine Iff.trans (writeAfterChain_touches uuids artifact tree) ?_
    rw [or_iff_right (not_not_intro empty)]
  · apply iff_of_true
    · apply Or.inl
      apply log_bind_ne_nil
      · have first : Adds (fun _ => True)
            (StageState.write ⟨tree, []⟩ layout.issuerCertsDir "ca-chain.pem"
              (textBytes (caChainText artifact)))
            (writeCaChain env layout (caChainText artifact) ⟨tree, []⟩) :=
          writeCaChain_first (fun _ _ _ => trivial) (fun _ _ _ => trivial) empty _
        exact first.log_ne_nil (StageState.log_write_ne_nil _ _ _ _)
      · exact fun after => adds_writeAfterChain uuids artifact after
    · exact Or.inl empty

end Writer

/-! ## Fresh artifacts -/

/-- The pair of the artifact is not below that of an earlier one. -/
def NotBehind (artifact earlier : Json) : Prop :=
  ∀ old, revisionPair earlier = some old →
    ∃ pair, revisionPair artifact = some pair ∧ ¬ PairLt pair old

theorem NotBehind.trans {first second third : Json} (later : NotBehind first second)
    (earlier : NotBehind second third) : NotBehind first third := by
  intro old hasOld
  obtain ⟨middle, hasMiddle, notBelow⟩ := earlier old hasOld
  obtain ⟨pair, hasPair, notBelowMiddle⟩ := later middle hasMiddle
  refine ⟨pair, hasPair, ?_⟩
  unfold PairLt at notBelow notBelowMiddle ⊢
  omega

/-- The `expires_at` of the artifact is later than the clock. -/
def Unexpired (now : Int) (artifact : Json) : Prop :=
  ∃ expiresAt, parseRfc3339Utc (configText artifact "expires_at" "") = some expiresAt ∧
    now < expiresAt

instance (now : Int) (artifact : Json) : Decidable (Unexpired now artifact) :=
  match read : parseRfc3339Utc (configText artifact "expires_at" "") with
  | none => isFalse (by simp [Unexpired, read])
  | some expiresAt => decidable_of_iff (now < expiresAt) (by simp [Unexpired, read])

section Apply

variable {PrivateKey PublicKey : Type} (crypto : Crypto PrivateKey PublicKey)
  (x509 : X509 PublicKey) (pin : Pin)

/-- A key with the pinned fingerprint has signed the payload of the artifact. -/
def SignedUnderPin (artifact : Json) : Prop :=
  ∃ (anchor : PinnedAnchor crypto pin) (signature : List UInt8),
    crypto.scheme.verify anchor.publicKey signature
      (canonicalArtifactPayload
        (normalizeSignedArtifactForVerification artifact)).canonicalBytes = true

/-- An artifact that may be written into a runtime after the earlier ones. -/
structure FreshFor (now : Int) (earlier : List Json) (artifact : Json) : Prop where
  signed : SignedUnderPin crypto pin artifact
  unexpired : Unexpired now artifact
  notReplayed : ∀ old ∈ earlier, NotBehind artifact old

/-- The cached artifact with what the apply asks of it and of the gate. -/
structure PassesChecks (request : ComponentApply PrivateKey) (cached : Option Json)
    (artifact : Json) : Prop where
  verified : ∃ trustPayload signature anchor result, cached = some trustPayload ∧
    componentTrustArtifactFromCache trustPayload = .ok (artifact, signature) ∧
    openSession crypto x509 pin request.anchorResponse = .ok anchor ∧
    verifySignedArtifact crypto artifact signature request.zone request.role anchor.publicKey
      anchor.fingerprint = .ok result
  crlFresh : request.stage.strictFreshness = true → freshnessVerified artifact = true
  gateOpen : ∃ gate, componentActivationGate crypto request = .ok gate ∧
    gate.status.isBlocked = false
  isComponent : ∃ path, runtimeCertificatePath request.target = .ok path

variable {crypto x509 pin}

/-- The checks before the first write. -/
theorem clearComponentTrust_eq_ok {request : ComponentApply PrivateKey} {cached : Option Json}
    {artifact : Json} :
    (∃ clearance, clearComponentTrust crypto x509 pin request cached = .ok clearance ∧
      clearance.artifact = artifact) ↔ PassesChecks crypto x509 pin request cached artifact := by
  simp only [clearComponentTrust, checkCrlFreshness, Fallible.bind_eq_ok, attempt_eq_ok,
    Fallible.exists_check,
    ensure_eq_ok, Except.ok.injEq]
  constructor
  · rintro ⟨_, ⟨trustPayload, hasPayload, ⟨_, signature⟩, taken, anchor, opened, result, verified,
      crlFresh, gate, evaluated, notBlocked, path, isComponent, rfl⟩, rfl⟩
    exact ⟨⟨trustPayload, signature, anchor, result, hasPayload, taken, opened, verified⟩,
      crlFresh, ⟨gate, evaluated, notBlocked⟩, path, isComponent⟩
  · rintro ⟨⟨trustPayload, signature, anchor, result, hasPayload, taken, opened, verified⟩,
      crlFresh, ⟨gate, evaluated, notBlocked⟩, path, isComponent⟩
    exact ⟨_, ⟨trustPayload, hasPayload, (artifact, signature), taken, anchor, opened, result,
      verified, crlFresh, gate, evaluated, notBlocked, path, isComponent, rfl⟩, rfl⟩

/-- What passes is a document with a signature under the pinned key. -/
theorem PassesChecks.signed {request : ComponentApply PrivateKey} {cached : Option Json}
    {artifact : Json} (passes : PassesChecks crypto x509 pin request cached artifact) :
    artifact.isObject = true ∧ SignedUnderPin crypto pin artifact := by
  obtain ⟨_, _, anchor, _, _, _, _, verified⟩ := passes.verified
  obtain ⟨object, _, _, _, _, _, _, _, _, signature, _⟩ :=
    (verifySignedArtifact_eq_ok crypto).mp verified
  obtain ⟨_, bytes, _, _, _, valid⟩ := (checkSignature_eq_ok crypto).mp signature
  exact ⟨object, anchor, bytes, valid⟩

/-- An apply writes the artifacts that pass and carry something for the target. -/
theorem writes_iff {state : ComponentState} {request : ComponentApply PrivateKey}
    {artifact : Json} :
    (∃ tree, state.writes crypto x509 pin request = some (artifact, tree)) ↔
      PassesChecks crypto x509 pin request (state.cache request.target) artifact ∧
        CarriesMaterial request.layout (state.runtime request.runtimeRoot) artifact := by
  rw [← clearComponentTrust_eq_ok]
  unfold ComponentState.writes applyComponentTrustOnly
  cases cleared : clearComponentTrust crypto x509 pin request (state.cache request.target) with
  | error failure => simp
  | ok clearance =>
      have object : clearance.artifact.isObject = true :=
        (clearComponentTrust_eq_ok.mp ⟨clearance, cleared, rfl⟩).signed.1
      have touches : (writeTargetStageMaterial request.stage request.layout request.uuids
          clearance.artifact (state.runtime request.runtimeRoot)).Touches
            (state.runtime request.runtimeRoot) ↔
          CarriesMaterial request.layout (state.runtime request.runtimeRoot) clearance.artifact :=
        writeTargetStageMaterial_touches object _ _
      dsimp only
      constructor
      · rintro ⟨tree, found⟩
        split at found
        · rename_i touched
          cases found
          exact ⟨⟨clearance, rfl, rfl⟩, touches.mp touched⟩
        · cases found
      · rintro ⟨⟨_, same, rfl⟩, carries⟩
        cases same
        exact ⟨_, if_pos (touches.mpr carries)⟩

variable (crypto x509 pin)

/-- Whatever an apply writes is signed, unexpired and not behind what was applied before. -/
def AppliesFresh (state : ComponentState) : ComponentEvent PrivateKey → Prop
  | .pull _ _ => True
  | .applyTrust request => ∀ artifact tree,
      state.writes crypto x509 pin request = some (artifact, tree) →
        FreshFor crypto pin request.gateInputs.now (state.applied request.target) artifact

/-- An apply whose checks pass finds material in the cache that is unexpired and not behind
what was applied last. -/
def FindsFreshMaterial (state : ComponentState) : ComponentEvent PrivateKey → Prop
  | .pull _ _ => True
  | .applyTrust request => ∀ artifact,
      PassesChecks crypto x509 pin request (state.cache request.target) artifact →
        CarriesMaterial request.layout (state.runtime request.runtimeRoot) artifact →
          Unexpired request.gateInputs.now artifact ∧
            ∀ last, (state.applied request.target).head? = some last → NotBehind artifact last

/-- The artifacts applied for each target, latest first, never go back. -/
def ComponentState.InOrder (state : ComponentState) : Prop :=
  ∀ target, (state.applied target).Pairwise NotBehind

variable {crypto x509 pin}

/-- Behind nothing that was applied is behind nothing that was applied last. -/
theorem notBehind_all_iff {artifact : Json} {earlier : List Json}
    (inOrder : earlier.Pairwise NotBehind) :
    (∀ old ∈ earlier, NotBehind artifact old) ↔
      ∀ last, earlier.head? = some last → NotBehind artifact last := by
  cases earlier with
  | nil => exact iff_of_true nofun nofun
  | cons last older =>
      obtain ⟨lastAbove, _⟩ := List.pairwise_cons.mp inOrder
      constructor
      · intro all first found
        cases found
        exact all last List.mem_cons_self
      · intro first old member
        have afterLast := first last rfl
        rcases List.mem_cons.mp member with rfl | inOlder
        · exact afterLast
        · exact afterLast.trans (lastAbove old inOlder)

theorem appliesFresh_iff {state : ComponentState} (inOrder : state.InOrder)
    (event : ComponentEvent PrivateKey) :
    AppliesFresh crypto x509 pin state event ↔ FindsFreshMaterial crypto x509 pin state event := by
  cases event with
  | pull targetCfg response => exact Iff.rfl
  | applyTrust request =>
      have all (artifact : Json) :
          (∀ old ∈ state.applied request.target, NotBehind artifact old) ↔
            ∀ last, (state.applied request.target).head? = some last → NotBehind artifact last :=
        notBehind_all_iff (inOrder request.target)
      constructor
      · intro fresh artifact passes carries
        obtain ⟨tree, written⟩ := writes_iff.mpr ⟨passes, carries⟩
        have isFresh := fresh artifact tree written
        exact ⟨isFresh.unexpired, (all artifact).mp isFresh.notReplayed⟩
      · intro finds artifact tree written
        obtain ⟨passes, carries⟩ := writes_iff.mp ⟨tree, written⟩
        obtain ⟨unexpired, notBehindLast⟩ := finds artifact passes carries
        exact ⟨passes.signed.2, unexpired, (all artifact).mpr notBehindLast⟩

/-- A fresh apply keeps the order. -/
theorem inOrder_step {state next : ComponentState} {event : ComponentEvent PrivateKey}
    (inOrder : state.InOrder) (stepped : state.step crypto x509 pin event = some next)
    (fresh : AppliesFresh crypto x509 pin state event) : next.InOrder := by
  cases event with
  | pull targetCfg response =>
      cases stepped
      cases response with
      | none => exact inOrder
      | some payload => exact inOrder
  | applyTrust request =>
      simp only [ComponentState.step] at stepped
      split at stepped
      · cases stepped
        exact inOrder
      · rename_i artifact tree written
        cases stepped
        intro target
        by_cases here : target = request.target
        · subst here
          have isFresh := fresh artifact tree written
          dsimp only
          rw [Function.update_self]
          exact List.pairwise_cons.mpr ⟨isFresh.notReplayed, inOrder _⟩
        · dsimp only
          rw [Function.update_of_ne here]
          exact inOrder target

/-- Over any pulls and applies: everything written into a runtime is signed, unexpired and
not behind anything applied before, exactly when every apply whose checks pass finds material
in the cache that is unexpired and not behind what was applied last. -/
theorem component_applies_fresh_iff (runtime : String → FileTree)
    (events : List (ComponentEvent PrivateKey)) :
    Transition.EveryStep (ComponentState.step crypto x509 pin)
        (fun state event _ => AppliesFresh crypto x509 pin state event)
        (.initial runtime) events ↔
      Transition.EveryStep (ComponentState.step crypto x509 pin)
        (fun state event _ => FindsFreshMaterial crypto x509 pin state event)
        (.initial runtime) events := by
  apply Transition.EveryStep.congr_of_kept ComponentState.InOrder
  · intro state event next inOrder stepped fresh
    exact inOrder_step inOrder stepped fresh
  · intro state event next inOrder _
    exact appliesFresh_iff inOrder event
  · exact fun target => List.Pairwise.nil

end Apply

/-! ## Material that expired, and material that was replaced -/

/-- What GDS answers about a gateway, for a version of its trust list. -/
def gatewayMaterial (version : Nat) : Option Json :=
  (exampleSigner.buildSignedArtifact exampleCrypto { exampleTrustList with version := version } []
    { caChainPem := "BEGIN CERTIFICATE", crlBase64 := "AA==", crlBundle := [],
      crlMetadata := [("crl_freshness_verified", .bool true)] }
    1 "version_changed" exampleMoment).map fun signed =>
      .obj [("trust_material", .obj [("artifact", signed.artifact),
        ("artifact_signature", .obj [("signature_base64", .str signed.signatureBase64)])])]

def gatewayCfg : Json :=
  .obj [("target", .str "dmz-gateway-client"), ("artifact_zone", .str "OT"),
    ("artifact_role", .str "server"), ("runtime_root", .str "/opt/gateway/pki")]

/-- An apply some seconds after the artifacts were generated. -/
def gatewayApply (seconds : Int) : ComponentApply Unit where
  targetCfg := gatewayCfg
  anchorResponse := some (.obj [("key_id", .str "gds"), ("algorithm", .str "ed25519"),
    ("public_key_pem", .str "pem"), ("fingerprint_sha256", .str "key")])
  gateInputs := {
    zoneinfo := fun _ => none
    maintenancePolicy := { timezone := "UTC", targets := [], globalBlackouts := [] }
    approvalsDir := none
    approvalSigner := { privateKey := (), keyId := "ot-approval-key-v1" }
    approvalRequired := false
    emergencyOverrideMode := false
    now := exampleMoment.micros + seconds * 1000000 }
  previewId := "p1"
  previewWritten := true
  stage := {
    pemCertToDer := fun _ => some []
    crlNextUpdate := fun _ => some (some (exampleMoment.micros + 86400000000))
    now := exampleMoment.micros + seconds * 1000000
    strictFreshness := true }
  uuids := fun _ => "u1"

/-- The state after some events, and what a further apply writes in it. -/
def gatewayWrite (front : List (ComponentEvent Unit)) (request : ComponentApply Unit) :
    Option (ComponentState × Json) :=
  (Transition.run (ComponentState.step exampleCrypto exampleX509 examplePin)
    (.initial fun _ => []) front).bind fun state =>
      (state.writes exampleCrypto exampleX509 examplePin request).map fun written =>
        (state, written.1)

theorem freshFor_of_gatewayWrite {front : List (ComponentEvent Unit)}
    {request : ComponentApply Unit} {state : ComponentState} {artifact : Json}
    (written : gatewayWrite front request = some (state, artifact))
    (every : Transition.EveryStep (ComponentState.step exampleCrypto exampleX509 examplePin)
      (fun state event _ => AppliesFresh exampleCrypto exampleX509 examplePin state event)
      (.initial fun _ => []) (front ++ [.applyTrust request])) :
    FreshFor exampleCrypto examplePin request.gateInputs.now (state.applied request.target)
      artifact := by
  obtain ⟨middle, ran, rest⟩ := Option.bind_eq_some_iff.mp written
  obtain ⟨⟨other, tree⟩, writes, same⟩ := Option.map_eq_some_iff.mp rest
  rw [Prod.mk.injEq] at same
  obtain ⟨rfl, rfl⟩ := same
  have last := (Transition.EveryStep.append_iff.mp every).2 middle ran
  have stepped : middle.step exampleCrypto exampleX509 examplePin (.applyTrust request) =
      some { cache := middle.cache
             runtime := Function.update middle.runtime request.runtimeRoot tree
             applied := Function.update middle.applied request.target
              (other :: middle.applied request.target) } := by
    rw [ComponentState.step, writes]
  exact (last _ stepped).1 other tree writes

/-- An artifact that expired in the cache is written, and so is one that is older than the
one written before. -/
theorem stale_material_applied :
    ¬ Transition.EveryStep (ComponentState.step exampleCrypto exampleX509 examplePin)
        (fun state event _ => AppliesFresh exampleCrypto exampleX509 examplePin state event)
        (.initial fun _ => [])
        [.pull gatewayCfg (gatewayMaterial 3), .applyTrust (gatewayApply 1000)] ∧
      ¬ Transition.EveryStep (ComponentState.step exampleCrypto exampleX509 examplePin)
        (fun state event _ => AppliesFresh exampleCrypto exampleX509 examplePin state event)
        (.initial fun _ => [])
        [.pull gatewayCfg (gatewayMaterial 3), .applyTrust (gatewayApply 0),
          .pull gatewayCfg (gatewayMaterial 2), .applyTrust (gatewayApply 0)] := by
  have expired : (gatewayWrite [.pull gatewayCfg (gatewayMaterial 3)] (gatewayApply 1000)).map
      (fun written => decide (Unexpired (gatewayApply 1000).gateInputs.now written.2)) =
        some false := by
    decide +kernel
  have replayed : (gatewayWrite [.pull gatewayCfg (gatewayMaterial 3),
        .applyTrust (gatewayApply 0), .pull gatewayCfg (gatewayMaterial 2)] (gatewayApply 0)).map
      (fun written => (revisionPair written.2,
        (written.1.applied (gatewayApply 0).target).map revisionPair)) =
          some (some (2, 1), [some (3, 1)]) := by
    decide +kernel
  constructor
  · intro every
    obtain ⟨⟨state, artifact⟩, written, late⟩ := Option.map_eq_some_iff.mp expired
    have fresh := freshFor_of_gatewayWrite written every
    exact of_decide_eq_false late fresh.unexpired
  · intro every
    obtain ⟨⟨state, artifact⟩, written, pairs⟩ := Option.map_eq_some_iff.mp replayed
    have fresh := freshFor_of_gatewayWrite written every
    rw [Prod.mk.injEq] at pairs
    obtain ⟨second, before⟩ := pairs
    obtain ⟨first, member, hasPair⟩ : ∃ first ∈ state.applied (gatewayApply 0).target,
        revisionPair first = some (3, 1) := by
      rw [← List.mem_map, before]
      exact List.mem_singleton_self _
    obtain ⟨pair, isSecond, notBelow⟩ := fresh.notReplayed first member (3, 1) hasPair
    have same : (2, 1) = pair := Option.some.inj (second.symm.trans isSecond)
    exact notBelow (same ▸ by decide)

end OpcuaGds.Agent
