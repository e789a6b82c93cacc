import OpcuaGds.Agent.InventoryDrift

/-! # Drift after an apply

An apply of the artifact that the report compares a runtime with leaves no certificate missing:
every listed one is in a file that carries its fingerprint, which no later write takes over.
-/

namespace OpcuaGds.Agent

variable {env : StageEnvironment} {layout : StageLayout} {outcomes : StageOutcomes}
  {uuids : Nat → String} {artifact : Json}

/-! ## The writes of the listed certificates -/

/-- The two files of an entry. -/
def IsPeerWrite (env : StageEnvironment) (layout : StageLayout) (cert : Json)
    (write : String × List UInt8) : Prop :=
  ∃ fresh,
    write = (FileTree.join layout.trustedCertsDir ((certificateFile fresh cert).1 ++ ".pem"),
      textBytes (certificateFile fresh cert).2) ∨
    ∃ der, env.pemCertToDer (certificateFile fresh cert).2 = some der ∧
      write = (FileTree.join layout.trustedCertsDir ((certificateFile fresh cert).1 ++ ".der"),
        der)

theorem adds_writeCertificate_peer (fresh : String) (cert : Json) (state : StageState) :
    Adds (fun write => cert.isObject = true ∧ IsPeerWrite env layout cert write) state
      (writeCertificate env layout fresh cert state) := by
  unfold writeCertificate
  split
  · rename_i isObject
    dsimp only
    split
    · exact .refl state
    · split
      · exact (Adds.write ⟨isObject, fresh, .inl rfl⟩ state).trans (.raised _)
      · rename_i der isDer
        exact (Adds.write ⟨isObject, fresh, .inl rfl⟩ state).trans
          (.write ⟨isObject, fresh, .inr ⟨der, isDer, rfl⟩⟩ _)
  · exact .raised state

variable (env layout uuids) in
theorem adds_writeCertificates_peer (index : Nat) (entries : List Json) (state : StageState) :
    Adds (fun write => ∃ cert ∈ entries, cert.isObject = true ∧ IsPeerWrite env layout cert write)
      state (writeCertificates env layout uuids index entries state) := by
  induction entries generalizing index state with
  | nil => exact .refl state
  | cons cert rest ih =>
      rw [writeCertificates]
      apply Adds.bind
      · apply (adds_writeCertificate_peer _ cert state).mono
        exact fun write isWrite => ⟨cert, List.mem_cons_self, isWrite⟩
      · intro after _
        apply (ih (index + 1) after).mono
        rintro write ⟨other, member, isWrite⟩
        exact ⟨other, List.mem_cons_of_mem _ member, isWrite⟩

/-- Where the loop comes to its end, the DER file of every entry with a text is written. -/
theorem der_written {entries : List Json} {index : Nat} {state after : StageState}
    (written : writeCertificates env layout uuids index entries state = .ok after) {cert : Json}
    (member : cert ∈ entries) (pem : (certificateFile "" cert).2 ≠ "") :
    ∃ fresh der, (FileTree.join layout.trustedCertsDir
      ((certificateFile fresh cert).1 ++ ".der"), der) ∈ after.log := by
  induction entries generalizing index state with
  | nil => cases member
  | cons first rest ih =>
      rw [writeCertificates] at written
      obtain ⟨middle, here, later⟩ := Fallible.bind_eq_ok.mp written
      rcases List.mem_cons.mp member with rfl | inRest
      · obtain ⟨suffix, log, _⟩ :=
          (adds_writeCertificates_peer env layout uuids (index + 1) rest middle).log
        rw [later] at log
        have isLog : after.log = middle.log ++ suffix := log
        rw [writeCertificate] at here
        split at here
        · dsimp only at here
          rw [if_neg (show (certificateFile (uuids index) cert).2 ≠ "" from pem)] at here
          split at here
          · cases here
          · rename_i der _
            cases here
            refine ⟨uuids index, der, ?_⟩
            rw [isLog]
            simp [StageState.write]
        · cases here
      · exact ih later inRest

/-! ## What the inspection reads of them -/

/-- The artifact speaks the truth about its certificates, and their files are inspected. -/
structure Inspectable (env : StageEnvironment) (layout : StageLayout)
    (inspection : DriftInspection) (artifact : Json) : Prop where
  rootAvailable : inspection.rootAvailable = true
  fingerprints : HexFingerprints artifact
  pem : ∀ cert ∈ certificateEntries artifact, (certificateFile "" cert).2 ≠ ""
  genuine : ∀ cert ∈ certificateEntries artifact, ∀ fp der,
    cert.field? "fingerprint_sha256" = some (.str fp) →
      env.pemCertToDer (certificateFile "" cert).2 = some der →
        ∃ metadata, inspection.metadata der = some metadata ∧
          PythonText.lower metadata.fingerprintSha256 = PythonText.lower fp
  visible : ∀ cert ∈ certificateEntries artifact,
    isPrivateFile (FileTree.join layout.trustedCertsDir
        ((certificateFile "" cert).1 ++ ".der")) = false ∧
      inspection.readable (FileTree.join layout.trustedCertsDir
        ((certificateFile "" cert).1 ++ ".der")) = true

/-- The fresh identifier is not used for an entry with a fingerprint. -/
theorem certificateFile_eq {cert : Json} {fp : String}
    (given : cert.field? "fingerprint_sha256" = some (.str fp)) (fresh : String) :
    certificateFile fresh cert = certificateFile "" cert := by
  simp only [certificateFile, given, Option.getD_some]

/-- Entries of one file name have one fingerprint. -/
theorem fingerprint_of_name {cert other : Json} {fp otherFp : String}
    (given : cert.field? "fingerprint_sha256" = some (.str fp)) (isFp : IsFingerprint fp)
    (otherGiven : other.field? "fingerprint_sha256" = some (.str otherFp))
    (isOtherFp : IsFingerprint otherFp)
    (same : (certificateFile "" cert).1 = (certificateFile "" other).1) :
    PythonText.lower fp = PythonText.lower otherFp := by
  have length {text : String} (isFingerprint : IsFingerprint text) :=
    (isFingerprint_lower isFingerprint).1
  simp only [certificateFile, given, otherGiven, Option.getD_some, Json.toStr] at same
  have chars := congrArg String.toList same
  simp only [String.toList_append] at chars
  have front := (List.append_inj_left' chars rfl)
  have back := List.append_inj_right' front ((length isFp).trans (length isOtherFp).symm)
  exact String.toList_inj.mp back

/-! ## Nothing is missing -/

variable (env layout uuids artifact) in
theorem certificatePart_peer : ∀ write ∈ (certificatePart env layout uuids artifact).writes,
    ∃ cert ∈ certificateEntries artifact, cert.isObject = true ∧
      IsPeerWrite env layout cert write :=
  mem_part_of_adds (adds_writeCertificates_peer env layout uuids 0 _ _)

theorem certificatePart_der (complete : (certificatePart env layout uuids artifact).complete = true)
    {cert : Json} (member : cert ∈ certificateEntries artifact)
    (pem : (certificateFile "" cert).2 ≠ "") :
    ∃ fresh der, (FileTree.join layout.trustedCertsDir
      ((certificateFile fresh cert).1 ++ ".der"), der) ∈
        (certificatePart env layout uuids artifact).writes := by
  rw [certificatePart] at complete ⊢
  cases written : writeCertificates env layout uuids 0 (certificateEntries artifact) ⟨[], []⟩ with
  | error left =>
      rw [written] at complete
      cases complete
  | ok after => exact der_written written member pem

/-- What is last written under the DER name of an entry is the DER of an entry with its
fingerprint. -/
theorem lastWritten_der (fingerprints : HexFingerprints artifact)
    (complete : (certificatePart env layout uuids artifact).complete = true) {cert : Json}
    (member : cert ∈ certificateEntries artifact) (isObject : cert.isObject = true)
    (pem : (certificateFile "" cert).2 ≠ "") {fp : String}
    (given : cert.field? "fingerprint_sha256" = some (.str fp)) :
    ∃ der, FileTree.lastWritten (certificatePart env layout uuids artifact).writes
        (FileTree.join layout.trustedCertsDir ((certificateFile "" cert).1 ++ ".der")) =
          some der ∧
      ∃ other ∈ certificateEntries artifact, ∃ otherFp,
        other.field? "fingerprint_sha256" = some (.str otherFp) ∧
          env.pemCertToDer (certificateFile "" other).2 = some der ∧
            PythonText.lower otherFp = PythonText.lower fp := by
  obtain ⟨fresh, first, written⟩ := certificatePart_der complete member pem
  rw [certificateFile_eq given] at written
  obtain ⟨der, last⟩ := FileTree.exists_lastWritten written
  obtain ⟨other, among, otherObject, otherFresh, isWrite⟩ :=
    certificatePart_peer env layout uuids artifact _ (FileTree.mem_of_lastWritten last)
  obtain ⟨otherFp, otherGiven, isOtherFp⟩ := fingerprints other among otherObject
  obtain ⟨held, heldGiven, isFp⟩ := fingerprints cert member isObject
  obtain rfl : held = fp := Json.str.inj (Option.some.inj (heldGiven.symm.trans given))
  rw [certificateFile_eq otherGiven] at isWrite
  refine ⟨der, last, other, among, otherFp, otherGiven, ?_⟩
  rcases isWrite with isPem | ⟨content, isDer, isFile⟩
  · obtain ⟨path, _⟩ := Prod.mk.inj isPem
    have names := congrArg String.toList (FileTree.join_right_inj.mp path)
    rw [String.toList_append, String.toList_append] at names
    exact absurd (List.append_inj_right' names rfl) (by decide)
  · obtain ⟨path, rfl⟩ := Prod.mk.inj isFile
    have names := congrArg String.toList (FileTree.join_right_inj.mp path)
    rw [String.toList_append, String.toList_append] at names
    have same := String.toList_inj.mp (List.append_inj_left' names rfl)
    exact ⟨isDer, (fingerprint_of_name given isFp otherGiven isOtherFp same).symm⟩

/-- A certificate that the applied artifact lists is held by the runtime. -/
theorem holds_after_apply {target : DriftTarget} {before : FileTree}
    (inspectable : Inspectable env layout target.inspection artifact)
    (applied : applyTargetStageMaterial env layout outcomes uuids artifact before =
      .ok target.runtime) {fp : String} (listed : ListsFingerprint artifact fp) :
    target.Holds fp := by
  obtain ⟨cert, member, isObject, value, isValue, _, rfl⟩ := listed
  obtain ⟨given, isGiven, isFp⟩ := inspectable.fingerprints cert member isObject
  obtain rfl : value = .str given := Option.some.inj (isValue.symm.trans isGiven)
  obtain ⟨_, afterCrls, _, ran⟩ := apply_ok_cases applied
  rw [StagePart.run] at ran
  split at ran
  · cases ran
  · rename_i wrote passed
    split at ran
    · rename_i complete
      obtain ⟨der, last, other, among, otherFp, otherGiven, isDer, same⟩ := lastWritten_der
        inspectable.fingerprints complete member isObject (inspectable.pem cert member) isGiven
      obtain ⟨metadata, isMetadata, fingerprint⟩ :=
        inspectable.genuine other among otherFp der otherGiven isDer
      obtain ⟨isPublic, readable⟩ := inspectable.visible cert member
      refine ⟨inspectable.rootAvailable, _, der, metadata, ?_, isPublic, readable, isMetadata, ?_,
        fingerprint.trans same⟩
      · rw [← Except.ok.inj ran, FileTree.tryWrites_of_required passed, FileTree.read_writeAll,
          last]
        rfl
      · intro empty
        have length := (isFingerprint_lower isFp).1
        have same : PythonText.lower metadata.fingerprintSha256 = PythonText.lower given :=
          fingerprint.trans same
        rw [← same, empty] at length
        revert length
        decide
    · cases ran

/-- The runtime is what a successful apply of the cached artifact left. -/
structure DriftTarget.IsApplied (target : DriftTarget) (artifact : Json) : Prop where
  compared : target.IsCompared artifact
  applied : ∃ env outcomes uuids before,
    Inspectable env (targetStageLayout target.targetCfg) target.inspection artifact ∧
      applyTargetStageMaterial env (targetStageLayout target.targetCfg) outcomes uuids artifact
        before = .ok target.runtime

def zeroFingerprint : String :=
  "0000000000000000000000000000000000000000000000000000000000000000"

theorem zeroFingerprint_isFingerprint : IsFingerprint zeroFingerprint :=
  isFingerprint_zeros

def peerArtifact : Json :=
  .obj [("certificates", .arr [.obj [("common_name", .str "peer"),
    ("fingerprint_sha256", .str zeroFingerprint), ("pem", .str "PEM")]])]

def peerEnvironment : StageEnvironment := ⟨fun _ => some [48], fun _ => none, 0, false⟩

def peerApply : Except FileTree FileTree :=
  applyTargetStageMaterial peerEnvironment (targetStageLayout opcuaServerCfg) smoothStage
    (fun _ => "") peerArtifact [("ApplCerts/trusted/certs/old.der", [9])]

theorem peerApply_ok : peerApply = .ok (leftFiles peerApply) := by
  have passed : peerApply.isOk = true := by decide +kernel
  cases ran : peerApply with
  | error left =>
      rw [ran] at passed
      cases passed
  | ok after => rfl

def appliedTarget : DriftTarget where
  targetCfg := opcuaServerCfg
  runtime := leftFiles peerApply
  inspection := ⟨true, fun _ => true, fun content =>
    some (if content = [9] then ⟨"99", "CN=old", "1"⟩ else ⟨zeroFingerprint, "CN=peer", "2"⟩)⟩
  cached := .ok (some peerArtifact)

theorem peerArtifact_inspectable : Inspectable peerEnvironment
    (targetStageLayout opcuaServerCfg) appliedTarget.inspection peerArtifact := by
  have only : ∀ cert ∈ certificateEntries peerArtifact, cert = .obj [("common_name", .str "peer"),
      ("fingerprint_sha256", .str zeroFingerprint), ("pem", .str "PEM")] :=
    fun cert member => List.mem_singleton.mp member
  refine ⟨rfl, ?_, ?_, ?_, ?_⟩
  · intro cert member _
    rw [only cert member]
    exact ⟨zeroFingerprint, rfl, zeroFingerprint_isFingerprint⟩
  · intro cert member
    rw [only cert member]
    decide +kernel
  · intro cert member fp der given isDer
    rw [only cert member] at given
    cases given
    cases isDer
    exact ⟨_, rfl, rfl⟩
  · intro cert member
    rw [only cert member]
    refine ⟨?_, rfl⟩
    decide +kernel

theorem appliedTarget_isApplied : appliedTarget.IsApplied peerArtifact :=
  ⟨⟨rfl, rfl⟩, peerEnvironment, smoothStage, fun _ => "",
    [("ApplCerts/trusted/certs/old.der", [9])], peerArtifact_inspectable, peerApply_ok⟩

end OpcuaGds.Agent
